import ListingReview.Proofs.Binary64.Range
import ListingReview.Proofs.Json.Numeral

/-! # JSON: numerals in the range of floats

A float is put together from the leading digits of a numeral, as many as 64 bits hold, and a power
of ten. What is lost on the way only matters next to the end of the range.

* `Numeral.magnitude_close`: the leading digits are off by less than one part in `2 ^ 60`.
* `Numeral.float?_of_le`, `Numeral.float?_of_ge`: a numeral is in range if it is four units in the
  last place below `2 ^ 1024`, and out of range if it is as many above.
* `Numeral.float?_of_exponent`: beyond the largest exponent that is looked at, only digits that are
  all nought are in range; every exponent below the smallest one is. -/

namespace ListingReview.Json

/-! ### Digits -/

theorem foldl_digits (digits : List Nat) (n : Nat) :
    digits.foldl (fun n digit => 10 * n + digit) n =
      n * 10 ^ digits.length + digitsValue digits := by
  induction digits generalizing n with
  | nil => simp [digitsValue]
  | cons digit digits ih =>
    have hfirst :
        digitsValue (digit :: digits) = digit * 10 ^ digits.length + digitsValue digits := by
      rw [digitsValue, List.foldl_cons, ih, Nat.mul_zero, Nat.zero_add]
    rw [List.foldl_cons, ih, hfirst, List.length_cons]
    ring

theorem digitsValue_cons (digit : Nat) (digits : List Nat) :
    digitsValue (digit :: digits) = digit * 10 ^ digits.length + digitsValue digits := by
  rw [digitsValue, List.foldl_cons, foldl_digits, Nat.mul_zero, Nat.zero_add]

theorem digitsValue_join (digits digits' : List Nat) :
    digitsValue (digits ++ digits') =
      digitsValue digits * 10 ^ digits'.length + digitsValue digits' := by
  rw [digitsValue, List.foldl_append, foldl_digits, ← digitsValue]

theorem digitsValue_lt {digits : List Nat} (h : ∀ digit ∈ digits, digit < 10) :
    digitsValue digits < 10 ^ digits.length := by
  induction digits with
  | nil => decide
  | cons digit digits ih =>
    obtain ⟨hdigit, hdigits⟩ := List.forall_mem_cons.mp h
    have hrest := ih hdigits
    rw [digitsValue_cons, List.length_cons, pow_succ]
    have hle : digit * 10 ^ digits.length ≤ 9 * 10 ^ digits.length :=
      Nat.mul_le_mul_right _ (by omega)
    omega

section TakeDigits

variable (n : Nat) (digits : List Nat)

theorem takeDigits_split : ∃ taken, digits = taken ++ (takeDigits n digits).2 ∧
    (takeDigits n digits).1 = n * 10 ^ taken.length + digitsValue taken := by
  induction digits generalizing n with
  | nil => exact ⟨[], rfl, by simp [takeDigits, digitsValue]⟩
  | cons digit digits ih =>
    rw [takeDigits]
    split_ifs with hfits
    · obtain ⟨taken, hdigits, hvalue⟩ := ih (10 * n + digit)
      refine ⟨digit :: taken, congrArg (digit :: ·) hdigits, hvalue.trans ?_⟩
      rw [digitsValue_cons, List.length_cons]
      ring
    · exact ⟨[], rfl, by simp [digitsValue]⟩

theorem takeDigits_lt (h : n < 2 ^ 64) : (takeDigits n digits).1 < 2 ^ 64 := by
  induction digits generalizing n with
  | nil => exact h
  | cons digit digits ih =>
    rw [takeDigits]
    split_ifs with hfits
    · exact ih _ hfits
    · exact h

/-- If digits are left, those that were taken fill more than 60 bits. -/
theorem takeDigits_full (hdigits : ∀ digit ∈ digits, digit < 10)
    (h : (takeDigits n digits).2 ≠ []) : 2 ^ 60 ≤ (takeDigits n digits).1 := by
  induction digits generalizing n with
  | nil => exact absurd rfl h
  | cons digit digits ih =>
    obtain ⟨hdigit, hrest⟩ := List.forall_mem_cons.mp hdigits
    rw [takeDigits] at h ⊢
    split_ifs at h ⊢ with hfits
    · exact ih _ hrest h
    · dsimp only
      omega

end TakeDigits

/-! ### Digits that are left out -/

/-- Two numbers are the same but for one part in `2 ^ 60`. -/
def Close (exact found : Nat) : Prop :=
  exact * 2 ^ 60 ≤ found * (2 ^ 60 + 1) ∧ found * (2 ^ 60 - 1) ≤ exact * 2 ^ 60

theorem close_of_lt {common weight rest rest' : Nat} (hweight : 2 ^ 60 * weight ≤ common)
    (hrest : rest < weight) (hrest' : rest' < weight) : Close (common + rest) (common + rest') := by
  unfold Close
  omega

theorem close_fraction {lead : Nat} {left : List Nat} (hleft : ∀ digit ∈ left, digit < 10)
    (hfull : left ≠ [] → 2 ^ 60 ≤ lead) :
    Close (lead * 10 ^ left.length + digitsValue left) (lead * 10 ^ left.length) := by
  by_cases hnil : left = []
  · subst hnil
    simp only [List.length_nil, Nat.pow_zero, digitsValue, List.foldl_nil, Close]
    omega
  · have hweight := Nat.mul_le_mul_right (10 ^ left.length) (hfull hnil)
    have hpos : 0 < 10 ^ left.length := Nat.pow_pos (by decide)
    have hclose := close_of_lt hweight (digitsValue_lt hleft) hpos
    rwa [Nat.add_zero] at hclose

/-- Digits in front of the point are left out, and some behind it are taken in their place. -/
theorem close_whole {first : Nat} {left taken left' : List Nat} (hfull : 2 ^ 60 ≤ first)
    (hleft : ∀ digit ∈ left, digit < 10) (hbehind : ∀ digit ∈ taken ++ left', digit < 10) :
    Close (first * 10 ^ (left ++ (taken ++ left')).length + digitsValue (left ++ (taken ++ left')))
      ((first * 10 ^ taken.length + digitsValue taken) * 10 ^ (left.length + left'.length)) := by
  have hlength : (left ++ (taken ++ left')).length =
      taken.length + (left.length + left'.length) := by
    simp only [List.length_append]
    omega
  have hpos : 0 < 10 ^ (left.length + left'.length) := Nat.pow_pos (by decide)
  have htaken : digitsValue taken * 10 ^ (left.length + left'.length) <
      10 ^ (left ++ (taken ++ left')).length := by
    rw [hlength, pow_add _ taken.length]
    exact Nat.mul_lt_mul_of_pos_right
      (digitsValue_lt fun d hd => hbehind d (List.mem_append_left _ hd)) hpos
  have hsplit : (first * 10 ^ taken.length + digitsValue taken) *
      10 ^ (left.length + left'.length) = first * 10 ^ (left ++ (taken ++ left')).length +
        digitsValue taken * 10 ^ (left.length + left'.length) := by
    rw [hlength, pow_add _ taken.length, Nat.add_mul, Nat.mul_assoc]
  have hweight := Nat.mul_le_mul_right (10 ^ (left ++ (taken ++ left')).length) hfull
  rw [hsplit]
  exact close_of_lt hweight (digitsValue_lt (List.forall_mem_append.mpr ⟨hleft, hbehind⟩)) htaken

/-! ### Leading digits -/

namespace Numeral

variable (numeral : Numeral)

/-- The number that a float is put together from. -/
def lead : Nat := (takeDigits (takeDigits 0 numeral.whole).1 numeral.fraction).1

/-- The number of digits that are left out of it. -/
def dropped : Nat :=
  (takeDigits 0 numeral.whole).2.length +
    (takeDigits (takeDigits 0 numeral.whole).1 numeral.fraction).2.length

/-- The power of ten that the leading digits are multiplied by. -/
def scale : Int := numeral.dropped - numeral.fraction.length + numeral.exponent.getD 0

theorem lead_lt : numeral.lead < 2 ^ 64 :=
  takeDigits_lt _ _ (takeDigits_lt _ _ (by decide))

theorem float?_eq : numeral.float? =
    (if maxExponent < numeral.exponent.getD 0 then
        if numeral.lead = 0 then some (Binary64.ofNat 0) else none
      else if numeral.exponent.getD 0 < -maxExponent then some (Binary64.ofNat 0)
      else timesPower (Binary64.ofNat numeral.lead) numeral.scale).map
        fun x => { x with negative := numeral.negative } := by
  obtain ⟨taken, hfraction, -⟩ :=
    takeDigits_split (takeDigits 0 numeral.whole).1 numeral.fraction
  have hlength := congrArg List.length hfraction
  rw [List.length_append] at hlength
  have hscale : ((takeDigits 0 numeral.whole).2.length : Int) - (numeral.fraction.length -
      (takeDigits (takeDigits 0 numeral.whole).1 numeral.fraction).2.length : Nat) +
        numeral.exponent.getD 0 = numeral.scale := by
    rw [scale, dropped]
    omega
  rw [float?, ← hscale, lead]

/-- All digits are below ten. -/
structure HasDigits : Prop where
  whole : ∀ digit ∈ numeral.whole, digit < 10
  fraction : ∀ digit ∈ numeral.fraction, digit < 10

variable {numeral}

theorem hasDigits {text : Text.Octets} (h : IsNumeral numeral text) : numeral.HasDigits := by
  obtain ⟨hwhole, -, hfraction, -⟩ := h
  exact ⟨hwhole.lt_ten, hfraction⟩

variable (hdigits : numeral.HasDigits)
include hdigits

/-- The digits left out weigh less than one part in `2 ^ 60`. -/
theorem lead_close : Close (digitsValue (numeral.whole ++ numeral.fraction))
    (numeral.lead * 10 ^ numeral.dropped) := by
  obtain ⟨hwholeDigits, hfractionDigits⟩ := hdigits
  obtain ⟨taken, hwhole, hfirst⟩ := takeDigits_split 0 numeral.whole
  obtain ⟨taken', hfraction, hlead⟩ :=
    takeDigits_split (takeDigits 0 numeral.whole).1 numeral.fraction
  have hfull := takeDigits_full 0 _ hwholeDigits
  have hfull' := takeDigits_full (takeDigits 0 numeral.whole).1 _ hfractionDigits
  rw [hwhole] at hwholeDigits
  rw [hfraction] at hfractionDigits
  have hvalue : digitsValue (numeral.whole ++ numeral.fraction) = digitsValue
      (taken ++ ((takeDigits 0 numeral.whole).2 ++
        (taken' ++ (takeDigits (takeDigits 0 numeral.whole).1 numeral.fraction).2))) := by
    rw [← List.append_assoc, ← hwhole, ← hfraction]
  rw [hvalue, lead, dropped]
  generalize takeDigits (takeDigits 0 numeral.whole).1 numeral.fraction = behind at *
  generalize takeDigits 0 numeral.whole = front at *
  obtain ⟨first, left⟩ := front
  obtain ⟨lead, left'⟩ := behind
  rw [Nat.zero_mul, Nat.zero_add] at hfirst
  dsimp only at *
  by_cases hnil : left = []
  · have hjoin : digitsValue (taken ++ (left ++ (taken' ++ left'))) =
        lead * 10 ^ left'.length + digitsValue left' := by
      rw [hnil, List.nil_append, ← List.append_assoc, digitsValue_join, digitsValue_join, hlead,
        hfirst]
    rw [hjoin, hnil, List.length_nil, Nat.zero_add]
    exact close_fraction (List.forall_mem_append.mp hfractionDigits).2 hfull'
  · rw [digitsValue_join, ← hfirst, hlead]
    exact close_whole (hfull hnil) (List.forall_mem_append.mp hwholeDigits).2 hfractionDigits

theorem magnitude_close :
    numeral.magnitude * 2 ^ 60 ≤ numeral.lead * 10 ^ numeral.scale * (2 ^ 60 + 1) ∧
      numeral.lead * 10 ^ numeral.scale * (2 ^ 60 - 1) ≤ numeral.magnitude * 2 ^ 60 := by
  have hscale : (numeral.lead : ℚ) * 10 ^ numeral.scale =
      (numeral.lead * 10 ^ numeral.dropped : Nat) *
        10 ^ (numeral.exponent.getD 0 - numeral.fraction.length) := by
    rw [scale, sub_add_eq_add_sub, add_sub_assoc, zpow_add₀ (by norm_num), zpow_natCast]
    push_cast
    ring
  have hpos : (0 : ℚ) < 10 ^ (numeral.exponent.getD 0 - numeral.fraction.length) :=
    zpow_pos (by norm_num) _
  obtain ⟨hle, hge⟩ := lead_close hdigits
  rw [hscale, magnitude]
  generalize (10 : ℚ) ^ (numeral.exponent.getD 0 - numeral.fraction.length) = power at *
  generalize numeral.lead * 10 ^ numeral.dropped = found at *
  generalize digitsValue (numeral.whole ++ numeral.fraction) = exact at *
  have hle' : (exact : ℚ) * 2 ^ 60 ≤ found * (2 ^ 60 + 1) := by exact_mod_cast hle
  have hge' : (found : ℚ) * (2 ^ 60 - 1) ≤ exact * 2 ^ 60 := by
    have hcast : (found : ℚ) * ((2 ^ 60 - 1 : Nat) : ℚ) ≤ exact * 2 ^ 60 := by exact_mod_cast hge
    rwa [Nat.cast_sub (by decide), Nat.cast_pow, Nat.cast_one, Nat.cast_ofNat] at hcast
  constructor
  · calc exact * power * 2 ^ 60 = exact * 2 ^ 60 * power := by ring
      _ ≤ found * (2 ^ 60 + 1) * power := mul_le_mul_of_nonneg_right hle' hpos.le
      _ = found * power * (2 ^ 60 + 1) := by ring
  · calc found * power * (2 ^ 60 - 1) = found * (2 ^ 60 - 1) * power := by ring
      _ ≤ exact * 2 ^ 60 * power := mul_le_mul_of_nonneg_right hge' hpos.le
      _ = exact * power * 2 ^ 60 := by ring

end Numeral

/-! ### Powers of ten -/

open Binary64 (ofNat infinity)

theorem timesPower_of_neg (x : Binary64) {exponent : Int} (h : exponent < 0) :
    ∃ y, timesPower x exponent = some y := by
  fun_induction timesPower x exponent with
  | case1 => exact ⟨_, rfl⟩
  | case2 => omega
  | case3 => omega
  | case4 => omega
  | case5 => exact ⟨_, rfl⟩
  | case6 x exponent _ _ _ _ ih => exact ih (by omega)

/-- What the bounds below come down to. -/
theorem tenPower_facts : 10 ^ 308 ≤ (2 ^ 53 - 1) * 2 ^ 971 ∧ 2 ^ 64 ≤ (2 ^ 53 - 1) * 2 ^ 971 ∧
    (2 ^ 53 - 4) * 2 ^ 971 * 2 ^ 60 < 10 ^ 309 * (2 ^ 60 - 1) ∧
    2 ^ 65 < (2 ^ 53 + 4) * 2 ^ 971 := by
  decide +kernel

section Natural

variable {n exponent : Nat}

theorem tenPower_finite (h : exponent ≤ 308) : (ofNat (10 ^ exponent)).magnitude < infinity := by
  have hle : 10 ^ exponent ≤ 10 ^ 308 := pow_le_pow_right₀ (by decide) h
  exact Binary64.ofNat_finite (Nat.le_trans hle tenPower_facts.1)

theorem timesPower_zero (exponent : Int) :
    timesPower (ofNat 0) exponent = some (ofNat 0) := by
  rw [timesPower, Binary64.ofNat_zero]
  rfl

theorem timesPower_natural (h0 : n ≠ 0) (h : exponent ≤ 308) :
    timesPower (ofNat n) exponent =
      if (Binary64.mul (ofNat n) (ofNat (10 ^ exponent))).isInfinite then none
      else some (Binary64.mul (ofNat n) (ofNat (10 ^ exponent))) := by
  rw [timesPower, if_neg (Binary64.ofNat_ne_zero h0), if_neg (by omega), if_pos (by omega)]
  rfl

theorem timesPower_of_le (hn : n < 2 ^ 64)
    (h : n * 10 ^ exponent * (2 ^ 60 - 1) ≤ (2 ^ 53 - 4) * 2 ^ 971 * 2 ^ 60) :
    ∃ y, timesPower (ofNat n) exponent = some y := by
  rcases Nat.eq_zero_or_pos n with rfl | hpos
  · exact ⟨_, timesPower_zero _⟩
  · have hexponent : exponent ≤ 308 := by
      by_contra hlt
      have hlarge : 309 ≤ exponent := by omega
      have hpow : 10 ^ 309 ≤ 10 ^ exponent := pow_le_pow_right₀ (by decide) hlarge
      have hproduct := Nat.le_trans hpow (Nat.le_mul_of_pos_left _ hpos)
      exact Nat.not_le.mpr tenPower_facts.2.2.1
        (Nat.le_trans (Nat.mul_le_mul_right (2 ^ 60 - 1) hproduct) h)
    have hfinite := Binary64.ofNat_finite (hn.le.trans tenPower_facts.2.1)
    have hproduct := Binary64.mul_ofNat_finite hfinite (tenPower_finite hexponent) hpos.ne' (by
      generalize n * 10 ^ exponent = product at *
      generalize 2 ^ 971 = ulp at *
      omega)
    rw [timesPower_natural hpos.ne' hexponent, hproduct]
    exact ⟨_, rfl⟩

theorem timesPower_of_ge (hn : n < 2 ^ 64)
    (h : (2 ^ 53 + 4) * 2 ^ 971 * 2 ^ 60 ≤ n * 10 ^ exponent * (2 ^ 60 + 1)) :
    timesPower (ofNat n) exponent = none := by
  have h0 : n ≠ 0 := by
    rintro rfl
    have hulp : 0 < 2 ^ 971 := pow_pos (by decide) 971
    generalize 2 ^ 971 = ulp at *
    omega
  by_cases hexponent : exponent ≤ 308
  · have hfinite := Binary64.ofNat_finite (hn.le.trans tenPower_facts.2.1)
    have hsquare : (2 ^ 53 - 1) ^ 2 = 81129638414606663681390495662081 := by norm_num
    have hproduct := Binary64.mul_ofNat_infinite hfinite (tenPower_finite hexponent) h0 (by
      rw [hsquare]
      generalize n * 10 ^ exponent = product at h ⊢
      generalize 2 ^ 971 = ulp at h ⊢
      linarith)
    rw [timesPower_natural h0 hexponent, hproduct]
    rfl
  · rw [timesPower, if_neg (Binary64.ofNat_ne_zero h0), if_pos (by omega)]

end Natural

/-! ### Numerals out of range -/

namespace Numeral

variable {numeral : Numeral}

theorem magnitude_nonneg : 0 ≤ numeral.magnitude :=
  mul_nonneg (Nat.cast_nonneg _) (zpow_nonneg (by norm_num) _)

/-- An exponent that is looked at. -/
def IsModest (numeral : Numeral) : Prop :=
  -maxExponent ≤ numeral.exponent.getD 0 ∧ numeral.exponent.getD 0 ≤ maxExponent

theorem IsModest.float?_eq (h : numeral.IsModest) : numeral.float? =
    (timesPower (ofNat numeral.lead) numeral.scale).map
      fun x => { x with negative := numeral.negative } := by
  rw [Numeral.float?_eq, if_neg (not_lt.mpr h.2), if_neg (not_lt.mpr h.1)]

theorem range_ends : (2 : ℚ) ^ 1024 - 2 ^ 973 = ((2 ^ 53 - 4) * 2 ^ 971 : ℕ) ∧
    (2 : ℚ) ^ 1024 + 2 ^ 973 = ((2 ^ 53 + 4) * 2 ^ 971 : ℕ) := by
  have hend : (2 : ℚ) ^ 1024 = 2 ^ 53 * 2 ^ 971 := (pow_add 2 53 971)
  have hunits : (2 : ℚ) ^ 973 = 2 ^ 2 * 2 ^ 971 := (pow_add 2 2 971)
  rw [hend, hunits, Nat.cast_mul, Nat.cast_mul, Nat.cast_pow 2 971]
  generalize ((2 : ℕ) : ℚ) ^ 971 = ulp
  norm_num
  constructor <;> ring

variable (hdigits : numeral.HasDigits)
include hdigits

theorem lead_eq_zero : numeral.lead = 0 ↔ numeral.magnitude = 0 := by
  obtain ⟨hle, hge⟩ := magnitude_close hdigits
  have hpos : (0 : ℚ) < 10 ^ numeral.scale := zpow_pos (by norm_num) _
  constructor
  · intro h
    rw [h, Nat.cast_zero, zero_mul, zero_mul] at hle
    linarith [numeral.magnitude_nonneg]
  · intro h
    rw [h, zero_mul] at hge
    have hzero : (numeral.lead : ℚ) * 10 ^ numeral.scale ≤ 0 := by linarith
    have hlead := nonpos_of_mul_nonpos_left hzero hpos
    exact Nat.eq_zero_of_le_zero (by exact_mod_cast hlead)

/-- **Four units in the last place below the end of the range** a numeral is in range. -/
theorem float?_of_le (hmodest : numeral.IsModest) (h : numeral.magnitude ≤ 2 ^ 1024 - 2 ^ 973) :
    ∃ x, numeral.float? = some x := by
  have hpower : ∃ y, timesPower (ofNat numeral.lead) numeral.scale = some y := by
    rcases lt_or_ge numeral.scale 0 with hneg | hnat
    · exact timesPower_of_neg _ hneg
    · obtain ⟨exponent, hscale⟩ := Int.eq_ofNat_of_zero_le hnat
      have hclose := (magnitude_close hdigits).2
      rw [hscale, zpow_natCast] at hclose
      have hle : ((numeral.lead * 10 ^ exponent * (2 ^ 60 - 1) : ℕ) : ℚ) ≤
          ((2 ^ 53 - 4) * 2 ^ 971 * 2 ^ 60 : ℕ) := by
        rw [range_ends.1] at h
        rw [Nat.cast_mul _ (2 ^ 60)]
        generalize (2 ^ 53 - 4) * 2 ^ 971 = bound at h ⊢
        push_cast
        linarith
      rw [hscale]
      exact timesPower_of_le numeral.lead_lt (by exact_mod_cast hle)
  obtain ⟨y, hy⟩ := hpower
  rw [hmodest.float?_eq, hy]
  exact ⟨_, rfl⟩

/-- **Four units in the last place above the end of the range** a numeral is out of range. -/
theorem float?_of_ge (hmodest : numeral.IsModest) (h : 2 ^ 1024 + 2 ^ 973 ≤ numeral.magnitude) :
    numeral.float? = none := by
  have hclose := (magnitude_close hdigits).1
  have hpower : timesPower (ofNat numeral.lead) numeral.scale = none := by
    rcases lt_or_ge numeral.scale 0 with hneg | hnat
    · have hle : (10 : ℚ) ^ numeral.scale ≤ 1 := zpow_le_one_of_nonpos₀ (by norm_num) hneg.le
      have hlead : (numeral.lead : ℚ) ≤ 2 ^ 64 := by exact_mod_cast numeral.lead_lt.le
      have hproduct := mul_le_mul hlead hle (zpow_nonneg (by norm_num) _) (by norm_num)
      have hbound : (2 : ℚ) ^ 65 < ((2 ^ 53 + 4) * 2 ^ 971 : ℕ) := by
        exact_mod_cast tenPower_facts.2.2.2
      rw [range_ends.2] at h
      generalize (2 ^ 53 + 4) * 2 ^ 971 = bound at h hbound
      linarith
    · obtain ⟨exponent, hscale⟩ := Int.eq_ofNat_of_zero_le hnat
      rw [hscale, zpow_natCast] at hclose
      have hge : (((2 ^ 53 + 4) * 2 ^ 971 * 2 ^ 60 : ℕ) : ℚ) ≤
          (numeral.lead * 10 ^ exponent * (2 ^ 60 + 1) : ℕ) := by
        rw [range_ends.2] at h
        rw [Nat.cast_mul _ (2 ^ 60)]
        generalize (2 ^ 53 + 4) * 2 ^ 971 = bound at h ⊢
        push_cast
        linarith
      rw [hscale]
      exact timesPower_of_ge numeral.lead_lt (by exact_mod_cast hge)
  rw [hmodest.float?_eq, hpower]
  rfl

/-- **An exponent that is not looked at** is out of range if it is positive and any digit counts. -/
theorem float?_of_exponent :
    (maxExponent < numeral.exponent.getD 0 → (numeral.float? = none ↔ numeral.magnitude ≠ 0)) ∧
      (numeral.exponent.getD 0 < -maxExponent → ∃ x, numeral.float? = some x) := by
  constructor
  · intro hlarge
    rw [float?_eq, if_pos hlarge, ne_eq, ← lead_eq_zero hdigits]
    split_ifs with hzero
    · simp [hzero]
    · simp [hzero]
  · intro hsmall
    have hpos : 0 < maxExponent := by decide
    rw [float?_eq, if_neg (by omega), if_pos hsmall]
    exact ⟨_, rfl⟩

end Numeral

end ListingReview.Json
