import ListingReview.Binary64.Basic
import Mathlib.Order.Monotone.Basic
import Mathlib.Tactic.Linarith
import Mathlib.Tactic.Ring

/-! # Binary64: rounding to the nearest

`nearest` is rounding to the nearest number, ties to the even magnitude.

* `stepsOf_strictMono`: magnitudes are in the order of what they stand for.
* `gap_nearest`: no magnitude is closer to the quotient than the one `nearest` gives, and if another
  one is as close, the one given is even.
* `nearest_mono`: rounding keeps the order.

Magnitudes go on beyond `infinity` in the same way, so all of this is first said of `rounded`, which
is `nearest` without an upper end. -/

namespace ListingReview.Binary64

/-! ### Magnitudes as 53 bits and a shift -/

theorem leadingBit_eq : leadingBit = 4503599627370496 := rfl

theorem leadingBit_pos : 0 < leadingBit := by decide

theorem stepsOf_subnormal {fraction : Nat} (h : fraction < leadingBit) :
    stepsOf fraction = fraction := by
  simp only [stepsOf, Nat.div_eq_of_lt h, Nat.mod_eq_of_lt h, if_true]

theorem stepsOf_normal {shift fraction : Nat} (h : fraction < leadingBit) :
    stepsOf ((shift + 1) * leadingBit + fraction) = (leadingBit + fraction) * 2 ^ shift := by
  have hdiv : ((shift + 1) * leadingBit + fraction) / leadingBit = shift + 1 := by
    rw [Nat.mul_comm, Nat.mul_add_div leadingBit_pos, Nat.div_eq_of_lt h, Nat.add_zero]
  have hmod : ((shift + 1) * leadingBit + fraction) % leadingBit = fraction := by
    rw [Nat.mul_add_mod_self_right, Nat.mod_eq_of_lt h]
  simp only [stepsOf, hdiv, hmod, if_neg (Nat.succ_ne_zero shift), Nat.add_sub_cancel,
    Nat.shiftLeft_eq]

/-- A magnitude made of a shift and at most 53 bits, or the bit above them. -/
theorem stepsOf_shifted {shift bits : Nat} (hle : bits ≤ 2 * leadingBit)
    (hnorm : shift = 0 ∨ leadingBit ≤ bits) :
    stepsOf (shift * leadingBit + bits) = bits * 2 ^ shift := by
  rcases Nat.lt_or_ge bits leadingBit with hlt | hge
  · obtain rfl := hnorm.resolve_right (Nat.not_le.mpr hlt)
    rw [Nat.zero_mul, Nat.zero_add, stepsOf_subnormal hlt, Nat.pow_zero, Nat.mul_one]
  · obtain ⟨fraction, rfl⟩ := Nat.exists_eq_add_of_le hge
    rcases Nat.lt_or_ge fraction leadingBit with hlt | hge'
    · have hsum : shift * leadingBit + (leadingBit + fraction) =
          (shift + 1) * leadingBit + fraction := by ring
      rw [hsum, stepsOf_normal hlt]
    · -- the carry makes the exponent grow by one
      obtain rfl : fraction = leadingBit := by omega
      have hsum : shift * leadingBit + (leadingBit + leadingBit) =
          (shift + 1 + 1) * leadingBit + 0 := by ring
      rw [hsum, stepsOf_normal leadingBit_pos, Nat.pow_succ]
      ring

theorem exists_shifted (magnitude : Nat) :
    ∃ shift bits, magnitude = shift * leadingBit + bits ∧ bits < 2 * leadingBit ∧
      (shift = 0 ∨ leadingBit ≤ bits) := by
  rw [leadingBit_eq]
  refine ⟨magnitude / 4503599627370496 - 1,
    magnitude - (magnitude / 4503599627370496 - 1) * 4503599627370496, ?_, ?_, ?_⟩ <;> omega

theorem stepsOf_strictMono : StrictMono stepsOf := by
  refine strictMono_nat_of_lt_succ fun magnitude => ?_
  obtain ⟨shift, bits, rfl, hlt, hnorm⟩ := exists_shifted magnitude
  rw [Nat.add_assoc, stepsOf_shifted (by omega) hnorm, stepsOf_shifted (by omega) (by omega)]
  exact Nat.mul_lt_mul_of_pos_right (Nat.lt_succ_self bits) (Nat.two_pow_pos shift)

/-! ### Distances -/

/-- How far a number of steps is from the quotient `num / den`, in parts of `1 / den`. -/
def gap (steps num den : Nat) : Nat := ((steps : Int) * den - num).natAbs

/-- `best` is closest to the quotient among all whole numbers, and even if another one is as close.
-/
def ClosestWhole (best num den : Nat) : Prop :=
  ∀ other, gap best num den < gap other num den ∨
    gap best num den = gap other num den ∧ (other = best ∨ best % 2 = 0)

theorem closestWhole_halfEven {num den : Nat} (hden : 0 < den) :
    ClosestWhole (halfEven num den) num den := by
  intro other
  have hnum := Nat.div_add_mod num den
  have hrest := Nat.mod_lt num hden
  unfold halfEven gap
  dsimp only
  generalize num / den = quotient at *
  generalize num % den = rest at *
  -- the candidates are the quotient and its successor; all others are off by more than `den`
  have hbelow : other + 1 ≤ quotient → other * den + den ≤ den * quotient := by
    intro h
    calc other * den + den = den * (other + 1) := by ring
      _ ≤ den * quotient := Nat.mul_le_mul_left den h
  have habove : quotient + 2 ≤ other → den * quotient + 2 * den ≤ other * den := by
    intro h
    calc den * quotient + 2 * den = den * (quotient + 2) := by ring
      _ ≤ den * other := Nat.mul_le_mul_left den h
      _ = other * den := Nat.mul_comm den other
  have hcomm : ((quotient : Int)) * den = ((den * quotient : Nat) : Int) := by push_cast; ring
  have hsucc : ((quotient + 1 : Nat) : Int) * den = ((den * quotient : Nat) : Int) + den := by
    push_cast; ring
  rw [← hnum]
  generalize hp : den * quotient = product at *
  rcases Nat.lt_trichotomy other quotient with hlt | rfl | hgt
  · have := hbelow hlt
    split_ifs <;> omega
  · split_ifs <;> omega
  · rcases Nat.lt_or_ge other (quotient + 2) with hlt' | hge
    · obtain rfl : other = quotient + 1 := by omega
      split_ifs <;> omega
    · have := habove hge
      split_ifs <;> omega

/-- Cutting bits off only changes the scale. -/
theorem gap_shiftLeft (bits num den shift : Nat) :
    gap bits num (den <<< shift) = gap (bits * 2 ^ shift) num den := by
  unfold gap
  rw [Nat.shiftLeft_eq]
  push_cast
  congr 2
  ring

/-! ### Rounding without an upper end -/

/-- The bits that are cut off so that 53 are left. -/
def cut (num den : Nat) : Nat := Nat.log2 (num / den) - 52

/-- `nearest` without an upper end. -/
def rounded (num den : Nat) : Nat :=
  cut num den * leadingBit + halfEven num (den <<< cut num den)

theorem nearest_eq_min (num den : Nat) : nearest num den = min (rounded num den) infinity := by
  unfold nearest rounded cut
  dsimp only
  split_ifs <;> omega

theorem halfEven_le_succ (num den : Nat) : halfEven num den ≤ num / den + 1 := by
  unfold halfEven
  dsimp only
  split_ifs <;> omega

theorem div_le_halfEven (num den : Nat) : num / den ≤ halfEven num den := by
  unfold halfEven
  dsimp only
  split_ifs <;> omega

theorem div_shiftLeft (num den shift : Nat) :
    num / (den <<< shift) = num / den / 2 ^ shift := by
  rw [Nat.shiftLeft_eq, Nat.div_div_eq_div_mul]

/-- At most 53 bits are left, or the bit above them. -/
theorem halfEven_cut_le (num den : Nat) :
    halfEven num (den <<< cut num den) ≤ 2 * leadingBit := by
  have hlt : num / den < 2 ^ (53 + cut num den) := by
    refine Nat.lt_of_lt_of_le Nat.lt_log2_self (Nat.pow_le_pow_right (by decide) ?_)
    unfold cut
    omega
  have hdiv : num / (den <<< cut num den) < 2 ^ 53 := by
    rw [div_shiftLeft, Nat.div_lt_iff_lt_mul (Nat.two_pow_pos _), ← Nat.pow_add]
    exact hlt
  have := halfEven_le_succ num (den <<< cut num den)
  rw [leadingBit_eq]
  omega

/-- If bits are cut off, no fewer than 53 are left. -/
theorem leadingBit_le_div {num den : Nat} (h : cut num den ≠ 0) :
    leadingBit ≤ num / (den <<< cut num den) := by
  have hlog : Nat.log2 (num / den) = 52 + cut num den := by
    unfold cut at h ⊢
    omega
  have hne : num / den ≠ 0 := by
    intro h0
    simp [h0] at hlog
    omega
  rw [div_shiftLeft, Nat.le_div_iff_mul_le (Nat.two_pow_pos _), show leadingBit = 2 ^ 52 from rfl,
    ← Nat.pow_add, ← hlog]
  exact Nat.log2_self_le hne

theorem stepsOf_rounded (num den : Nat) :
    stepsOf (rounded num den) = halfEven num (den <<< cut num den) * 2 ^ cut num den := by
  refine stepsOf_shifted (halfEven_cut_le num den) ?_
  by_cases h : cut num den = 0
  · exact Or.inl h
  · exact Or.inr ((leadingBit_le_div h).trans (div_le_halfEven _ _))

/-- Below the quotient the larger number is the closer one. -/
theorem gap_lt_gap {x y num den : Nat} (hxy : x < y) (hden : 0 < den) (hy : y * den ≤ num) :
    gap y num den < gap x num den := by
  have hstep : x * den + den ≤ y * den := by
    rw [← Nat.succ_mul]
    exact Nat.mul_le_mul_right den hxy
  unfold gap
  omega

/-- **Rounding to the nearest, ties to even**, without an upper end. -/
theorem gap_rounded {num den : Nat} (hden : 0 < den) (other : Nat) :
    gap (stepsOf (rounded num den)) num den < gap (stepsOf other) num den ∨
      gap (stepsOf (rounded num den)) num den = gap (stepsOf other) num den ∧
        (other = rounded num den ∨ rounded num den % 2 = 0) := by
  have hden' : 0 < den <<< cut num den := by
    rw [Nat.shiftLeft_eq]
    exact Nat.mul_pos hden (Nat.two_pow_pos _)
  have hclosest : ClosestWhole (halfEven num (den <<< cut num den)) num (den <<< cut num den) :=
    closestWhole_halfEven hden'
  obtain ⟨shift, bits, hother, hbits, hnorm⟩ := exists_shifted other
  have hsteps : stepsOf other = bits * 2 ^ shift := by
    rw [hother, stepsOf_shifted hbits.le hnorm]
  rw [stepsOf_rounded, ← gap_shiftLeft]
  rcases Nat.lt_or_ge shift (cut num den) with hlt | hge
  · -- the other one is finer, so it lies below the leading bit, and that below the quotient
    left
    have hbelow : stepsOf other < leadingBit * 2 ^ cut num den := by
      calc stepsOf other = bits * 2 ^ shift := hsteps
        _ < 2 * leadingBit * 2 ^ shift := Nat.mul_lt_mul_of_pos_right hbits (Nat.two_pow_pos _)
        _ = leadingBit * 2 ^ (shift + 1) := by ring
        _ ≤ leadingBit * 2 ^ cut num den :=
          Nat.mul_le_mul_left _ (Nat.pow_le_pow_right (by decide) hlt)
    have hle : leadingBit * 2 ^ cut num den * den ≤ num := by
      have h : leadingBit ≤ num / (den <<< cut num den) := leadingBit_le_div (by omega)
      rw [Nat.le_div_iff_mul_le hden', Nat.shiftLeft_eq] at h
      linarith
    have hlead := gap_lt_gap hbelow hden hle
    rw [← gap_shiftLeft] at hlead
    rcases hclosest leadingBit with h | ⟨h, -⟩
    · exact h.trans hlead
    · exact h.trans_lt hlead
  · -- the other one is as coarse: a whole number at the scale of the quotient cut down
    have hscaled : stepsOf other = bits * 2 ^ (shift - cut num den) * 2 ^ cut num den := by
      rw [hsteps, Nat.mul_assoc, ← Nat.pow_add, Nat.sub_add_cancel hge]
    rw [hscaled, ← gap_shiftLeft]
    refine (hclosest (bits * 2 ^ (shift - cut num den))).imp_right fun ⟨h, hor⟩ => ⟨h, ?_⟩
    rcases hor with hsame | heven
    · left
      refine stepsOf_strictMono.injective ?_
      rw [hscaled, hsame, stepsOf_rounded]
    · right
      unfold rounded
      rw [leadingBit_eq]
      omega

theorem rounded_mono {num num' den : Nat} (hden : 0 < den) (h : num ≤ num') :
    rounded num den ≤ rounded num' den := by
  by_contra hlt
  have hsteps := stepsOf_strictMono (Nat.not_le.mp hlt)
  have hprod := Nat.mul_lt_mul_of_pos_right hsteps hden
  have hgap := @gap_rounded num den hden (rounded num' den)
  have hgap' := @gap_rounded num' den hden (rounded num den)
  -- both quotients would lie at the middle of the two numbers
  have hnum : num = num' := by
    unfold gap at hgap hgap'
    omega
  exact hlt (hnum ▸ Nat.le_refl _)

/-! ### Rounding -/

theorem nearest_mono {num num' den : Nat} (hden : 0 < den) (h : num ≤ num') :
    nearest num den ≤ nearest num' den := by
  rw [nearest_eq_min, nearest_eq_min]
  exact min_le_min_right _ (rounded_mono hden h)

theorem nearest_le_infinity (num den : Nat) : nearest num den ≤ infinity := by
  rw [nearest_eq_min]
  exact Nat.min_le_right _ _

/-- **Rounding to the nearest, ties to even**, of a quotient that does not overflow. -/
theorem gap_nearest {num den : Nat} (hden : 0 < den) (h : nearest num den < infinity)
    (other : Nat) :
    gap (stepsOf (nearest num den)) num den < gap (stepsOf other) num den ∨
      gap (stepsOf (nearest num den)) num den = gap (stepsOf other) num den ∧
        (other = nearest num den ∨ nearest num den % 2 = 0) := by
  have hrounded : nearest num den = rounded num den := by
    rw [nearest_eq_min] at h ⊢
    omega
  rw [hrounded]
  exact gap_rounded hden other

/-! ### Numbers with a sign -/

/-- How far a number is from the quotient `num / den`, in parts of `1 / den` of a step. -/
def distance (x : Binary64) (num den : Nat) : Nat := (x.steps * den - (num * unit : Nat)).natAbs

/-- A positive number with the magnitude closest to a quotient is the closest number of all. -/
theorem distance_lt {x other : Binary64} {num den : Nat} (hden : 0 < den)
    (hx : x.negative = false)
    (hgap : ∀ magnitude, magnitude ≠ x.magnitude →
      gap (stepsOf x.magnitude) (num * unit) den < gap (stepsOf magnitude) (num * unit) den)
    (hother : other.steps ≠ x.steps) : x.distance num den < other.distance num den := by
  have hxs : x.steps = stepsOf x.magnitude := by simp [steps, hx]
  have hzero : stepsOf 0 = 0 := rfl
  unfold distance
  unfold gap at hgap
  rcases hs : other.negative with _ | _
  · have hos : other.steps = stepsOf other.magnitude := by simp [steps, hs]
    rw [hxs, hos] at hother ⊢
    have := hgap other.magnitude fun h => hother (by rw [h])
    omega
  · have hos : other.steps = -(stepsOf other.magnitude : Int) := by simp [steps, hs]
    rw [hxs, hos] at hother ⊢
    by_cases hm : other.magnitude = x.magnitude
    · rw [hm] at hother ⊢
      -- the same magnitude on the other side of zero; zero itself is farther than `x`
      have hpos : 0 < stepsOf x.magnitude := by omega
      have hcmp := hgap 0 fun h => by rw [← h, hzero] at hpos; omega
      have hprod := Nat.mul_pos hpos hden
      rw [hzero] at hcmp
      rw [Int.neg_mul]
      omega
    · have := hgap other.magnitude hm
      have hprod : (0 : Int) ≤ stepsOf other.magnitude * den := by positivity
      rw [Int.neg_mul]
      omega

end ListingReview.Binary64
