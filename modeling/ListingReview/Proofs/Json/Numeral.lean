import Mathlib.Algebra.Order.Field.Rat
import Mathlib.Algebra.Order.Ring.Cast
import ListingReview.Proofs.Json.Front
import ListingReview.Proofs.Json.Scalar

/-! # JSON: numerals by their values

A numeral stands for a rational number (`Numeral.value`). It is held as a whole number just if it is
written plainly, without fraction and exponent and not as minus zero, and fits into 64 bits with or
without a sign (`IsBetween.unsigned`, `IsBetween.negative`); every other one is held as a float
(`number?_float`).

A value asked for as a number is what its numeral is held as (`IsNumeral.isNumber_iff`), one asked
for as a whole number with a sign has to be such a number (`IsNumeral.isSigned_iff`). -/

namespace ListingReview.Json

open Text (Octets octets)

namespace Numeral

/-- Written with neither fraction nor exponent, and not as minus zero. -/
structure IsPlain (numeral : Numeral) : Prop where
  fraction : numeral.fraction = []
  exponent : numeral.exponent = none
  ne_minusZero : numeral.negative = true → digitsValue numeral.whole ≠ 0

/-- What the digits in front of the point stand for, with the sign. -/
def integer (numeral : Numeral) : Int :=
  if numeral.negative then -digitsValue numeral.whole else digitsValue numeral.whole

/-- A plain numeral for a whole number from the first bound up to the second one. -/
structure IsBetween (numeral : Numeral) (low high : Int) : Prop where
  plain : numeral.IsPlain
  low_le : low ≤ numeral.integer
  lt_high : numeral.integer < high

/-- What the digits and the exponent stand for, without the sign. -/
def magnitude (numeral : Numeral) : ℚ :=
  digitsValue (numeral.whole ++ numeral.fraction) *
    10 ^ (numeral.exponent.getD 0 - numeral.fraction.length)

/-- The number that the numeral stands for. -/
def value (numeral : Numeral) : ℚ :=
  if numeral.negative then -numeral.magnitude else numeral.magnitude

variable {numeral : Numeral}

theorem IsPlain.isWhole (h : numeral.IsPlain) : numeral.isWhole = true := by
  rw [Numeral.isWhole, h.fraction, h.exponent]
  rfl

theorem IsPlain.value_eq (h : numeral.IsPlain) : numeral.value = numeral.integer := by
  have hmagnitude : numeral.magnitude = digitsValue numeral.whole := by
    simp [magnitude, h.fraction, h.exponent]
  rw [value, integer, hmagnitude]
  split_ifs <;> simp

/-- The bounds may be put on the value of a plain numeral. -/
theorem IsPlain.isBetween_iff (h : numeral.IsPlain) {low high : Int} :
    numeral.IsBetween low high ↔ (low : ℚ) ≤ numeral.value ∧ numeral.value < high := by
  rw [h.value_eq, Int.cast_le, Int.cast_lt]
  exact ⟨fun hbetween => ⟨hbetween.low_le, hbetween.lt_high⟩,
    fun hbounds => ⟨h, hbounds.1, hbounds.2⟩⟩

theorem number?_unsigned (h : numeral.IsPlain) {n : UInt64} (hn : numeral.integer = n.toNat) :
    numeral.number? = some (.unsigned n) := by
  have hlt := n.toNat_lt
  have hsign : numeral.negative = false := by
    rw [← Bool.not_eq_true]
    intro hnegative
    have := h.ne_minusZero hnegative
    rw [integer, if_pos hnegative] at hn
    omega
  rw [integer, hsign, if_neg Bool.false_ne_true, Int.ofNat_inj] at hn
  rw [number?, h.isWhole, hsign, hn]
  simp [hlt]

theorem number?_negative (h : numeral.IsPlain) {n : Int64} (hn : numeral.integer = n.toInt)
    (hneg : numeral.integer < 0) : numeral.number? = some (.negative n) := by
  have hle := n.le_toInt
  have hsign : numeral.negative = true := by
    rw [← Bool.not_eq_false]
    intro hpositive
    rw [integer, hpositive, if_neg Bool.false_ne_true] at hneg
    omega
  rw [integer, if_pos hsign] at hn hneg
  have h0 : 0 < digitsValue numeral.whole := by omega
  have hbound : digitsValue numeral.whole ≤ 0x8000000000000000 := by omega
  rw [number?, h.isWhole, hsign]
  simp [h0, hbound, hn]

theorem number?_float (h : ¬ numeral.IsBetween (-2 ^ 63) (2 ^ 64)) :
    numeral.number? = numeral.float?.map .float := by
  have hplain (hwhole : numeral.isWhole = true)
      (hzero : numeral.negative = true → digitsValue numeral.whole ≠ 0) : numeral.IsPlain := by
    rw [Numeral.isWhole, Bool.and_eq_true, List.isEmpty_iff, Option.isNone_iff_eq_none] at hwhole
    exact ⟨hwhole.1, hwhole.2, hzero⟩
  rw [number?, if_neg, if_neg]
  · simp only [Bool.and_eq_true, decide_eq_true_eq]
    rintro ⟨⟨⟨hwhole, hnegative⟩, hpos⟩, hle⟩
    refine h ⟨hplain hwhole fun _ => by omega, ?_, ?_⟩ <;> rw [integer, if_pos hnegative] <;> omega
  · simp only [Bool.and_eq_true, Bool.not_eq_true', decide_eq_true_eq]
    rintro ⟨⟨hwhole, hpositive⟩, hlt⟩
    have hsign : numeral.integer = digitsValue numeral.whole := by
      rw [integer, hpositive, if_neg Bool.false_ne_true]
    refine h ⟨hplain hwhole fun hnegative => ?_, ?_, ?_⟩
    · rw [hpositive] at hnegative
      cases hnegative
    · omega
    · omega

theorem IsBetween.mono {low high low' high' : Int} (h : numeral.IsBetween low high)
    (hlow : low' ≤ low) (hhigh : high ≤ high') : numeral.IsBetween low' high' :=
  ⟨h.plain, hlow.trans h.low_le, h.lt_high.trans_le hhigh⟩

theorem IsBetween.unsigned (h : numeral.IsBetween 0 (2 ^ 64)) :
    ∃ n : UInt64, (n.toNat : Int) = numeral.integer ∧ numeral.number? = some (.unsigned n) := by
  obtain ⟨n, hn⟩ := Int.eq_ofNat_of_zero_le h.low_le
  have hlt : n < UInt64.size := by
    have := h.lt_high
    rw [UInt64.size]
    omega
  have hvalue : numeral.integer = (UInt64.ofNat n).toNat := by
    rw [hn, UInt64.toNat_ofNat_of_lt' hlt]
  exact ⟨UInt64.ofNat n, hvalue.symm, number?_unsigned h.plain hvalue⟩

theorem IsBetween.negative (h : numeral.IsBetween (-2 ^ 63) 0) :
    ∃ n : Int64, n.toInt = numeral.integer ∧ numeral.number? = some (.negative n) := by
  have hvalue : (Int64.ofInt numeral.integer).toInt = numeral.integer :=
    Int64.toInt_ofInt_of_le h.low_le (h.lt_high.trans (by decide))
  exact ⟨_, hvalue, number?_negative h.plain hvalue.symm h.lt_high⟩

/-- The whole number that a numeral is held as, if it is one. -/
theorem toInt?_iff {k : Int} :
    (∃ number, numeral.number? = some number ∧ number.toInt? = some k) ↔
      numeral.IsBetween (-2 ^ 63) (2 ^ 64) ∧ numeral.integer = k := by
  constructor
  · rintro ⟨number, hnumber, hk⟩
    by_cases h : numeral.IsBetween (-2 ^ 63) (2 ^ 64)
    · refine ⟨h, ?_⟩
      rcases lt_or_ge numeral.integer 0 with hneg | hnat
      · obtain ⟨n, hn, hfound⟩ := IsBetween.negative ⟨h.plain, h.low_le, hneg⟩
        cases hnumber.symm.trans hfound
        exact hn.symm.trans (Option.some.inj hk)
      · obtain ⟨n, hn, hfound⟩ := IsBetween.unsigned ⟨h.plain, hnat, h.lt_high⟩
        cases hnumber.symm.trans hfound
        exact hn.symm.trans (Option.some.inj hk)
    · rw [number?_float h] at hnumber
      obtain ⟨x, -, rfl⟩ := Option.map_eq_some_iff.mp hnumber
      cases hk
  · rintro ⟨h, rfl⟩
    rcases lt_or_ge numeral.integer 0 with hneg | hnat
    · obtain ⟨n, hn, hfound⟩ := IsBetween.negative ⟨h.plain, h.low_le, hneg⟩
      exact ⟨_, hfound, congrArg some hn⟩
    · obtain ⟨n, hn, hfound⟩ := IsBetween.unsigned ⟨h.plain, hnat, h.lt_high⟩
      exact ⟨_, hfound, congrArg some hn⟩

theorem of_unsigned {n : UInt64} (h : numeral.number? = some (.unsigned n)) :
    numeral.IsPlain ∧ numeral.integer = n.toNat := by
  obtain ⟨hbetween, hvalue⟩ := toInt?_iff.mp ⟨_, h, rfl⟩
  exact ⟨hbetween.plain, hvalue⟩

theorem of_negative {n : Int64} (h : numeral.number? = some (.negative n)) :
    numeral.IsPlain ∧ numeral.integer = n.toInt ∧ numeral.integer < 0 := by
  obtain ⟨hbetween, hvalue⟩ := toInt?_iff.mp ⟨_, h, rfl⟩
  refine ⟨hbetween.plain, hvalue, lt_of_not_ge fun hnat => ?_⟩
  obtain ⟨n', -, hfound⟩ := IsBetween.unsigned ⟨hbetween.plain, hnat, hbetween.lt_high⟩
  rw [h] at hfound
  cases hfound

theorem of_float {x : Binary64} (h : numeral.number? = some (.float x)) :
    ¬ numeral.IsBetween (-2 ^ 63) (2 ^ 64) := by
  intro hbetween
  obtain ⟨number, hnumber, hvalue⟩ := toInt?_iff.mpr ⟨hbetween, rfl⟩
  rw [h] at hnumber
  cases hnumber
  cases hvalue

end Numeral

/-! ### Numerals that are read -/

section Read

variable {numeral : Numeral} {text : Octets} (h : IsNumeral numeral text)
include h

theorem IsNumeral.unique {numeral' : Numeral} (h' : IsNumeral numeral' text) :
    numeral' = numeral := by
  have hread : readNumeral .endInValue (text ++ []) = .ok (numeral', []) :=
    readNumeral_complete h' .nil
  rw [readNumeral_complete h .nil] at hread
  exact (congrArg Prod.fst (Except.ok.inj hread)).symm

theorem IsNumeral.isNumber_iff {number : Number} :
    IsNumber number text ↔ numeral.number? = some number := by
  constructor
  · rintro ⟨numeral', h', hnumber⟩
    rwa [← h.unique h']
  · exact fun hnumber => ⟨numeral, h, hnumber⟩

theorem IsNumeral.isSigned_iff {n : Int64} :
    IsSigned n text ↔ numeral.IsBetween (-2 ^ 63) (2 ^ 63) ∧ numeral.integer = n.toInt := by
  have hheld :
      IsSigned n text ↔ numeral.IsBetween (-2 ^ 63) (2 ^ 64) ∧ numeral.integer = n.toInt := by
    rw [← Numeral.toInt?_iff, IsSigned]
    exact exists_congr fun number => and_congr_left' h.isNumber_iff
  rw [hheld]
  refine and_congr_left fun hvalue => ⟨fun hfits => ?_, fun hfits => ?_⟩
  · exact ⟨hfits.plain, hfits.low_le, hvalue ▸ n.toInt_lt⟩
  · exact hfits.mono (le_refl _) (by decide)

/-- A number out of range is refused, whatever number is asked for. -/
theorem IsNumeral.numeric_error {α : Type} {wanted : Wanted} {accept : Number → Except Cause α}
    (hnumber : numeral.number? = none) {rest : Octets} (hrest : Ends rest) :
    (Reader.numeric wanted accept).read (text ++ rest) = .error Cause.numberOutOfRange.here := by
  have hread : readNumber (text ++ rest) = .error .numberOutOfRange := by
    simp only [readNumber, readNumeral_complete h hrest, hnumber]
  obtain ⟨b, inside, rfl, hb⟩ := h.startsNumber
  have hskip := (WellFormed.numeral h).starts.skipBlanks rest
  rw [List.cons_append] at hread hskip ⊢
  simp only [Reader.numeric, hskip, hb, if_true, hread]

end Read

/-- Each octet that a number may start with, and a small one that does. -/
theorem startsNumber_octets : ∀ octet < 256, startsNumber (UInt8.ofNat octet) = true →
    ∃ n ∈ ([-1, 0, 1, 2, 3, 4, 5, 6, 7, 8, 9] : List Int64),
      (Text.encode (Text.signedDecimal n.toInt)).head? = some (UInt8.ofNat octet) := by
  decide +kernel

theorem exists_signed {b : UInt8} (hb : startsNumber b = true) :
    ∃ (n : Int64) (rest : Octets), IsSigned n (b :: rest) := by
  obtain ⟨n, -, hhead⟩ := startsNumber_octets b.toNat b.toNat_lt (by rwa [UInt8.ofNat_toNat])
  rw [UInt8.ofNat_toNat] at hhead
  obtain ⟨rest, hrest⟩ := List.head?_eq_some_iff.mp hhead
  exact ⟨n, rest, hrest ▸ isSigned_decimal n⟩

/-- What goes wrong with a number goes wrong where it may be absent. -/
theorem optional_error {α : Type} {reader : Reader α} {b : UInt8} {rest : Octets} {fault : Fault}
    (hb : startsNumber b = true) (h : reader.read (b :: rest) = .error fault) :
    reader.optional.read (b :: rest) = .error fault := by
  have hskip := skipBlanks_cons (StartsValue.notBlank (.inl hb)) rest
  have hword : b ≠ octet 'n' := by
    rintro rfl
    exact absurd hb (by decide)
  simp only [Reader.optional, hskip, if_neg hword]
  exact map_error h

end ListingReview.Json
