import Mathlib.Data.List.Basic
import ListingReview.Text.Numeral

/-! # Text: whole numbers

Which texts stand for whole numbers, and for which: digits, and in front of them a plus sign or none
(`ofPlusDecimal?_eq_some_iff`), or else any sign or none (`ofSignedDecimal?_eq_some_iff`). -/

namespace ListingReview.Text

/-- Decimal digits, at least one, with the number that they stand for. -/
structure IsDecimal (text : List Char) (n : Nat) : Prop where
  ne_nil : text ≠ []
  digits : ∀ c ∈ text, c.isDigit = true
  value : Nat.ofDigitChars 10 text 0 = n

/-- Decimal digits with a plus sign or without, and the number that they stand for. -/
inductive IsPlusDecimal : List Char → Nat → Prop where
  | unsigned {digits : List Char} {n : Nat} : IsDecimal digits n → IsPlusDecimal digits n
  | plus {digits : List Char} {n : Nat} : IsDecimal digits n → IsPlusDecimal ('+' :: digits) n

/-- Decimal digits with a sign or without, and the number that they stand for. -/
inductive IsSignedDecimal : List Char → Int → Prop where
  | unsigned {digits : List Char} {n : Nat} : IsDecimal digits n → IsSignedDecimal digits n
  | plus {digits : List Char} {n : Nat} : IsDecimal digits n → IsSignedDecimal ('+' :: digits) n
  | minus {digits : List Char} {n : Nat} : IsDecimal digits n → IsSignedDecimal ('-' :: digits) (-n)

variable {text : List Char}

theorem ofDecimal?_eq_some_iff {n : Nat} : ofDecimal? text = some n ↔ IsDecimal text n := by
  have hguard : (!text.isEmpty && text.all Char.isDigit) = true ↔
      text ≠ [] ∧ ∀ c ∈ text, c.isDigit = true := by
    rw [Bool.and_eq_true, Bool.not_eq_true', List.isEmpty_eq_false_iff, List.all_eq_true]
  unfold ofDecimal?
  constructor
  · intro h
    split_ifs at h with hdigits
    obtain ⟨hne, hall⟩ := hguard.mp hdigits
    exact ⟨hne, hall, Option.some.inj h⟩
  · rintro ⟨hne, hall, rfl⟩
    rw [if_pos (hguard.mpr ⟨hne, hall⟩)]

theorem IsDecimal.head_ne {n : Nat} {c : Char} {rest : List Char} (h : IsDecimal (c :: rest) n) :
    c ≠ '+' ∧ c ≠ '-' := by
  have hdigit := h.digits c List.mem_cons_self
  constructor <;> rintro rfl <;> exact absurd hdigit (by decide)

theorem ofPlusDecimal?_of_isDecimal {n : Nat} (h : IsDecimal text n) :
    ofPlusDecimal? text = some n := by
  cases text with
  | nil => exact absurd rfl h.ne_nil
  | cons c rest =>
    unfold ofPlusDecimal?
    split
    · exact absurd (List.cons.inj ‹_›).1 h.head_ne.1
    · exact ofDecimal?_eq_some_iff.mpr h

/-- **Which texts are read as whole numbers without a minus sign.** -/
theorem ofPlusDecimal?_eq_some_iff {n : Nat} :
    ofPlusDecimal? text = some n ↔ IsPlusDecimal text n := by
  constructor
  · intro h
    unfold ofPlusDecimal? at h
    split at h
    · exact .plus (ofDecimal?_eq_some_iff.mp h)
    · exact .unsigned (ofDecimal?_eq_some_iff.mp h)
  · intro h
    cases h with
    | unsigned hdigits => exact ofPlusDecimal?_of_isDecimal hdigits
    | plus hdigits => exact ofDecimal?_eq_some_iff.mpr hdigits

theorem ofSignedDecimal?_of_isDecimal {n : Nat} (h : IsDecimal text n) :
    ofSignedDecimal? text = some (n : Int) := by
  cases text with
  | nil => exact absurd rfl h.ne_nil
  | cons c rest =>
    unfold ofSignedDecimal?
    split
    · exact absurd (List.cons.inj ‹_›).1 h.head_ne.2
    · rw [ofPlusDecimal?_of_isDecimal h]
      rfl

theorem ofSignedDecimal?_minus (digits : List Char) :
    ofSignedDecimal? ('-' :: digits) = (ofDecimal? digits).map fun n : Nat => -(n : Int) := by
  rw [ofSignedDecimal?]
  cases ofDecimal? digits <;> rfl

/-- **Which texts are read as whole numbers.** -/
theorem ofSignedDecimal?_eq_some_iff {n : Int} :
    ofSignedDecimal? text = some n ↔ IsSignedDecimal text n := by
  constructor
  · intro h
    unfold ofSignedDecimal? at h
    split at h
    · obtain ⟨m, hm, rfl⟩ := Option.map_eq_some_iff.mp ((ofSignedDecimal?_minus _).symm.trans h)
      exact .minus (ofDecimal?_eq_some_iff.mp hm)
    · obtain ⟨m, hm, rfl⟩ := Option.map_eq_some_iff.mp h
      cases ofPlusDecimal?_eq_some_iff.mp hm with
      | unsigned hdigits => exact .unsigned hdigits
      | plus hdigits => exact .plus hdigits
  · intro h
    cases h with
    | unsigned hdigits => exact ofSignedDecimal?_of_isDecimal hdigits
    | plus hdigits =>
      exact congrArg (Option.map Int.ofNat) (ofDecimal?_eq_some_iff.mpr hdigits)
    | minus hdigits =>
      rw [ofSignedDecimal?_minus, ofDecimal?_eq_some_iff.mpr hdigits]
      rfl

end ListingReview.Text
