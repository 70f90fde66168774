import ListingReview.Json.Format
import ListingReview.Proofs.Json.Reading
import ListingReview.Proofs.Text.Octets

/-! # JSON: texts and numbers that are written

Each character of a text is written so that it is read again (`spells_escapeChar`): those of seven
bits are checked one by one, all others stand for themselves. A whole number is written in digits,
and only nought starts with a nought (`exists_digits`). -/

namespace ListingReview.Json

open Text (Octets octets encode encode_append encode_cons octets_eq octets_ofList)

/-! ### Texts -/

theorem Spells.append {value value' spelling spelling' : Octets} (h : Spells value spelling)
    (h' : Spells value' spelling') : Spells (value ++ value') (spelling ++ spelling') := by
  induction h with
  | nil => exact h'
  | plain hb _ ih => exact .plain hb ih
  | @escape found escape value spelling he _ ih =>
    rw [List.append_assoc, List.cons_append, List.append_assoc]
    exact .escape he ih

/-- What is written for each character of seven bits is read as it. -/
theorem spells_ascii : ∀ n < 0x80,
    Spells (octets (String.ofList [Char.ofNat n])) (encode (escapeChar (Char.ofNat n))) := by
  decide +kernel

theorem escapeChar_of_le {c : Char} (h : 0x80 ≤ c.toNat) : escapeChar c = [c] := by
  have hne : ∀ c' : Char, c'.toNat < 0x80 → c ≠ c' := by
    rintro c' hc' rfl
    omega
  rw [escapeChar, if_neg (hne _ (by decide)), if_neg (hne _ (by decide)),
    if_neg (hne _ (by decide)), if_neg (hne _ (by decide)), if_neg (hne _ (by decide)),
    if_neg (hne _ (by decide)), if_neg (hne _ (by decide)), if_neg (by omega)]

theorem spells_escapeChar (c : Char) :
    Spells (String.utf8EncodeChar c) (encode (escapeChar c)) := by
  rcases Nat.lt_or_ge c.toNat 0x80 with h | h
  · have hascii := spells_ascii c.toNat h
    rwa [Char.ofNat_toNat, octets_ofList, encode, List.flatMap_singleton] at hascii
  · rw [escapeChar_of_le h, encode, List.flatMap_singleton]
    refine spells_plain fun b hb => ?_
    have hle := Text.le_of_mem_utf8EncodeChar h b hb
    refine ⟨?_, ?_, UInt8.not_lt.mpr (UInt8.le_trans (by decide) hle)⟩ <;> rintro rfl <;>
      exact absurd hle (by decide)

theorem spells_flatMap (chars : List Char) :
    Spells (encode chars) (encode (chars.flatMap escapeChar)) := by
  induction chars with
  | nil => exact .nil
  | cons c chars ih =>
    rw [List.flatMap_cons, encode_append, encode_cons]
    exact (spells_escapeChar c).append ih

/-- A text is written so that it is read as itself. -/
theorem isText_writeText (text : String) : IsText text (encode (writeText text)) := by
  have hspells : Spells (octets text) (encode (text.toList.flatMap escapeChar)) :=
    octets_eq text ▸ spells_flatMap text.toList
  have := IsText.quoted hspells
  rw [writeText, encode_cons, encode_append]
  exact this

/-! ### Numerals -/

theorem encode_digitChar : ∀ n < 10, encode [Nat.digitChar n] = digitOctets [n] := by decide

theorem digitsValue_append (digits : List Nat) (digit : Nat) :
    digitsValue (digits ++ [digit]) = 10 * digitsValue digits + digit := by
  simp [digitsValue]

/-- The digits that are written for a number; only nought starts with a nought. -/
theorem exists_digits (n : Nat) : ∃ digits, AreDigits digits ∧
    (digits.head? = some 0 → digits = [0]) ∧ digitsValue digits = n ∧
      encode (Text.decimal n) = digitOctets digits := by
  induction n using Nat.strongRecOn with
  | ind n ih =>
    rw [Text.decimal, Nat.toDigits_eq_if (by decide)]
    split_ifs with h
    · exact ⟨[n], ⟨by simp, by simpa using h⟩, by simp, by simp [digitsValue], encode_digitChar n h⟩
    · obtain ⟨digits, hdigits, hzero, hvalue, heq⟩ := ih (n / 10) (by omega)
      have hlast : n % 10 < 10 := Nat.mod_lt n (by decide)
      refine ⟨digits ++ [n % 10], ⟨by simp, fun digit hdigit => ?_⟩, fun hhead => ?_, ?_, ?_⟩
      · rcases List.mem_append.mp hdigit with hdigit | hdigit
        · exact hdigits.lt_ten digit hdigit
        · rwa [List.mem_singleton.mp hdigit]
      · rw [List.head?_append_of_ne_nil _ hdigits.ne_nil] at hhead
        rw [hzero hhead] at hvalue
        have : n / 10 = 0 := hvalue.symm
        omega
      · rw [digitsValue_append, hvalue]
        omega
      · rw [encode_append, ← Text.decimal, heq, encode_digitChar _ hlast, digitOctets, digitOctets,
          digitOctets, List.map_append]

/-- A number in digits, with or without a sign. -/
theorem isNumber_decimal (negative : Bool) {n : Nat} {number : Number}
    (h : ∀ digits, digitsValue digits = n →
      Numeral.number? ⟨negative, digits, [], none⟩ = some number) :
    IsNumber number ((if negative then [octet '-'] else []) ++ encode (Text.decimal n)) := by
  obtain ⟨digits, hdigits, hzero, hvalue, heq⟩ := exists_digits n
  have hnumeral : IsNumeral ⟨negative, digits, [], none⟩ _ :=
    .parts hdigits (fun hhead => by rw [hzero hhead]; rfl) (List.forall_mem_nil _) .none
  refine ⟨_, ?_, h digits hvalue⟩
  simpa [heq, fractionOctets] using hnumeral

theorem isNumber_natural {n : Nat} (h : n < 0x10000000000000000) :
    IsNumber (.unsigned (UInt64.ofNat n)) (encode (Text.decimal n)) := by
  refine isNumber_decimal false fun digits hdigits => ?_
  simp [Numeral.number?, Numeral.isWhole, hdigits, h]

theorem isNumber_negative {n : Nat} (hpos : 0 < n) (h : n ≤ 0x8000000000000000) :
    IsNumber (.negative (Int64.ofInt (-n))) (encode ('-' :: Text.decimal n)) := by
  refine isNumber_decimal true fun digits hdigits => ?_
  simp [Numeral.number?, Numeral.isWhole, hdigits, hpos, h]

theorem isUnsigned_decimal (n : UInt64) : IsUnsigned n (encode (Text.signedDecimal n.toNat)) := by
  have h := isNumber_natural n.toNat_lt
  rwa [UInt64.ofNat_toNat] at h

theorem isSigned_decimal (n : Int64) : IsSigned n (encode (Text.signedDecimal n.toInt)) := by
  have hlt := n.toInt_lt
  have hle := n.le_toInt
  rcases hn : n.toInt with m | m
  · have hm : m < 0x8000000000000000 := by
      rw [hn, Int.ofNat_eq_natCast] at hlt
      omega
    refine ⟨_, isNumber_natural (n := m) (by omega), ?_⟩
    rw [Number.toInt?, hn, UInt64.toNat_ofNat_of_lt' (Nat.lt_trans hm (by decide))]
    rfl
  · have hm : m + 1 ≤ 0x8000000000000000 := by omega
    refine ⟨_, isNumber_negative (Nat.succ_pos m) hm, ?_⟩
    rw [Number.toInt?, show (-(m + 1 : Nat) : Int) = n.toInt from hn.symm, Int64.ofInt_toInt, hn]

end ListingReview.Json
