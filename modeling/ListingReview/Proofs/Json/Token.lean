import ListingReview.Proofs.Json.Grammar
import ListingReview.Proofs.Text.Search

/-! # JSON: blanks, words and numerals against the grammar

What the functions that take a word or a numeral off the front accept is what the grammar derives,
and they take all of it. A numeral goes on as long as it can, so what the grammar derives is only
taken as such in front of something that ends it (`Ends`). -/

namespace ListingReview.Json

open Text (Octets)

/-! ### Blanks -/

theorem Blanks.nil : Blanks [] := fun _ h => absurd h List.not_mem_nil

theorem Blanks.append {blanks blanks' : Octets} (h : Blanks blanks) (h' : Blanks blanks') :
    Blanks (blanks ++ blanks') := fun b hb =>
  (List.mem_append.mp hb).elim (h b) (h' b)

theorem skipBlanks_append {blanks : Octets} (h : Blanks blanks) (bytes : Octets) :
    skipBlanks (blanks ++ bytes) = skipBlanks bytes :=
  List.dropWhile_append_of_pos h

theorem skipBlanks_of_blanks {blanks : Octets} (h : Blanks blanks) : skipBlanks blanks = [] := by
  rw [← List.append_nil blanks, skipBlanks_append h]
  rfl

theorem skipBlanks_cons {b : UInt8} (h : isBlankOctet b = false) (bytes : Octets) :
    skipBlanks (b :: bytes) = b :: bytes := by
  rw [skipBlanks, List.dropWhile_cons_of_neg (by rw [h]; exact Bool.false_ne_true)]

theorem notBlank_of_skipBlanks {bytes rest : Octets} {b : UInt8}
    (h : skipBlanks bytes = b :: rest) : isBlankOctet b = false :=
  (Text.cut_iff.mp ⟨rfl, h⟩).2.2 b rfl

@[simp]
theorem skipBlanks_skipBlanks (bytes : Octets) :
    skipBlanks (skipBlanks bytes) = skipBlanks bytes := by
  rcases h : skipBlanks bytes with _ | ⟨b, rest⟩
  · rfl
  · exact skipBlanks_cons (notBlank_of_skipBlanks h) rest

/-- Octets are the blanks in front of them and what is left without these. -/
theorem exists_blanks (bytes : Octets) :
    ∃ blanks, Blanks blanks ∧ bytes = blanks ++ skipBlanks bytes := by
  obtain ⟨hbytes, hblanks, -⟩ := Text.cut_iff.mp ⟨rfl, rfl⟩
  exact ⟨_, hblanks, hbytes⟩

theorem blanks_of_skipBlanks {bytes : Octets} (h : skipBlanks bytes = []) : Blanks bytes :=
  List.dropWhile_eq_nil_iff.mp h

theorem Ends.nil : Ends [] := fun b h => absurd h (by simp)

/-- What ends a value may stand behind blanks. -/
theorem Ends.blanks_append {blanks rest : Octets} (h : Blanks blanks) (hrest : Ends rest) :
    Ends (blanks ++ rest) := by
  rcases blanks with _ | ⟨b, blanks⟩
  · exact hrest
  · intro b' hb'
    rw [List.cons_append, List.head?_cons, Option.mem_some_iff] at hb'
    exact Or.inl (hb' ▸ h b List.mem_cons_self)

theorem Ends.blanks {blanks : Octets} (h : Blanks blanks) : Ends blanks := by
  simpa using Ends.nil.blanks_append h

theorem Ends.mark {b : UInt8} (h : b ∈ [octet ',', octet ']', octet '\x7d']) (rest : Octets) :
    Ends (b :: rest) := by
  intro b' hb'
  rw [List.head?_cons, Option.mem_some_iff] at hb'
  exact Or.inr (hb' ▸ h)

/-! ### Words -/

theorem readWord_iff : ∀ {word bytes rest : Octets},
    readWord word bytes = .ok rest ↔ bytes = word ++ rest
  | [], bytes, rest => by simp [readWord]
  | w :: word, [], rest => by simp [readWord]
  | w :: word, b :: bytes, rest => by
    rw [readWord, List.cons_append, List.cons.injEq]
    split_ifs with h
    · rw [readWord_iff, and_iff_right h]
    · simp [h]

/-! ### Digits -/

theorem isDigitOctet_iff {b : UInt8} : isDigitOctet b = true ↔ 0x30 ≤ b.toNat ∧ b.toNat ≤ 0x39 := by
  rw [isDigitOctet, Bool.and_eq_true, decide_eq_true_eq, decide_eq_true_eq, UInt8.le_iff_toNat_le,
    UInt8.le_iff_toNat_le]
  rfl

theorem toNat_digit {digit : Nat} (h : digit < 10) :
    (UInt8.ofNat (0x30 + digit)).toNat = 0x30 + digit := by
  rw [UInt8.toNat_ofNat']
  omega

theorem isDigitOctet_digit {digit : Nat} (h : digit < 10) :
    isDigitOctet (UInt8.ofNat (0x30 + digit)) = true := by
  rw [isDigitOctet_iff, toNat_digit h]
  omega

theorem isDigitOctet_of_mem {digits : List Nat} (h : ∀ digit ∈ digits, digit < 10) :
    ∀ b ∈ digitOctets digits, isDigitOctet b = true := by
  intro b hb
  obtain ⟨digit, hdigit, rfl⟩ := List.mem_map.mp hb
  exact isDigitOctet_digit (h digit hdigit)

/-- No digit stands in front. -/
def NoDigit (rest : Octets) : Prop := ∀ b ∈ rest.head?, isDigitOctet b = false

theorem leadingDigits_append {digits : List Nat} {rest : Octets} (h : ∀ digit ∈ digits, digit < 10)
    (hrest : NoDigit rest) : leadingDigits (digitOctets digits ++ rest) = digits := by
  obtain ⟨htake, -⟩ := Text.cut_iff.mpr ⟨rfl, isDigitOctet_of_mem h, hrest⟩
  rw [leadingDigits, htake, digitOctets, List.map_map]
  refine (List.map_congr_left fun digit hdigit => ?_).trans (List.map_id digits)
  have hvalue := toNat_digit (h digit hdigit)
  have hzero : (octet '0').toNat = 0x30 := rfl
  rw [Function.comp_apply, hvalue, hzero, id]
  omega

theorem dropDigits_append {digits : List Nat} {rest : Octets} (h : ∀ digit ∈ digits, digit < 10)
    (hrest : NoDigit rest) : dropDigits (digitOctets digits ++ rest) = rest :=
  (Text.cut_iff.mpr ⟨rfl, isDigitOctet_of_mem h, hrest⟩).2

theorem leadingDigits_lt (bytes : Octets) : ∀ digit ∈ leadingDigits bytes, digit < 10 := by
  intro digit hdigit
  obtain ⟨b, hb, rfl⟩ := List.mem_map.mp hdigit
  have := isDigitOctet_iff.mp (List.mem_takeWhile_imp hb)
  have hzero : (octet '0').toNat = 0x30 := rfl
  omega

theorem append_dropDigits (bytes : Octets) :
    digitOctets (leadingDigits bytes) ++ dropDigits bytes = bytes := by
  have hback : digitOctets (leadingDigits bytes) = bytes.takeWhile isDigitOctet := by
    rw [digitOctets, leadingDigits, List.map_map]
    refine (List.map_congr_left fun b hb => ?_).trans (List.map_id _)
    have := isDigitOctet_iff.mp (List.mem_takeWhile_imp hb)
    have hzero : (octet '0').toNat = 0x30 := rfl
    rw [Function.comp_apply, id, hzero]
    refine UInt8.toNat_inj.mp ?_
    rw [UInt8.toNat_ofNat']
    omega
  rw [hback, dropDigits, List.takeWhile_append_dropWhile]

theorem noDigit_dropDigits (bytes : Octets) : NoDigit (dropDigits bytes) :=
  (Text.cut_iff.mp ⟨rfl, rfl⟩).2.2

/-- At least one digit is taken, and all that stand in front are. -/
theorem readDigits_iff {atEnd : Cause} {bytes rest : Octets} {digits : List Nat} :
    readDigits atEnd bytes = .ok (digits, rest) ↔
      AreDigits digits ∧ NoDigit rest ∧ bytes = digitOctets digits ++ rest := by
  constructor
  · intro h
    rcases bytes with _ | ⟨b, bytes⟩
    · cases h
    · rw [readDigits] at h
      split_ifs at h with hb
      obtain ⟨rfl, rfl⟩ := Prod.mk.inj (Except.ok.inj h)
      refine ⟨⟨?_, leadingDigits_lt _⟩, noDigit_dropDigits _, (append_dropDigits _).symm⟩
      rw [leadingDigits, List.takeWhile_cons_of_pos hb]
      simp
  · rintro ⟨hdigits, hrest, rfl⟩
    obtain ⟨digit, digits', rfl⟩ := List.exists_cons_of_ne_nil hdigits.ne_nil
    have hdrop := dropDigits_append hdigits.lt_ten hrest
    have hlead := leadingDigits_append hdigits.lt_ten hrest
    have hcons : digitOctets (digit :: digits') ++ rest =
        UInt8.ofNat (0x30 + digit) :: (digitOctets digits' ++ rest) := rfl
    rw [hcons] at hdrop hlead ⊢
    rw [readDigits, if_pos (isDigitOctet_digit (hdigits.lt_ten digit List.mem_cons_self)), hdrop,
      hlead]

/-! ### Numerals -/

/-- The octets that can end a value. -/
def endings : List UInt8 :=
  [octet ' ', octet '\t', octet '\n', octet '\r', octet ',', octet ']', octet '\x7d']

theorem Ends.mem {rest : Octets} (h : Ends rest) : ∀ b ∈ rest.head?, b ∈ endings := by
  intro b hb
  rcases h b hb with hblank | hmark
  · simp only [isBlankOctet, Bool.or_eq_true, beq_iff_eq] at hblank
    rcases hblank with ((rfl | rfl) | rfl) | rfl <;> decide
  · exact List.mem_append_right [octet ' ', octet '\t', octet '\n', octet '\r'] hmark

/-- No numeral goes on with an octet that ends a value. -/
theorem endings_notNumeral {b : UInt8} (h : b ∈ endings) : isDigitOctet b = false ∧
    b ≠ octet '.' ∧ b ≠ octet 'e' ∧ b ≠ octet 'E' := by
  have hall : endings.all fun b => !isDigitOctet b && b != octet '.' && b != octet 'e' &&
    b != octet 'E' := by decide
  have hb := List.all_eq_true.mp hall b h
  simp only [Bool.and_eq_true, Bool.not_eq_true', bne_iff_ne] at hb
  exact ⟨hb.1.1.1, hb.1.1.2, hb.1.2, hb.2⟩

/-- Nothing stands in front that goes on with a numeral behind its fraction. -/
def NoExponent (rest : Octets) : Prop :=
  ∀ b ∈ rest.head?, isDigitOctet b = false ∧ b ≠ octet 'e' ∧ b ≠ octet 'E'

/-- Nothing stands in front that goes on with a numeral behind its whole part. -/
def NoFraction (rest : Octets) : Prop := ∀ b ∈ rest.head?, isDigitOctet b = false ∧ b ≠ octet '.'

theorem Ends.noDigit {rest : Octets} (h : Ends rest) : NoDigit rest := fun b hb =>
  (endings_notNumeral (h.mem b hb)).1

theorem Ends.noExponent {rest : Octets} (h : Ends rest) : NoExponent rest := fun b hb =>
  have hb := endings_notNumeral (h.mem b hb)
  ⟨hb.1, hb.2.2.1, hb.2.2.2⟩

theorem Ends.noFraction {rest : Octets} (h : Ends rest) : NoFraction rest := fun b hb =>
  have hb := endings_notNumeral (h.mem b hb)
  ⟨hb.1, hb.2.1⟩

theorem IsExponent.noFraction {exponent : Option Int} {text rest : Octets}
    (h : IsExponent exponent text) (hrest : Ends rest) : NoFraction (text ++ rest) := by
  have hletters : ∀ letter, letter = octet 'e' ∨ letter = octet 'E' →
      isDigitOctet letter = false ∧ letter ≠ octet '.' := by
    rintro letter (rfl | rfl) <;> decide
  intro b hb
  rcases h with _ | ⟨hletter, -, -⟩ | ⟨hletter, -⟩
  · exact hrest.noFraction b hb
  · rw [List.cons_append, List.head?_cons, Option.mem_some_iff] at hb
    exact hb ▸ hletters _ hletter
  · rw [List.cons_append, List.head?_cons, Option.mem_some_iff] at hb
    exact hb ▸ hletters _ hletter

theorem NoFraction.noDigit {rest : Octets} (h : NoFraction rest) : NoDigit rest :=
  fun b hb => (h b hb).1

theorem noDigit_fraction {digits : List Nat} {rest : Octets} (h : NoFraction rest) :
    NoDigit (fractionOctets digits ++ rest) := by
  rw [fractionOctets]
  split_ifs
  · exact h.noDigit
  · intro b hb
    rw [List.cons_append, List.head?_cons, Option.mem_some_iff] at hb
    exact hb ▸ (by decide)

theorem readWhole_iff {atEnd : Cause} {bytes rest : Octets} {digits : List Nat} :
    readWhole atEnd bytes = .ok (digits, rest) ↔
      AreDigits digits ∧ (digits.head? = some 0 → digits.length = 1) ∧ NoDigit rest ∧
        bytes = digitOctets digits ++ rest := by
  rw [readWhole]
  rcases h : readDigits atEnd bytes with cause | ⟨digits', rest'⟩
  · refine iff_of_false (by simp) fun ⟨hdigits, _, hrest, hbytes⟩ => ?_
    rw [readDigits_iff.mpr ⟨hdigits, hrest, hbytes⟩] at h
    cases h
  · have hread := readDigits_iff.mp h
    simp only [Bool.and_eq_true, decide_eq_true_eq]
    constructor
    · intro hok
      split_ifs at hok with hzero
      obtain ⟨rfl, rfl⟩ := Prod.mk.inj (Except.ok.inj hok)
      exact ⟨hread.1, fun h0 => by_contra fun h1 => hzero ⟨h0, h1⟩, hread.2⟩
    · rintro ⟨hdigits, hzero, hrest⟩
      have heq := h.symm.trans (readDigits_iff.mpr ⟨hdigits, hrest⟩)
      obtain ⟨rfl, rfl⟩ := Prod.mk.inj (Except.ok.inj heq)
      rw [if_neg fun h => h.2 (hzero h.1)]

theorem readFraction_complete {atEnd : Cause} {digits : List Nat} {rest : Octets}
    (hdigits : ∀ digit ∈ digits, digit < 10) (hrest : NoFraction rest) :
    readFraction atEnd (fractionOctets digits ++ rest) = .ok (digits, rest) := by
  rw [fractionOctets]
  split_ifs with hnil
  · subst hnil
    rcases rest with _ | ⟨b, rest⟩
    · rfl
    · rw [List.nil_append, readFraction, if_neg (hrest b rfl).2]
  · rw [List.cons_append, readFraction, if_pos rfl]
    exact readDigits_iff.mpr ⟨⟨hnil, hdigits⟩, hrest.noDigit, rfl⟩

theorem readFraction_sound {atEnd : Cause} {bytes rest : Octets} {digits : List Nat}
    (h : readFraction atEnd bytes = .ok (digits, rest)) :
    (∀ digit ∈ digits, digit < 10) ∧ bytes = fractionOctets digits ++ rest := by
  rcases bytes with _ | ⟨b, bytes⟩
  · cases h
    exact ⟨by simp, rfl⟩
  · rw [readFraction] at h
    split_ifs at h with hb
    · obtain ⟨hdigits, -, rfl⟩ := readDigits_iff.mp h
      refine ⟨hdigits.lt_ten, ?_⟩
      rw [fractionOctets, if_neg hdigits.ne_nil, hb, List.cons_append]
    · cases h
      exact ⟨by simp, rfl⟩

theorem exponentSign_digits {digits : List Nat} (h : AreDigits digits) (rest : Octets) :
    exponentSign (digitOctets digits ++ rest) = (false, digitOctets digits ++ rest) := by
  obtain ⟨digit, digits', rfl⟩ := List.exists_cons_of_ne_nil h.ne_nil
  have hdigit := isDigitOctet_digit (h.lt_ten digit List.mem_cons_self)
  have hminus : UInt8.ofNat (0x30 + digit) ≠ octet '-' := fun he => by
    rw [he] at hdigit
    exact absurd hdigit (by decide)
  have hplus : UInt8.ofNat (0x30 + digit) ≠ octet '+' := fun he => by
    rw [he] at hdigit
    exact absurd hdigit (by decide)
  change exponentSign (UInt8.ofNat (0x30 + digit) :: (digitOctets digits' ++ rest)) = _
  rw [exponentSign, if_neg hminus, if_neg hplus]
  rfl

theorem readExponent_complete {atEnd : Cause} {exponent : Option Int} {text rest : Octets}
    (h : IsExponent exponent text) (hrest : Ends rest) :
    readExponent atEnd (text ++ rest) = .ok (exponent, rest) := by
  have hdigits : ∀ {digits}, AreDigits digits →
      readDigits atEnd (digitOctets digits ++ rest) = .ok (digits, rest) := fun hd =>
    readDigits_iff.mpr ⟨hd, hrest.noDigit, rfl⟩
  rcases h with _ | @⟨letter, sign, digits, hletter, hsign, hd⟩ | @⟨letter, digits, hletter, hd⟩
  · rcases rest with _ | ⟨b, rest⟩
    · rfl
    · have hb := (hrest.noExponent b rfl).2
      rw [List.nil_append, readExponent, if_neg (by simpa using hb)]
  · rw [List.cons_append, readExponent, if_pos (by simpa using hletter), List.append_assoc]
    rcases hsign with rfl | rfl
    · rw [List.nil_append, exponentSign_digits hd, hdigits hd]
      rfl
    · have hplus : exponentSign (octet '+' :: (digitOctets digits ++ rest)) =
          (false, digitOctets digits ++ rest) := rfl
      rw [List.singleton_append, hplus, hdigits hd]
      rfl
  · have hminus : exponentSign (octet '-' :: (digitOctets digits ++ rest)) =
        (true, digitOctets digits ++ rest) := rfl
    rw [List.cons_append, readExponent, if_pos (by simpa using hletter), List.cons_append, hminus,
      hdigits hd]
    rfl

/-- The octets of a sign in front of an exponent. -/
theorem exponentSign_sound (bytes : Octets) :
    ∃ sign, bytes = sign ++ (exponentSign bytes).2 ∧
      (((exponentSign bytes).1 = true ∧ sign = [octet '-']) ∨
        ((exponentSign bytes).1 = false ∧ (sign = [] ∨ sign = [octet '+']))) := by
  rcases bytes with _ | ⟨b, bytes⟩
  · exact ⟨[], rfl, .inr ⟨rfl, .inl rfl⟩⟩
  · simp only [exponentSign]
    split_ifs with hminus hplus
    · exact ⟨[b], rfl, .inl ⟨rfl, by rw [hminus]⟩⟩
    · exact ⟨[b], rfl, .inr ⟨rfl, .inr (by rw [hplus])⟩⟩
    · exact ⟨[], rfl, .inr ⟨rfl, .inl rfl⟩⟩

theorem readExponent_sound {atEnd : Cause} {bytes rest : Octets} {exponent : Option Int}
    (h : readExponent atEnd bytes = .ok (exponent, rest)) :
    ∃ text, IsExponent exponent text ∧ bytes = text ++ rest := by
  rcases bytes with _ | ⟨letter, bytes⟩
  · cases h
    exact ⟨[], .none, rfl⟩
  · by_cases hletter : letter = octet 'e' ∨ letter = octet 'E'
    · rw [readExponent, if_pos (by simpa using hletter)] at h
      obtain ⟨sign, hbytes, hsign⟩ := exponentSign_sound bytes
      rcases hd : readDigits atEnd (exponentSign bytes).2 with cause | ⟨digits, rest'⟩
      · rw [hd] at h
        cases h
      · rw [hd] at h
        obtain ⟨rfl, rfl⟩ := Prod.mk.inj (Except.ok.inj h)
        obtain ⟨hdigits, -, hrest⟩ := readDigits_iff.mp hd
        rw [hrest] at hbytes
        rcases hsign with ⟨hnegative, rfl⟩ | ⟨hnegative, hsign⟩
        · rw [hnegative, if_pos rfl]
          exact ⟨_, .negative hletter hdigits, by rw [hbytes]; rfl⟩
        · rw [hnegative, if_neg Bool.false_ne_true]
          exact ⟨_, .positive hletter hsign hdigits, by rw [hbytes]; simp⟩
    · rw [readExponent, if_neg (by simpa using hletter)] at h
      cases h
      exact ⟨[], .none, rfl⟩

theorem readUnsigned_complete {atEnd : Cause} {negative : Bool} {whole fraction : List Nat}
    {exponent : Option Int} {text rest : Octets} (hwhole : AreDigits whole)
    (hzero : whole.head? = some 0 → whole.length = 1) (hfraction : ∀ digit ∈ fraction, digit < 10)
    (hexponent : IsExponent exponent text) (hrest : Ends rest) :
    readUnsigned atEnd negative
        (digitOctets whole ++ (fractionOctets fraction ++ (text ++ rest))) =
      .ok (⟨negative, whole, fraction, exponent⟩, rest) := by
  have hnext := hexponent.noFraction hrest
  rw [readUnsigned, readWhole_iff.mpr ⟨hwhole, hzero, noDigit_fraction hnext, rfl⟩]
  simp only [readFraction_complete hfraction hnext, readExponent_complete hexponent hrest]

theorem readUnsigned_sound {atEnd : Cause} {negative : Bool} {bytes rest : Octets}
    {numeral : Numeral} (h : readUnsigned atEnd negative bytes = .ok (numeral, rest)) :
    numeral.negative = negative ∧ ∃ text, AreDigits numeral.whole ∧
      (numeral.whole.head? = some 0 → numeral.whole.length = 1) ∧
      (∀ digit ∈ numeral.fraction, digit < 10) ∧ IsExponent numeral.exponent text ∧
      bytes = digitOctets numeral.whole ++ (fractionOctets numeral.fraction ++ (text ++ rest)) := by
  rw [readUnsigned] at h
  split at h
  · cases h
  · next hw =>
    split at h
    · cases h
    · next hf =>
      split at h
      · cases h
      · next he =>
        cases h
        obtain ⟨hwhole, hzero, -, rfl⟩ := readWhole_iff.mp hw
        obtain ⟨hfraction, rfl⟩ := readFraction_sound hf
        obtain ⟨text, hexponent, rfl⟩ := readExponent_sound he
        exact ⟨rfl, text, hwhole, hzero, hfraction, hexponent, rfl⟩

/-- **A numeral is taken** if something stands behind it that ends it. -/
theorem readNumeral_complete {atEnd : Cause} {numeral : Numeral} {text rest : Octets}
    (h : IsNumeral numeral text) (hrest : Ends rest) :
    readNumeral atEnd (text ++ rest) = .ok (numeral, rest) := by
  obtain @⟨exponent, hwhole, hzero, hfraction, hexponent⟩ := h
  obtain ⟨negative, whole, fraction, exponent?⟩ := numeral
  have hunsigned := @readUnsigned_complete atEnd negative _ _ _ _ _ hwhole hzero hfraction
    hexponent hrest
  simp only [List.append_assoc]
  rcases negative with _ | _
  · obtain ⟨digit, digits, rfl⟩ := List.exists_cons_of_ne_nil hwhole.ne_nil
    have hdigit := isDigitOctet_digit (hwhole.lt_ten digit List.mem_cons_self)
    have hminus : UInt8.ofNat (0x30 + digit) ≠ octet '-' := fun he => by
      rw [he] at hdigit
      exact absurd hdigit (by decide)
    exact (if_neg hminus).trans hunsigned
  · exact hunsigned

theorem readNumeral_sound {atEnd : Cause} {numeral : Numeral} {bytes rest : Octets}
    (h : readNumeral atEnd bytes = .ok (numeral, rest)) :
    ∃ text, IsNumeral numeral text ∧ bytes = text ++ rest := by
  rcases bytes with _ | ⟨b, bytes⟩
  · cases h
  · rw [readNumeral] at h
    split_ifs at h with hminus
    · obtain ⟨hnegative, text, hwhole, hzero, hfraction, hexponent, hbytes⟩ := readUnsigned_sound h
      refine ⟨_, .parts hwhole hzero hfraction hexponent, ?_⟩
      rw [hnegative, if_pos rfl, hminus, hbytes]
      simp
    · obtain ⟨hnegative, text, hwhole, hzero, hfraction, hexponent, hbytes⟩ := readUnsigned_sound h
      refine ⟨_, .parts hwhole hzero hfraction hexponent, ?_⟩
      rw [hnegative, if_neg Bool.false_ne_true, hbytes]
      simp

theorem IsNumeral.startsNumber {numeral : Numeral} {text : Octets} (h : IsNumeral numeral text) :
    ∃ b text', text = b :: text' ∧ startsNumber b = true := by
  obtain @⟨exponent, hwhole, hzero, hfraction, hexponent⟩ := h
  rcases hnegative : numeral.negative with _ | _
  · obtain ⟨digit, digits, hdigits⟩ := List.exists_cons_of_ne_nil hwhole.ne_nil
    rw [hdigits, if_neg Bool.false_ne_true]
    refine ⟨_, _, rfl, ?_⟩
    rw [Json.startsNumber, isDigitOctet_digit (hwhole.lt_ten digit (hdigits ▸ List.mem_cons_self)),
      Bool.or_true]
  · rw [if_pos rfl]
    exact ⟨_, _, rfl, by decide⟩

end ListingReview.Json
