import ListingReview.Json.Fault
import ListingReview.Text.Octets

/-! # JSON: blanks, words and numerals

The parts of a JSON text that stand on their own. Each function takes one off the front of the
octets and returns what is left. -/

namespace ListingReview.Json

open Text (Octets)

/-- The octet of a character in ASCII. -/
abbrev octet (c : Char) : UInt8 := c.toUInt8

def isBlankOctet (b : UInt8) : Bool :=
  b == octet ' ' || b == octet '\t' || b == octet '\n' || b == octet '\r'

/-- Drops the blanks in front. -/
def skipBlanks (bytes : Octets) : Octets := bytes.dropWhile isBlankOctet

theorem length_skipBlanks_le (bytes : Octets) : (skipBlanks bytes).length ≤ bytes.length :=
  (List.dropWhile_suffix _).length_le

/-- Takes the rest of a word. -/
def readWord : List UInt8 → Octets → Except Cause Octets
  | [], bytes => .ok bytes
  | _ :: _, [] => .error .endInValue
  | w :: word, b :: bytes => if b = w then readWord word bytes else .error .brokenWord

def nullTail : List UInt8 := [octet 'u', octet 'l', octet 'l']
def trueTail : List UInt8 := [octet 'r', octet 'u', octet 'e']
def falseTail : List UInt8 := [octet 'a', octet 'l', octet 's', octet 'e']

theorem length_of_readWord {word : List UInt8} {bytes rest : Octets}
    (h : readWord word bytes = .ok rest) : rest.length ≤ bytes.length := by
  induction word generalizing bytes with
  | nil => cases h; exact Nat.le_refl _
  | cons w word ih =>
    cases bytes with
    | nil => cases h
    | cons b bytes =>
      simp only [readWord] at h
      split at h
      · exact Nat.le_succ_of_le (ih h)
      · cases h

/-! ### Numerals -/

def isDigitOctet (b : UInt8) : Bool := octet '0' ≤ b && b ≤ octet '9'

/-- Whether a number starts with the octet. -/
def startsNumber (b : UInt8) : Bool := b == octet '-' || isDigitOctet b

/-- The digits in front, by their values. -/
def leadingDigits (bytes : Octets) : List Nat :=
  (bytes.takeWhile isDigitOctet).map fun b => b.toNat - (octet '0').toNat

/-- What follows the digits in front. -/
def dropDigits (bytes : Octets) : Octets := bytes.dropWhile isDigitOctet

/-- Takes at least one digit; `atEnd` is the cause if there is nothing at all. -/
def readDigits (atEnd : Cause) (bytes : Octets) : Except Cause (List Nat × Octets) :=
  match bytes with
  | [] => .error atEnd
  | b :: _ =>
    if isDigitOctet b then .ok (leadingDigits bytes, dropDigits bytes) else .error .brokenNumber

/-- Takes the digits before the point: a single zero, or digits without a leading zero. -/
def readWhole (atEnd : Cause) (bytes : Octets) : Except Cause (List Nat × Octets) :=
  match readDigits atEnd bytes with
  | .error cause => .error cause
  | .ok (digits, rest) =>
    if digits.head? = some 0 && digits.length ≠ 1 then .error .brokenNumber else .ok (digits, rest)

/-- Takes a point and the digits after it, if there is a point. -/
def readFraction (atEnd : Cause) (bytes : Octets) : Except Cause (List Nat × Octets) :=
  match bytes with
  | [] => .ok ([], [])
  | b :: rest => if b = octet '.' then readDigits atEnd rest else .ok ([], bytes)

/-- The sign of an exponent and what follows it. -/
def exponentSign (bytes : Octets) : Bool × Octets :=
  match bytes with
  | [] => (false, [])
  | b :: rest =>
    if b = octet '-' then (true, rest) else if b = octet '+' then (false, rest) else (false, bytes)

/-- Takes an exponent, if there is one. -/
def readExponent (atEnd : Cause) (bytes : Octets) : Except Cause (Option Int × Octets) :=
  match bytes with
  | [] => .ok (none, [])
  | b :: rest =>
    if b = octet 'e' || b = octet 'E' then
      match readDigits atEnd (exponentSign rest).2 with
      | .error cause => .error cause
      | .ok (digits, rest') =>
        let n : Int := digitsValue digits
        .ok (some (if (exponentSign rest).1 then -n else n), rest')
    else .ok (none, bytes)

/-- Takes a numeral after its sign; `atEnd` is the cause if the text ends within it. -/
def readUnsigned (atEnd : Cause) (negative : Bool) (bytes : Octets) :
    Except Cause (Numeral × Octets) :=
  match readWhole atEnd bytes with
  | .error cause => .error cause
  | .ok (whole, rest) =>
    match readFraction atEnd rest with
    | .error cause => .error cause
    | .ok (fraction, rest') =>
      match readExponent atEnd rest' with
      | .error cause => .error cause
      | .ok (exponent, rest'') => .ok (⟨negative, whole, fraction, exponent⟩, rest'')

/-- Takes a numeral. -/
def readNumeral (atEnd : Cause) (bytes : Octets) : Except Cause (Numeral × Octets) :=
  match bytes with
  | [] => .error atEnd
  | b :: rest =>
    if b = octet '-' then readUnsigned atEnd true rest else readUnsigned atEnd false bytes

theorem length_of_readDigits {atEnd : Cause} {bytes rest : Octets} {digits : List Nat}
    (h : readDigits atEnd bytes = .ok (digits, rest)) : rest.length < bytes.length := by
  unfold readDigits at h
  split at h
  · cases h
  · next b bytes =>
    split at h
    · next hb =>
      cases h
      simp only [dropDigits, List.dropWhile_cons, hb, ↓reduceIte, List.length_cons]
      exact Nat.lt_succ_of_le (List.dropWhile_suffix _).length_le
    · cases h

theorem length_of_readWhole {atEnd : Cause} {bytes rest : Octets} {digits : List Nat}
    (h : readWhole atEnd bytes = .ok (digits, rest)) : rest.length < bytes.length := by
  unfold readWhole at h
  split at h
  · cases h
  · next hd =>
    split at h
    · cases h
    · cases h; exact length_of_readDigits hd

theorem length_of_readFraction {atEnd : Cause} {bytes rest : Octets} {digits : List Nat}
    (h : readFraction atEnd bytes = .ok (digits, rest)) : rest.length ≤ bytes.length := by
  unfold readFraction at h
  split at h
  · cases h; exact Nat.le_refl _
  · split at h
    · exact Nat.le_succ_of_le (Nat.le_of_lt (length_of_readDigits h))
    · cases h; exact Nat.le_refl _

theorem length_exponentSign_le (bytes : Octets) :
    (exponentSign bytes).2.length ≤ bytes.length := by
  unfold exponentSign
  split
  · exact Nat.le_refl _
  · split
    · exact Nat.le_succ _
    · split
      · exact Nat.le_succ _
      · exact Nat.le_refl _

theorem length_of_readExponent {atEnd : Cause} {bytes rest : Octets} {exponent : Option Int}
    (h : readExponent atEnd bytes = .ok (exponent, rest)) : rest.length ≤ bytes.length := by
  unfold readExponent at h
  split at h
  · cases h; exact Nat.le_refl _
  · next b bytes =>
    split at h
    · split at h
      · cases h
      · next hd =>
        cases h
        have := length_of_readDigits hd
        have := length_exponentSign_le bytes
        simp only [List.length_cons]
        omega
    · cases h; exact Nat.le_refl _

theorem length_of_readUnsigned {atEnd : Cause} {negative : Bool} {bytes rest : Octets}
    {numeral : Numeral} (h : readUnsigned atEnd negative bytes = .ok (numeral, rest)) :
    rest.length < bytes.length := by
  unfold readUnsigned at h
  split at h
  · cases h
  · next hw =>
    split at h
    · cases h
    · next hf =>
      split at h
      · cases h
      · next he =>
        cases h
        have := length_of_readWhole hw
        have := length_of_readFraction hf
        have := length_of_readExponent he
        omega

theorem length_of_readNumeral {atEnd : Cause} {bytes rest : Octets} {numeral : Numeral}
    (h : readNumeral atEnd bytes = .ok (numeral, rest)) : rest.length < bytes.length := by
  unfold readNumeral at h
  split at h
  · cases h
  · split at h
    · exact Nat.lt_succ_of_lt (length_of_readUnsigned h)
    · exact length_of_readUnsigned h

end ListingReview.Json
