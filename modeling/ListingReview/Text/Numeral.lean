/-! # Text: numerals

Whole numbers in digits, most significant first, mostly decimal ones. -/

namespace ListingReview.Text

/-- The digits of a whole number. -/
def decimal (n : Nat) : List Char := Nat.toDigits 10 n

/-- A whole number with a minus sign if it is below zero. -/
def signedDecimal (n : Int) : List Char :=
  match n with
  | .ofNat m => decimal m
  | .negSucc m => '-' :: decimal (m + 1)

/-- The value of a digit in bases up to sixteen. -/
def digitValue (c : Char) : Nat :=
  if '0' ≤ c && c ≤ '9' then c.toNat - 0x30
  else if 'a' ≤ c && c ≤ 'f' then c.toNat - 0x57
  else if 'A' ≤ c && c ≤ 'F' then c.toNat - 0x37
  else 16

/-- Whether the character is a digit in the base. -/
def isDigitIn (base : Nat) (c : Char) : Bool := digitValue c < base

/-- The number that digits stand for in a base. -/
def valueIn (base : Nat) (digits : List Char) : Nat :=
  digits.foldl (fun n c => base * n + digitValue c) 0

/-- The number that a run of digits stands for; other characters and the empty run stand for
none. -/
def ofDecimal? (digits : List Char) : Option Nat :=
  if !digits.isEmpty && digits.all Char.isDigit then some (Nat.ofDigitChars 10 digits 0) else none

/-- A number with an optional plus sign. -/
def ofPlusDecimal? : List Char → Option Nat
  | '+' :: digits => ofDecimal? digits
  | digits => ofDecimal? digits

/-- A number with an optional sign. -/
def ofSignedDecimal? : List Char → Option Int
  | '-' :: digits => (ofDecimal? digits).map fun n => -(n : Int)
  | text => (ofPlusDecimal? text).map Int.ofNat

end ListingReview.Text
