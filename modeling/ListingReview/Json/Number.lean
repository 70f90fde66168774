import ListingReview.Binary64.Arithmetic
import ListingReview.Binary64.Decimal

/-! # JSON: numbers

A number is a whole number of 64 bits, with or without a sign, or else a binary64. A numeral without
fraction and exponent is whole if it fits, but minus zero is not; all others are floats.

A float is read from at most 64 bits of leading digits. The digits that do not fit only move the
point, so a numeral of more than 19 digits may come out as a neighbour of the closest float. -/

namespace ListingReview.Json

/-- A number as it stands in JSON: a whole number of 64 bits, or a float for all others. -/
inductive Number where
  | unsigned (n : UInt64)
  /-- A whole number below zero. -/
  | negative (n : Int64)
  | float (x : Binary64)
deriving DecidableEq, Repr

/-- Numbers are written plainly from a hundred thousandth up to sixteen digits, and otherwise with
a signed exponent. -/
def numberStyle : Binary64.Style where
  plain exponent := -5 ≤ exponent && exponent ≤ 15
  fraction := true
  even := true

/-- A number as it stands in the text: its digits by their values. A point is followed by at least
one digit, so an empty fraction means that there is no point. -/
structure Numeral where
  negative : Bool
  whole : List Nat
  fraction : List Nat
  exponent : Option Int
deriving DecidableEq, Repr

/-- The number that digits stand for. -/
def digitsValue (digits : List Nat) : Nat := digits.foldl (fun n digit => 10 * n + digit) 0

/-- Digits taken after `n` as long as the result has at most 64 bits, and those left over. -/
def takeDigits (n : Nat) : List Nat → Nat × List Nat
  | [] => (n, [])
  | digit :: rest =>
    if 10 * n + digit < 0x10000000000000000 then takeDigits (10 * n + digit) rest
    else (n, digit :: rest)

/-- The magnitude of a float times a power of ten, unless it is beyond all finite ones. The powers
up to 308 are floats themselves; for a smaller one the largest of them is divided out first. -/
def timesPower (x : Binary64) (exponent : Int) : Option Binary64 :=
  if x.magnitude = 0 then some x
  else if 308 < exponent then none
  else if 0 ≤ exponent then
    let y := Binary64.mul x (Binary64.ofNat (Nat.pow 10 exponent.toNat))
    if y.isInfinite then none else some y
  else if -308 ≤ exponent then
    some (Binary64.div x (Binary64.ofNat (Nat.pow 10 (-exponent).toNat)))
  else timesPower (Binary64.div x (Binary64.ofNat (Nat.pow 10 308))) (exponent + 308)
termination_by (-exponent).toNat

/-- The largest exponent that is looked at; beyond it a number is out of range or zero. -/
def maxExponent : Int := 0x7FFFFFFF

namespace Numeral

/-- Whether the numeral has neither fraction nor exponent. -/
def isWhole (numeral : Numeral) : Bool := numeral.fraction.isEmpty && numeral.exponent.isNone

/-- The float for a numeral, unless it is out of range. -/
def float? (numeral : Numeral) : Option Binary64 :=
  let (n, wholeLeft) := takeDigits 0 numeral.whole
  let (n, fractionLeft) := takeDigits n numeral.fraction
  let shift : Int := wholeLeft.length - (numeral.fraction.length - fractionLeft.length : Nat)
  let exponent := numeral.exponent.getD 0
  let scaled :=
    if maxExponent < exponent then if n = 0 then some (Binary64.ofNat 0) else none
    else if exponent < -maxExponent then some (Binary64.ofNat 0)
    else timesPower (Binary64.ofNat n) (shift + exponent)
  scaled.map fun x => { x with negative := numeral.negative }

/-- The number for a numeral, unless it is out of range. -/
def number? (numeral : Numeral) : Option Number :=
  let n := digitsValue numeral.whole
  if numeral.isWhole && !numeral.negative && n < 0x10000000000000000 then
    some (.unsigned (UInt64.ofNat n))
  else if numeral.isWhole && numeral.negative && 0 < n && n ≤ 0x8000000000000000 then
    some (.negative (Int64.ofInt (-n)))
  else numeral.float?.map .float

end Numeral

end ListingReview.Json
