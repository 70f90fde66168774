import ListingReview.Binary64.Basic

/-! # Binary64: decimal text

A number is written with the fewest decimal digits that read back to it; of the candidates with that
many digits the one closest to its value is taken. Where the point and the exponent go, and which of
two equally close candidates wins, is a matter of style. -/

namespace ListingReview.Binary64

/-- Digits with a point: `digits` are those after the point of `0.d₁d₂…`, scaled by ten to the
power of `point`. -/
structure Decimal where
  digits : List Char
  point : Int
deriving DecidableEq, Repr

/-- The decisions about a written number. -/
structure Style where
  /-- The exponents of the leading digit at which no exponent is written. -/
  plain : Int → Bool
  /-- Whether a whole number ends in a point and a zero. -/
  fraction : Bool
  /-- Whether the even one of two equally close candidates is taken, or the larger one. -/
  even : Bool

/-- The number of digits before the point of a positive number of steps; not above zero if the
first digit stands after it. -/
def pointOf (steps : Nat) : Int :=
  if unit ≤ steps then (Nat.toDigits 10 (steps / unit)).length
  else 1 - ((Nat.toDigits 10 ((unit - 1) / steps)).length : Int)

/-- Whether a multiple of ten to the power of `scale` reads back to the magnitude. -/
def readsBack (magnitude multiple : Nat) (scale : Int) : Bool :=
  nearest (multiple * unit * Nat.pow 10 scale.toNat) (Nat.pow 10 (-scale).toNat) == magnitude

/-- The multiple of ten to the power of `scale` that is closest to the magnitude among its two
neighbours that read back, if one does. -/
def onGrid? (even : Bool) (magnitude : Nat) (scale : Int) : Option Nat :=
  let num := stepsOf magnitude * Nat.pow 10 (-scale).toNat
  let den := unit * Nat.pow 10 scale.toNat
  let lower := num / den
  let twice := 2 * (num % den)
  match readsBack magnitude lower scale, readsBack magnitude (lower + 1) scale with
  | false, false => none
  | true, false => some lower
  | false, true => some (lower + 1)
  | true, true =>
    if twice < den || (twice == den && even && lower % 2 == 0) then some lower
    else some (lower + 1)

/-- The fewest digits of a finite positive magnitude. Seventeen suffice; should they not, all of its
digits are written. -/
def shortest (even : Bool) (magnitude : Nat) : Decimal :=
  let point := pointOf (stepsOf magnitude)
  let found := (List.range 17).findSome? fun n =>
    let scale := point - (n + 1 : Nat)
    (onGrid? even magnitude scale).map fun multiple => (multiple, scale)
  let (multiple, scale) := found.getD (stepsOf magnitude * Nat.pow 5 1074, -1074)
  let digits := Nat.toDigits 10 multiple
  ⟨(digits.reverse.dropWhile (· == '0')).reverse, digits.length + scale⟩

/-- A decimal without an exponent. -/
def Decimal.plain (fraction : Bool) (d : Decimal) : List Char :=
  let count : Int := d.digits.length
  if d.point ≤ 0 then '0' :: '.' :: (List.replicate (-d.point).toNat '0' ++ d.digits)
  else if count ≤ d.point then
    d.digits ++ List.replicate (d.point - count).toNat '0' ++ (if fraction then ['.', '0'] else [])
  else d.digits.take d.point.toNat ++ '.' :: d.digits.drop d.point.toNat

/-- A decimal with one digit before the point and a signed exponent. -/
def Decimal.scientific (d : Decimal) : List Char :=
  let exponent := d.point - 1
  let sign := if exponent < 0 then '-' else '+'
  d.digits.take 1 ++ (if d.digits.length ≤ 1 then [] else '.' :: d.digits.drop 1)
    ++ 'e' :: sign :: Nat.toDigits 10 exponent.natAbs

/-- A number in a style. -/
def written (style : Style) (x : Binary64) : List Char :=
  let sign := if x.negative then ['-'] else []
  if x.isUndefined then "NaN".toList
  else if x.isInfinite then sign ++ "inf".toList
  else
    let d := if x.magnitude = 0 then ⟨['0'], 1⟩ else shortest style.even x.magnitude
    sign ++ if style.plain (d.point - 1) then d.plain style.fraction else d.scientific

end ListingReview.Binary64
