/-! # Binary64: values

A binary64 number is a sign and a magnitude, the 63 bits below the sign. The magnitudes are in the
order of the values they stand for: below `infinity` they are finite, above it they are no number.

Every finite value is a whole number of *steps*, a step being the least positive value. `stepsOf`
counts them, and `nearest` goes back: it gives the magnitude whose value is closest to a quotient of
steps, where of two equally close ones the even magnitude wins. Arithmetic is exact arithmetic on
steps, rounded once. -/

namespace ListingReview

/-- A binary64 number. -/
structure Binary64 where
  negative : Bool
  magnitude : Nat
deriving DecidableEq, Repr

namespace Binary64

/-- The magnitude that stands for infinity. -/
def infinity : Nat := 0x7FF0000000000000

/-- The weight of the lowest exponent bit, and of the leading bit that a fraction leaves out. -/
def leadingBit : Nat := 0x10000000000000

/-- The number of steps in one. -/
def unit : Nat := 1 <<< 1074

/-- The number of steps that a finite magnitude stands for. -/
def stepsOf (magnitude : Nat) : Nat :=
  let exponent := magnitude / leadingBit
  let fraction := magnitude % leadingBit
  if exponent = 0 then fraction else (leadingBit + fraction) <<< (exponent - 1)

/-- A quotient rounded to the nearest whole number; halfway the even one is taken. -/
def halfEven (num den : Nat) : Nat :=
  let quotient := num / den
  let twice := 2 * (num % den)
  if twice < den then quotient
  else if den < twice then quotient + 1
  else if quotient % 2 = 0 then quotient
  else quotient + 1

/-- The magnitude closest to `num / den` steps. The quotient is cut down to 53 bits; a carry out of
them runs into the exponent, which is where it belongs. -/
def nearest (num den : Nat) : Nat :=
  let shift := Nat.log2 (num / den) - 52
  let magnitude := shift * leadingBit + halfEven num (den <<< shift)
  if magnitude < infinity then magnitude else infinity

/-- The number closest to a quotient. -/
def ofRatio (num den : Nat) : Binary64 := ⟨false, nearest (num * unit) den⟩

/-- The number closest to a whole number. -/
def ofNat (n : Nat) : Binary64 := ofRatio n 1

/-- The number closest to a signed whole number. -/
def ofInt (n : Int) : Binary64 := ⟨n < 0, nearest (n.natAbs * unit) 1⟩

/-- What an operation without a result gives. -/
def undefined : Binary64 := ⟨false, 0x7FF8000000000000⟩

def isUndefined (x : Binary64) : Bool := infinity < x.magnitude

def isFinite (x : Binary64) : Bool := x.magnitude < infinity

def isInfinite (x : Binary64) : Bool := x.magnitude == infinity

/-- The number of steps from zero to a finite number, with its sign. -/
def steps (x : Binary64) : Int :=
  if x.negative then -(stepsOf x.magnitude : Int) else stepsOf x.magnitude

/-- The place of a number in the order of all; both zeros have the same. -/
def place (x : Binary64) : Int :=
  if x.negative then -(x.magnitude : Int) else x.magnitude

/-- Whether `x` is below `y`; nothing is below or above what is undefined. -/
def below (x y : Binary64) : Bool :=
  !x.isUndefined && !y.isUndefined && x.place < y.place

/-- The 64 bits of a number. -/
def bits (x : Binary64) : Nat :=
  if x.negative then 0x8000000000000000 + x.magnitude else x.magnitude

end Binary64

end ListingReview
