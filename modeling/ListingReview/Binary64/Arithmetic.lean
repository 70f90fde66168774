import ListingReview.Binary64.Basic

/-! # Binary64: arithmetic

Each operation is the exact result rounded once. Zeros, infinities and undefined values follow the
sign rules: a product or quotient is negative if one of its parts is, and a sum that cancels is a
positive zero. -/

namespace ListingReview.Binary64

def neg (x : Binary64) : Binary64 := { x with negative := !x.negative }

def add (x y : Binary64) : Binary64 :=
  if x.isUndefined || y.isUndefined then undefined
  else if x.isInfinite then
    if y.isInfinite && x.negative != y.negative then undefined else x
  else if y.isInfinite then y
  else
    let sum := x.steps + y.steps
    if sum = 0 then ⟨x.negative && y.negative, 0⟩
    else ⟨sum < 0, nearest sum.natAbs 1⟩

def sub (x y : Binary64) : Binary64 := add x (neg y)

def mul (x y : Binary64) : Binary64 :=
  let negative := x.negative != y.negative
  if x.isUndefined || y.isUndefined then undefined
  else if x.isInfinite || y.isInfinite then
    if x.magnitude = 0 || y.magnitude = 0 then undefined else ⟨negative, infinity⟩
  else ⟨negative, nearest (stepsOf x.magnitude * stepsOf y.magnitude) unit⟩

def div (x y : Binary64) : Binary64 :=
  let negative := x.negative != y.negative
  if x.isUndefined || y.isUndefined then undefined
  else if x.isInfinite then
    if y.isInfinite then undefined else ⟨negative, infinity⟩
  else if y.isInfinite then ⟨negative, 0⟩
  else if y.magnitude = 0 then
    if x.magnitude = 0 then undefined else ⟨negative, infinity⟩
  else ⟨negative, nearest (stepsOf x.magnitude * unit) (stepsOf y.magnitude)⟩

/-- The nearest whole number; halfway the one farther from zero is taken. -/
def round (x : Binary64) : Binary64 :=
  if x.isFinite then
    { x with magnitude := nearest ((stepsOf x.magnitude + unit / 2) / unit * unit) 1 }
  else x

/-- The number itself if it lies between the bounds, and the bound it passes otherwise. -/
def clamp (low high x : Binary64) : Binary64 :=
  if x.below low then low else if high.below x then high else x

end ListingReview.Binary64
