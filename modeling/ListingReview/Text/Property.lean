/-! # Text: properties of characters

A property of characters is data: the closed ranges of code points that have it, ascending and
apart. The tables of this library follow Unicode 17. -/

namespace ListingReview.Text

/-- Closed ranges of code points. -/
abbrev Ranges := List (Nat × Nat)

/-- Whether a character lies in one of the ranges. -/
def inRanges (ranges : Ranges) (c : Char) : Bool :=
  ranges.any fun range => range.1 ≤ c.toNat && c.toNat ≤ range.2

end ListingReview.Text
