/-! # Text: searching

A needle occurs in a text when the text holds it as consecutive characters. -/

namespace ListingReview.Text

/-- Whether the needle occurs somewhere in the text. -/
def occursIn (needle : List Char) : List Char → Bool
  | [] => needle.isEmpty
  | c :: rest => needle.isPrefixOf (c :: rest) || occursIn needle rest

/-- The needles that occur in the text, in their order and as often as they are listed. -/
def hits (text : List Char) (needles : List String) : List String :=
  needles.filter fun needle => occursIn needle.toList text

end ListingReview.Text
