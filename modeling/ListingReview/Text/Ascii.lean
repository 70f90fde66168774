/-! # Text: the ASCII letters

Some names are compared without regard to case, but only that of the 26 Latin letters. -/

namespace ListingReview.Text

/-- The text with its capital ASCII letters made small. -/
def asciiLower (text : List Char) : List Char := text.map Char.toLower

/-- Whether two texts differ at most in the case of ASCII letters. -/
def sameAscii (s t : List Char) : Bool := asciiLower s == asciiLower t

end ListingReview.Text
