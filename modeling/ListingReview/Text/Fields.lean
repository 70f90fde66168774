/-! # Text: fields

A line of fields is cut at every separator, so it has one field more than it has separators. -/

namespace ListingReview.Text

/-- The pieces of a text between separators. -/
def fields (separator : Char) : List Char → List (List Char)
  | [] => [[]]
  | c :: rest =>
    match fields separator rest with
    | [] => [[c]]
    | field :: others => if c = separator then [] :: field :: others else (c :: field) :: others

/-- Texts one after another with a comma and a blank between them. -/
def enumeration (texts : List String) : List Char :=
  [',', ' '].intercalate (texts.map String.toList)

end ListingReview.Text
