import ListingReview.Json.Number
import ListingReview.Text.Numeral

/-! # JSON: documents

A document is what is to be written. It has two written forms: compact, without any blanks, and
indented, with every part of a list or an object on a line of its own. -/

namespace ListingReview.Json

/-- A value that can be written; objects keep the order of their members. -/
inductive Document where
  | null
  | boolean (value : Bool)
  | integer (value : Int)
  | float (value : Binary64)
  | text (value : String)
  | list (items : List Document)
  | object (members : List (String × Document))

/-- A character inside a text. -/
def escapeChar (c : Char) : List Char :=
  if c = '"' then ['\\', '"']
  else if c = '\\' then ['\\', '\\']
  else if c = '\n' then ['\\', 'n']
  else if c = '\r' then ['\\', 'r']
  else if c = '\t' then ['\\', 't']
  else if c = '\x08' then ['\\', 'b']
  else if c = '\x0c' then ['\\', 'f']
  else if c.toNat < 0x20 then
    ['\\', 'u', '0', '0', Nat.digitChar (c.toNat / 16), Nat.digitChar (c.toNat % 16)]
  else [c]

/-- A text between quotes. -/
def writeText (text : String) : List Char := '"' :: (text.toList.flatMap escapeChar ++ ['"'])

/-- A float; JSON has no word for what is not finite. -/
def writeFloat (x : Binary64) : List Char :=
  if x.isFinite then x.written numberStyle else "null".toList

namespace Document

/-- A document that is neither list nor object. -/
def writeScalar : Document → List Char
  | null => "null".toList
  | boolean value => if value then "true".toList else "false".toList
  | integer value => Text.signedDecimal value
  | float value => writeFloat value
  | text value => writeText value
  | list _ | object _ => []

mutual

/-- A document without blanks. -/
def compact : Document → List Char
  | list items => '[' :: compactItems items
  | object members => '\x7b' :: compactMembers members
  | scalar => writeScalar scalar

/-- The items of a list and its closing bracket. -/
def compactItems : List Document → List Char
  | [] => [']']
  | [item] => compact item ++ [']']
  | item :: items => compact item ++ ',' :: compactItems items

/-- The members of an object and its closing brace. -/
def compactMembers : List (String × Document) → List Char
  | [] => ['\x7d']
  | [(key, value)] => writeText key ++ ':' :: (compact value ++ ['\x7d'])
  | (key, value) :: members =>
    writeText key ++ ':' :: (compact value ++ ',' :: compactMembers members)

end

/-- A new line indented to a depth. -/
def newLine (depth : Nat) : List Char := '\n' :: List.replicate (2 * depth) ' '

mutual

/-- A document on lines of its own, those after the first indented to a depth. -/
def indented (depth : Nat) : Document → List Char
  | list [] => ['[', ']']
  | list items => '[' :: indentedItems depth items
  | object [] => ['\x7b', '\x7d']
  | object members => '\x7b' :: indentedMembers depth members
  | scalar => writeScalar scalar

/-- The items of a list, each on a new line, and its closing bracket. -/
def indentedItems (depth : Nat) : List Document → List Char
  | [] => newLine depth ++ [']']
  | [item] => newLine (depth + 1) ++ indented (depth + 1) item ++ newLine depth ++ [']']
  | item :: items =>
    newLine (depth + 1) ++ indented (depth + 1) item ++ ',' :: indentedItems depth items

/-- The members of an object, each on a new line, and its closing brace. -/
def indentedMembers (depth : Nat) : List (String × Document) → List Char
  | [] => newLine depth ++ ['\x7d']
  | [(key, value)] =>
    newLine (depth + 1) ++ writeText key ++ ':' :: ' ' :: (indented (depth + 1) value
      ++ newLine depth ++ ['\x7d'])
  | (key, value) :: members =>
    newLine (depth + 1) ++ writeText key ++ ':' :: ' ' :: (indented (depth + 1) value
      ++ ',' :: indentedMembers depth members)

end

/-- The compact form as a text. -/
def line (document : Document) : String := String.ofList document.compact

/-- The indented form as a text. -/
def lines (document : Document) : String := String.ofList (document.indented 0)

end Document

/-- A number as a document. -/
def Number.document : Number → Document
  | unsigned n => .integer n.toNat
  | negative n => .integer n.toInt
  | float x => .float x

end ListingReview.Json
