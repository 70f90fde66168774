import ListingReview.Json.Number
import ListingReview.Text.Quoted
import ListingReview.Text.Numeral

/-! # JSON: what can be wrong

A value is refused for one cause, the first in the order of the text, at one place. A cause is of
one of three categories: the text is no JSON, it ends too early, or it is JSON of another shape than
the one that is asked for. -/

namespace ListingReview.Json

/-- What was found in the place of something else. -/
inductive Found where
  | null
  | boolean (value : Bool)
  | integer (value : Int)
  | float (value : Binary64)
  | text (value : String)
  | list
  | object
deriving DecidableEq, Repr

/-- What was asked for. -/
inductive Wanted where
  | text
  | list
  | number
  | signed
  | unsigned
  | float
  | nothing
  | record (name : String)
deriving DecidableEq, Repr

/-- What is wrong at one place of a text. -/
inductive Cause where
  | endInValue
  | endInText
  | endInList
  | endInObject
  | noValue
  | brokenWord
  | noColon
  | noObjectComma
  | noListComma
  | keyNotText
  | trailingComma
  | trailingCharacters
  | brokenNumber
  | numberOutOfRange
  | controlCharacter
  | brokenEscape
  /-- The first half of a surrogate pair without another escape after it. -/
  | halfWithoutEscape
  /-- One half of a surrogate pair without the other. -/
  | loneHalf
  | notUnicode
  | misfit (found : Found) (wanted : Wanted)
  /-- A whole number that the type asked for does not hold. -/
  | unsuitable (value : Int) (wanted : Wanted)
  | duplicate (member : String)
  | missing (member : String)
  | tooShort (length : Nat) (record : String) (members : Nat)
  | unknownChoice (found : String) (choices : List String)
deriving DecidableEq, Repr

/-- The three ways in which a text is not what is asked for. -/
inductive Category where
  | malformed
  | truncated
  | unfitting
deriving DecidableEq, Repr

def Cause.category : Cause → Category
  | endInValue | endInText | endInList | endInObject => .truncated
  | misfit .. | unsuitable .. | duplicate _ | missing _ | tooShort .. | unknownChoice .. =>
    .unfitting
  | _ => .malformed

def Found.words : Found → String
  | null => "null"
  | boolean value => if value then "boolean `true`" else "boolean `false`"
  | integer value => "integer `" ++ String.ofList (Text.signedDecimal value) ++ "`"
  | float value => "floating point `" ++ String.ofList (value.written numberStyle) ++ "`"
  | text value => "string " ++ String.ofList (Text.quoted value.toList)
  | list => "sequence"
  | object => "map"

def Wanted.words : Wanted → String
  | text => "a string"
  | list => "a sequence"
  | number => "a JSON number"
  | signed => "i64"
  | unsigned => "u64"
  | float => "f64"
  | nothing => "unit"
  | record name => "struct " ++ name

/-- The wording of a cause. -/
def Cause.message : Cause → String
  | endInValue => "EOF while parsing a value"
  | endInText => "EOF while parsing a string"
  | endInList => "EOF while parsing a list"
  | endInObject => "EOF while parsing an object"
  | noValue => "expected value"
  | brokenWord => "expected ident"
  | noColon => "expected `:`"
  | noObjectComma => "expected `,` or `\x7d`"
  | noListComma => "expected `,` or `]`"
  | keyNotText => "key must be a string"
  | trailingComma => "trailing comma"
  | trailingCharacters => "trailing characters"
  | brokenNumber => "invalid number"
  | numberOutOfRange => "number out of range"
  | controlCharacter => "control character (\\u0000-\\u001F) found while parsing a string"
  | brokenEscape => "invalid escape"
  | halfWithoutEscape => "unexpected end of hex escape"
  | loneHalf => "lone leading surrogate in hex escape"
  | notUnicode => "invalid unicode code point"
  | misfit found wanted => "invalid type: " ++ found.words ++ ", expected " ++ wanted.words
  | unsuitable value wanted =>
    "invalid value: " ++ (Found.integer value).words ++ ", expected " ++ wanted.words
  | duplicate member => "duplicate field `" ++ member ++ "`"
  | missing member => "missing field `" ++ member ++ "`"
  | tooShort length record members =>
    "invalid length " ++ String.ofList (Text.decimal length) ++ ", expected struct " ++ record
      ++ " with " ++ String.ofList (Text.decimal members) ++ " elements"
  | unknownChoice found choices =>
    "unknown variant `" ++ found ++ "`, expected one of "
      ++ ", ".intercalate (choices.map fun choice => "`" ++ choice ++ "`")

/-- A step into a value: to a member by its key or to an item by its index. -/
inductive Step where
  | key (name : String)
  | index (n : Nat)
  /-- To a member whose key has not been read. -/
  | unnamed
deriving DecidableEq, Repr

/-- A cause and the way to the value in which it arose, outermost step first. -/
structure Fault where
  path : List Step
  cause : Cause
deriving DecidableEq, Repr

/-- A fault in the value itself and not in a part of it. -/
def Cause.here (cause : Cause) : Fault := ⟨[], cause⟩

/-- A fault where a member of an object was looked for. -/
def Cause.inKey (cause : Cause) : Fault := ⟨[.unnamed], cause⟩

/-- A fault of a part as a fault of the whole. -/
def Fault.under (fault : Fault) (step : Step) : Fault := { fault with path := step :: fault.path }

/-- The steps after the first: an index follows its list at once, a key after a full stop. -/
def Step.further : Step → String
  | key name => "." ++ name
  | index n => "[" ++ String.ofList (Text.decimal n) ++ "]"
  | unnamed => ".?"

/-- A path in words; that to the whole value is empty. -/
def pathWords : List Step → String
  | [] => ""
  | .key name :: steps => name ++ String.join (steps.map Step.further)
  | .unnamed :: steps => "?" ++ String.join (steps.map Step.further)
  | steps => String.join (steps.map Step.further)

/-- A fault with its place, unless nothing is known of the place but that it is in the whole. -/
def Fault.words (fault : Fault) : String :=
  if fault.path.all (· == .unnamed) then fault.cause.message
  else pathWords fault.path ++ ": " ++ fault.cause.message

end ListingReview.Json
