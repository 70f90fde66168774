import ListingReview.LogFilter.Pattern
import ListingReview.Text.Ascii
import ListingReview.Text.Fields
import ListingReview.Text.Place

/-! # Log filters

A log filter is a line of directives with commas between them. A directive is empty, or a target, a
span in brackets and a level behind an equals sign, of which some may be left out. A lone word is
taken as a target if it is no level, so it is always well formed. A span may have a field in braces,
with an equals sign and a value, which is a number or else a pattern.

The places of the field and of the level are found without the blanks around a directive, but they
are cut out of the directive with its blanks. So where there are blanks no level fits, not even an
empty one, and what is judged as the field starts too early. -/

namespace ListingReview.LogFilter

/-! ### Levels and fields -/

/-- The levels by rank, from nothing to everything. -/
def levels : List String := ["off", "error", "warn", "info", "debug", "trace"]

/-- Whether a text names a level, by its word or its rank, or is empty. -/
def isLevel (text : List Char) : Bool :=
  text.isEmpty || levels.any (fun level => Text.sameAscii text level.toList)
    || (Text.ofPlusDecimal? text).any (· < levels.length)

/-- Whether a text is empty or an exponent. -/
def isExponent : List Char → Bool
  | [] => true
  | c :: rest =>
    (c == 'e' || c == 'E') &&
      (Text.ofDecimal? (if rest.head? = some '+' || rest.head? = some '-' then rest.tail
        else rest)).isSome

/-- Whether a text is a number without a sign, perhaps with a fraction and an exponent, or one of
the words for what is no number or above all numbers. -/
def isNumber (text : List Char) : Bool :=
  let digits := text.takeWhile Char.isDigit
  ["inf", "infinity", "nan"].any (fun word => Text.sameAscii text word.toList) ||
    match text.dropWhile Char.isDigit with
    | '.' :: rest =>
      !(digits.isEmpty && (rest.takeWhile Char.isDigit).isEmpty)
        && isExponent (rest.dropWhile Char.isDigit)
    | rest => !digits.isEmpty && isExponent rest

/-- Whether a text may be the value of a field. Every number without a plus sign in front is a
pattern as well. -/
def isValue : List Char → Bool
  | '+' :: text => isNumber text
  | text => isPattern text

/-- Whether a text may be a field: a name alone, or a name and a value. What follows a second equals
sign does not count. -/
def isField (text : List Char) : Bool :=
  match Text.fields '=' text with
  | _ :: value :: _ => isValue value
  | _ => true

/-! ### Directives -/

/-- The places of the parts of a directive that may be wrong in themselves. -/
structure Parts where
  /-- The place of the field, and the number of its octets. -/
  field : Option (Nat × Nat)
  level : Option Nat
deriving DecidableEq, Repr

/-- The parts where nothing or a level follows. -/
def Parts.ofLevel? (field : Option (Nat × Nat)) (place : Nat) : List Char → Option Parts
  | [] => some ⟨field, none⟩
  | c :: _ => if c = '=' then some ⟨field, some (place + 1)⟩ else none

/-- Whether the name of a span goes on with a character. -/
def isInSpan (c : Char) : Bool := c != ']' && c != '\x7b'

/-- Whether a field goes on with a character. -/
def isInField (c : Char) : Bool := c != '\x7d'

/-- The parts where a span follows, behind its opening bracket. -/
def Parts.ofSpan? (place : Nat) (text : List Char) : Option Parts :=
  let place := place + Text.size (text.takeWhile isInSpan) + 1
  match text.dropWhile isInSpan with
  | ']' :: rest => ofLevel? none place rest
  | _ :: rest =>
    let size := Text.size (rest.takeWhile isInField)
    match rest.dropWhile isInField with
    | _ :: ']' :: rest =>
      if size = 0 then none else ofLevel? (some (place, size)) (place + size + 2) rest
    | _ => none
  | [] => none

/-- Whether a target may start with a character. -/
def startsTarget (c : Char) : Bool :=
  c == '-' || c == ':' || c == '_' || Text.isAlphanumeric c

/-- Whether a target goes on with a character. -/
def isInTarget (c : Char) : Bool := c != '=' && c != '['

/-- The parts of a directive without blanks around it, if it has the shape of one. -/
def Parts.ofText? : List Char → Option Parts
  | [] => none
  | '[' :: span => ofSpan? 1 span
  | c :: rest =>
    if startsTarget c then
      let place := Text.size (c :: rest.takeWhile isInTarget)
      match rest.dropWhile isInTarget with
      | '[' :: span => ofSpan? (place + 1) span
      | rest => ofLevel? none place rest
    else none

/-- Whether the parts are right in themselves, once they are cut out of a directive. -/
def Parts.fit (parts : Parts) (directive : List Char) : Bool :=
  (parts.field.all fun (place, size) =>
    isField (Text.before size (Text.behind place directive)))
    && parts.level.all fun place => isLevel (Text.behind place directive)

/-- Whether a directive is well formed. -/
def acceptsDirective (directive : List Char) : Bool :=
  directive.isEmpty
    || (Parts.ofText? (Text.trim directive)).any fun parts => parts.fit directive

/-- Whether a filter is well formed. -/
def accepts (text : String) : Bool := (Text.fields ',' text.toList).all acceptsDirective

end ListingReview.LogFilter
