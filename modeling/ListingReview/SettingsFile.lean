import ListingReview.Policy

/-! # The settings file

Settings may also stand in a file, one on a line: a name, perhaps behind the word `export`, an
equals sign and a value up to the first blank. Empty lines and remarks, which start with a hash
sign, are passed over; behind a single blank a hash sign cuts off the rest of its line. Reading ends
at the first line that is none of these, and of two settings with one name the first counts.

Blanks are taken in pairs when a line is searched for such a hash sign, and a last line without a
line feed that ends on the first blank of a pair is not taken as complete. -/

namespace ListingReview

/-- Settings, and others for the names that are not among them. -/
def Settings.orElse (settings others : Settings) : Settings := fun name =>
  match settings name with
  | some value => some value
  | none => others name

namespace SettingsFile

/-- Whether a name may start with a character. -/
def startsName (c : Char) : Bool := c.isAlpha || c == '_'

/-- Whether a character may stand in a name behind its start. -/
def continuesName (c : Char) : Bool := c.isAlphanum || c == '_' || c == '.'

/-- Whether a text is empty or a remark. -/
def isRemark : List Char → Bool
  | [] => true
  | c :: _ => c == '#'

/-- Whether a value ends before a character. -/
def endsValue (c : Char) : Bool := c == ' ' || c == '\t'

/-- The value at the front of a text, unless more than a remark follows it. -/
def value? (text : List Char) : Option (List Char) :=
  if isRemark text then some []
  else if isRemark ((text.dropWhile fun c => !endsValue c).dropWhile endsValue) then
    some (text.takeWhile fun c => !endsValue c)
  else none

/-- The name at the front of a text, and what follows it and blanks. -/
def name? : List Char → Option (String × List Char)
  | [] => none
  | c :: rest =>
    if startsName c then
      some (String.ofList (c :: rest.takeWhile continuesName),
        Text.trimStart (rest.dropWhile continuesName))
    else none

/-- The setting of a name and what follows it. -/
def assigned? (name : String) : List Char → Option (String × String)
  | '=' :: text => (value? (Text.trimStart text)).map fun value => (name, String.ofList value)
  | _ => none

/-- The word that may stand in front of a setting. -/
def exportWord : String := "export"

/-- The setting on a line. -/
def setting? (text : List Char) : Option (String × String) :=
  match name? text with
  | none => none
  | some (name, rest) =>
    if name = exportWord && rest.head? ≠ some '=' then
      (name? rest).bind fun (name, rest) => assigned? name rest
    else assigned? name rest

/-- A line in front of the hash sign behind a single blank, and whether the line ends on the first
blank of a pair. -/
def cutRemark (afterBlank : Bool) : List Char → List Char × Bool
  | [] => ([], afterBlank)
  | c :: rest =>
    if afterBlank && c = '#' then ([], false)
    else
      let (line, isOpen) := cutRemark (!afterBlank && Text.isBlank c && c ≠ '\r') rest
      (c :: line, isOpen)

/-- The settings on lines, up to the first one that is broken. -/
def entries : List (List Char) → List (String × String)
  | [] => []
  | line :: lines =>
    let (content, isOpen) := cutRemark false line
    if isRemark (Text.trim content) then entries lines
    else if isOpen && lines.isEmpty then []
    else
      match setting? (Text.trim content) with
      | some entry => entry :: entries lines
      | none => []

/-- The text behind a byte order mark, if it starts with one. -/
def withoutMark : List Char → List Char
  | [] => []
  | c :: text => if c.toNat = 0xFEFF then text else c :: text

/-- The settings of a file. -/
def settings (text : String) : Settings := fun name =>
  (entries (Text.fields '\n' (withoutMark text.toList))).lookup name

end SettingsFile

end ListingReview
