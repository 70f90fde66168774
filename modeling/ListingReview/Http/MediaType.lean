import ListingReview.Text.Ascii

/-! # HTTP: media types

A media type is a type, a slash and a subtype, and then parameters behind semicolons. The part of
the subtype behind its last plus sign is its suffix. A body is JSON if its type is `application` and
its subtype or its suffix is `json`, in letters of any case; the parameters have to be well formed,
whatever they say. -/

namespace ListingReview.Http

/-- A media type without its parameters. -/
structure MediaType where
  type : List Char
  subtype : List Char
  suffix : Option (List Char)
deriving DecidableEq, Repr

/-- The characters of names and of values without quotes. -/
def isTokenChar (c : Char) : Bool := c.isAlphanum || "!#$%&'*+-.^_`|~".toList.contains c

/-- The characters inside quotes. -/
def isQuotedChar (c : Char) : Bool := 0x20 ≤ c.toNat && c.toNat ≤ 0x7E

/-- Where the reading of parameters stands. -/
inductive ParameterState where
  /-- In front of a name. -/
  | start
  | name
  /-- Behind the equals sign. -/
  | equals
  | value
  /-- Behind the opening quote, where another quote does not close the value. -/
  | opened
  | quoted
  /-- Behind the closing quote. -/
  | closed
deriving DecidableEq, Repr

namespace ParameterState

/-- The state after one more character, if the character may stand there. -/
def next? : ParameterState → Char → Option ParameterState
  | start, c => if c = ' ' then some start else if isTokenChar c then some name else none
  | name, c => if c = '=' then some equals else if isTokenChar c then some name else none
  | equals, c => if c = '"' then some opened else if isTokenChar c then some value else none
  | value, c => if c = ';' then some start else if isTokenChar c then some value else none
  | opened, c => if isQuotedChar c then some quoted else none
  | quoted, c => if c = '"' then some closed else if isQuotedChar c then some quoted else none
  | closed, c => if c = ';' then some start else if c = ' ' then some closed else none

/-- Whether the parameters may end. -/
def mayEnd : ParameterState → Bool
  | start | equals | value | closed => true
  | name | opened | quoted => false

/-- Whether the characters may follow. -/
def accepts (state : ParameterState) : List Char → Bool
  | [] => state.mayEnd
  | c :: rest =>
    match state.next? c with
    | some state' => accepts state' rest
    | none => false

end ParameterState

/-- A subtype without its suffix, and the suffix; a plus sign in front of everything starts
none. -/
def splitSuffix (subtype : List Char) : List Char × Option (List Char) :=
  let backwards := subtype.reverse
  match backwards.dropWhile (· != '+') with
  | _ :: c :: before => ((c :: before).reverse, some (backwards.takeWhile (· != '+')).reverse)
  | _ => (subtype, none)

/-- The media type that a text names. -/
def MediaType.ofText? (text : List Char) : Option MediaType :=
  let type := text.takeWhile isTokenChar
  match type, text.dropWhile isTokenChar with
  | _ :: _, '/' :: rest =>
    let subtype := rest.takeWhile isTokenChar
    let (plain, suffix) := splitSuffix subtype
    match rest.dropWhile isTokenChar with
    | [] => some ⟨type, plain, suffix⟩
    | ';' :: parameters =>
      if !subtype.isEmpty && ParameterState.start.accepts parameters then
        some ⟨type, plain, suffix⟩
      else none
    | _ => none
  | _, _ => none

/-- Whether bodies of the type are JSON. -/
def MediaType.isJson (mediaType : MediaType) : Bool :=
  Text.sameAscii mediaType.type "application".toList
    && (Text.sameAscii mediaType.subtype "json".toList
      || mediaType.suffix.any fun suffix => Text.sameAscii suffix "json".toList)

/-- Whether the type that a header gives is one of JSON; without the header it is not. -/
def announcesJson (contentType : Option String) : Bool :=
  match contentType.bind fun text => MediaType.ofText? text.toList with
  | some mediaType => mediaType.isJson
  | none => false

end ListingReview.Http
