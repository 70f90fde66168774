import ListingReview.Text.Blank
import ListingReview.Text.LetterTable
import ListingReview.Text.Numeral

/-! # Log filters: patterns

A field of a span may be compared with a regular expression. This module tells the well formed ones.
They are read from the left by a machine that keeps the flags, the names of groups, and for each
open group or set what is needed of the part around it.

A pattern matches Unicode text, but without the tables of Unicode: classes of digits, of blanks and
of words, the edges of words, and letters regardless of case are refused as long as the flag `u` is
set. Where it is cleared the pattern is about octets, and whatever could match a part of a character
is refused: the full stop, complements, and single octets beyond ASCII.

Patterns may not be too high. A single atom has no height. A repetition, a group, a set, an operator
on sets, and a row or a choice of more than one part are each one higher than the highest of their
parts. -/

namespace ListingReview.LogFilter.Pattern

/-! ### Flags -/

/-- The flags that have a say in what is well formed. -/
structure Flags where
  /-- Letters match regardless of their case. -/
  folds : Bool
  /-- The pattern is about characters, not octets. -/
  unicode : Bool
  /-- Blanks and remarks in the pattern are passed over. -/
  spaced : Bool
deriving DecidableEq, Repr

namespace Flags

def initial : Flags := ⟨false, true, false⟩

/-- The flags with the one of a letter set or cleared. -/
def set? (flags : Flags) (letter : Char) (value : Bool) : Option Flags :=
  match letter with
  | 'i' => some { flags with folds := value }
  | 'u' => some { flags with unicode := value }
  | 'x' => some { flags with spaced := value }
  | 'm' | 's' | 'U' | 'R' => some flags
  | _ => none

/-- Whether tables for the case of all letters would be called for. -/
def foldsUnicode (flags : Flags) : Bool := flags.folds && flags.unicode

end Flags

/-! ### Heights -/

/-- What has been read of an open group or set, and what the whole pattern is outside of all. -/
structure Part where
  /-- The heights of the items of the last row, the last item first. -/
  items : List Nat
  /-- The height of what stands in front of that row and a bar or an operator. -/
  left : Option Nat
deriving DecidableEq, Repr

namespace Part

def empty : Part := ⟨[], none⟩

/-- The height of the last row. -/
def rowHeight (part : Part) : Nat :=
  match part.items with
  | [] => 0
  | [height] => height
  | heights => heights.foldl max 0 + 1

/-- The height of all that has been read. -/
def height (part : Part) : Nat :=
  match part.left with
  | none => part.rowHeight
  | some left => max left part.rowHeight + 1

/-- The part with one more item. -/
def add (part : Part) (height : Nat) : Part := { part with items := height :: part.items }

/-- The part with its last item repeated. -/
def repeatLast (part : Part) : Part :=
  { part with
    items := match part.items with
      | [] => []
      | height :: heights => (height + 1) :: heights }

/-- The part behind a bar: all alternatives are parts of one choice. -/
def behindBar (part : Part) : Part := ⟨[], some (max (part.left.getD 0) part.rowHeight)⟩

/-- The part behind an operator: all in front of it is its left side. -/
def behindOperator (part : Part) : Part := ⟨[], some part.height⟩

end Part

/-- The most that a pattern may be high. -/
def maxHeight : Nat := 250

/-! ### Atoms -/

/-- What stands for itself or is written with a backslash. -/
inductive Atom where
  /-- A character, as an octet if it is written by two digits. -/
  | literal (c : Char) (isOctet : Bool)
  /-- A class, such as the digits, or its complement. -/
  | kind (negated : Bool)
  /-- A place between characters: at an edge of the text, or of a word. -/
  | edge (ofWord : Bool)
deriving DecidableEq, Repr

/-- Where an atom stands. -/
inductive Site where
  /-- Outside of sets. -/
  | free
  /-- In a set, if not at the end of a range. -/
  | member
  /-- At the end of a range. -/
  | rangeEnd (start : Char)
deriving DecidableEq, Repr

/-- Where the machine stands. -/
inductive Mode where
  /-- Outside of sets, and whether what is in front may be repeated. -/
  | free (repeatable : Bool)
  /-- In front of the question mark that makes a repetition lazy. -/
  | lazy
  /-- Behind an opening parenthesis. -/
  | groupOpen
  /-- Behind an opening parenthesis and a question mark. -/
  | groupMark
  /-- In front of the bracket that opens the name of a group. -/
  | groupNamed
  /-- In the name of a group, with its characters so far, the last one first. -/
  | groupName (name : List Char)
  /-- In the flags of a group, with the flags so far and their letters, the last one first. -/
  | groupFlags (flags : Flags) (letters : List Char)
  /-- Behind a backslash. -/
  | escape (site : Site)
  /-- In a character written by its hexadecimal digits, with the number of digits to come and the
  value of those so far. -/
  | digits (site : Site) (isOctet : Bool) (left value : Nat)
  /-- Behind the bracket that opens a set. -/
  | setOpen
  /-- Behind that bracket and the sign of a complement, if there is one. -/
  | setStart
  /-- Behind that and dashes. -/
  | setDashes
  /-- Between the members of a set. -/
  | set
  /-- Behind a member, with the character of it that may start a range. -/
  | setMember (start : Option Char)
  /-- Between the two characters of an operator on sets. -/
  | setOperator
  /-- Behind the bracket that opens the name of a class. -/
  | setName
  /-- Behind the dash of a range. -/
  | rangeEnd (start : Char)
deriving DecidableEq, Repr

/-- Whether blanks are passed over in a mode, if the flags say so. -/
def Mode.skips : Mode → Bool
  | lazy | groupMark | groupNamed | groupName _ | groupFlags .. | escape _ | setOperator
  | setName => false
  | free _ | groupOpen | digits .. | setOpen | setStart | setDashes | set | setMember _
  | rangeEnd _ => true

namespace Flags

/-- Whether a character may stand outside of sets. -/
def allowsFree (flags : Flags) (c : Char) (isOctet : Bool) : Bool :=
  !flags.foldsUnicode && (flags.unicode || !isOctet || c.toNat < 0x80)

/-- Whether a character may stand in a set. -/
def allowsMember (flags : Flags) (c : Char) : Bool :=
  !flags.foldsUnicode && (flags.unicode || c.toNat < 0x80)

/-- Whether a class may stand somewhere. -/
def allowsKind (flags : Flags) (negated : Bool) : Bool := !flags.unicode && !negated

/-- The mode behind an atom. -/
def put? (flags : Flags) (site : Site) (atom : Atom) : Option Mode :=
  match site, atom with
  | .free, .literal c isOctet => if flags.allowsFree c isOctet then some (.free true) else none
  | .free, .kind negated => if flags.allowsKind negated then some (.free true) else none
  | .free, .edge ofWord => if flags.unicode && ofWord then none else some (.free true)
  | .member, .literal c _ => if flags.allowsMember c then some (.setMember (some c)) else none
  | .member, .kind negated => if flags.allowsKind negated then some (.setMember none) else none
  | .rangeEnd start, .literal c _ =>
    if flags.allowsMember c && start ≤ c then some .set else none
  | .member, .edge _ | .rangeEnd _, .kind _ | .rangeEnd _, .edge _ => none

/-- The mode behind a character that follows a backslash. ASCII characters that are neither letters
nor digits stand for themselves there. -/
def escape? (flags : Flags) (site : Site) (c : Char) : Option Mode :=
  match c with
  | 'x' => some (.digits site true 2 0)
  | 'u' => some (.digits site false 4 0)
  | 'U' => some (.digits site false 8 0)
  | 'd' | 's' | 'w' => flags.put? site (.kind false)
  | 'D' | 'S' | 'W' => flags.put? site (.kind true)
  | 'A' | 'z' => flags.put? site (.edge false)
  | 'b' | 'B' | '<' | '>' => flags.put? site (.edge true)
  | 'a' => flags.put? site (.literal '\x07' false)
  | 't' => flags.put? site (.literal '\x09' false)
  | 'n' => flags.put? site (.literal '\x0A' false)
  | 'v' => flags.put? site (.literal '\x0B' false)
  | 'f' => flags.put? site (.literal '\x0C' false)
  | 'r' => flags.put? site (.literal '\x0D' false)
  | _ => if c.toNat < 0x80 && !c.isAlphanum then flags.put? site (.literal c false) else none

/-- The mode behind a hexadecimal digit. -/
def digit? (flags : Flags) (site : Site) (isOctet : Bool) (left value : Nat) (c : Char) :
    Option Mode :=
  if Text.isDigitIn 16 c then
    let value := 16 * value + Text.digitValue c
    if 1 < left then some (.digits site isOctet (left - 1) value)
    else if value.isValidChar then flags.put? site (.literal (Char.ofNat value) isOctet)
    else none
  else none

end Flags

/-! ### Steps -/

/-- What the machine keeps. -/
structure State where
  mode : Mode
  flags : Flags
  /-- The innermost open group or set. -/
  part : Part
  /-- The parts around the open groups and the flags in front of them, the innermost group first. -/
  groups : List (Flags × Part)
  /-- The parts around the open sets, the innermost set first. -/
  sets : List Part
  names : List (List Char)
  /-- Whether a remark is passed over, up to the end of the line. -/
  inRemark : Bool
deriving DecidableEq, Repr

/-- The names of classes that stand between colons inside a set. -/
def classNames : List String :=
  ["alnum", "alpha", "ascii", "blank", "cntrl", "digit", "graph", "lower", "print", "punct",
   "space", "upper", "word", "xdigit"]

/-- Whether a text goes on with a class named between a mark and a colon, behind its bracket. -/
def startsClass (mark : String) (text : List Char) : Bool :=
  classNames.any fun name => (mark ++ name ++ ":]").toList.isPrefixOf text

/-- The next character that is not passed over; of a remark only its first one is looked at. -/
def nextVisible? (spaced : Bool) (text : List Char) : Option Char :=
  if spaced then
    match text.dropWhile Text.isBlank with
    | '#' :: remark => (remark.dropWhile Text.isBlank).head?
    | visible => visible.head?
  else text.head?

/-- Whether a character may stand in the name of a group behind its start. -/
def continuesName (c : Char) : Bool :=
  c == '_' || c == '.' || c == '[' || c == ']' || Text.isAlphanumeric c

/-- Whether a name of a group may start with a character. -/
def startsName (c : Char) : Bool := c == '_' || Text.isAlphabetic c

/-- Whether a character doubled is an operator on sets. -/
def isOperator (c : Char) : Bool := c == '&' || c == '-' || c == '~'

namespace State

def initial : State := ⟨.free false, .initial, .empty, [], [], [], false⟩

/-- The state in another mode, if there is one. -/
def enter (state : State) (mode : Option Mode) : Option State :=
  mode.map fun mode => { state with mode }

/-- The state with one more item. -/
def add (state : State) (height : Nat) : State := { state with part := state.part.add height }

/-- A character outside of sets. -/
def stepFree (state : State) (repeatable : Bool) (c : Char) (rest : List Char) : Option State :=
  match c with
  | '(' =>
    some { state with
      mode := .groupOpen, part := .empty, groups := (state.flags, state.part) :: state.groups }
  | ')' =>
    match state.groups with
    | [] => none
    | (flags, around) :: groups =>
      some { state with
        mode := .free true, flags, part := around.add (state.part.height + 1), groups }
  | '|' => some { state with mode := .free false, part := state.part.behindBar }
  | '[' => some { state with mode := .setOpen, part := .empty, sets := [state.part] }
  | '*' | '+' | '?' =>
    if repeatable then
      some { state with
        mode := if rest.head? = some '?' then .lazy else .free true
        part := state.part.repeatLast }
    else none
  | '\x7b' => none
  | '\\' => (state.add 0).enter (some (.escape .free))
  | '^' | '$' => (state.add 0).enter (state.flags.put? .free (.edge false))
  | '.' => if state.flags.unicode then (state.add 0).enter (some (.free true)) else none
  | _ => (state.add 0).enter (state.flags.put? .free (.literal c false))

/-- A character in the name of a group. -/
def stepName (state : State) (name : List Char) (c : Char) : Option State :=
  if c = '>' then
    if name.isEmpty || state.names.contains name then none
    else some { state with mode := .free false, names := name :: state.names }
  else if if name.isEmpty then startsName c else continuesName c then
    some { state with mode := .groupName (c :: name) }
  else none

/-- The state behind flags without a group, which hold for what is left of the part around. -/
def setFlags (state : State) (flags : Flags) : Option State :=
  match state.groups with
  | [] => none
  | (_, around) :: groups =>
    some { state with mode := .free false, flags, part := around.add 0, groups }

/-- A character in the flags of a group. A dash is in front of the flags that are cleared. -/
def stepFlags (state : State) (flags : Flags) (letters : List Char) (c : Char) : Option State :=
  match c with
  | ':' => if letters.head? = some '-' then none else some { state with mode := .free false, flags }
  | ')' =>
    if letters.isEmpty || letters.head? = some '-' then none else state.setFlags flags
  | '-' =>
    if letters.contains '-' then none
    else some { state with mode := .groupFlags flags ('-' :: letters) }
  | _ =>
    if letters.contains c then none
    else
      state.enter ((flags.set? c (!letters.contains '-')).map fun flags =>
        .groupFlags flags (c :: letters))

/-- Behind a bracket inside a set, which opens another set or the name of a class. -/
def openInSet (state : State) (rest : List Char) : Option State :=
  let negated := startsClass ":^" rest
  if negated || startsClass ":" rest then
    if state.flags.foldsUnicode || (!state.flags.unicode && negated) then none
    else (state.add 0).enter (some .setName)
  else some { state with mode := .setOpen, part := .empty, sets := state.part :: state.sets }

/-- Behind the bracket that closes a set. -/
def closeSet (state : State) : Option State :=
  match state.sets with
  | [] => none
  | around :: sets =>
    some { state with
      mode := if sets.isEmpty then .free true else .set
      part := around.add (state.part.height + 1)
      sets }

/-- A character between the members of a set. -/
def stepSet (state : State) (c : Char) (rest : List Char) : Option State :=
  match c with
  | '[' => state.openInSet rest
  | ']' => state.closeSet
  | '\\' => (state.add 0).enter (some (.escape .member))
  | _ =>
    if isOperator c && rest.head? = some c then
      some { state with mode := .setOperator, part := state.part.behindOperator }
    else (state.add 0).enter (state.flags.put? .member (.literal c false))

/-- A character that stands for itself in front of the members of a set. -/
def stepFront (state : State) (c : Char) (mode : Mode) : Option State :=
  if state.flags.allowsMember c then (state.add 0).enter (some mode) else none

/-- A character in front of the members of a set, where dashes and then, if there is none, a closing
bracket stand for themselves. -/
def stepSetStart (state : State) (c : Char) (rest : List Char) : Option State :=
  match c with
  | '-' => state.stepFront c .setDashes
  | ']' => state.stepFront c .set
  | _ => state.stepSet c rest

/-- A character, with those behind it. -/
def step (state : State) (c : Char) (rest : List Char) : Option State :=
  let skips := state.flags.spaced && state.mode.skips
  if state.inRemark then some { state with inRemark := c ≠ '\n' }
  else if skips && Text.isBlank c then some state
  else if skips && c = '#' then some { state with inRemark := true }
  else
    match state.mode with
    | .free repeatable => state.stepFree repeatable c rest
    | .lazy => some { state with mode := .free true }
    | .groupOpen =>
      if c = '?' then some { state with mode := .groupMark } else state.stepFree false c rest
    | .groupMark =>
      match c with
      | 'P' => some { state with mode := .groupNamed }
      | '<' => some { state with mode := .groupName [] }
      | _ => state.stepFlags state.flags [] c
    | .groupNamed => if c = '<' then some { state with mode := .groupName [] } else none
    | .groupName name => state.stepName name c
    | .groupFlags flags letters => state.stepFlags flags letters c
    | .escape site => state.enter (state.flags.escape? site c)
    | .digits site isOctet left value => state.enter (state.flags.digit? site isOctet left value c)
    | .setOpen =>
      if c = '^' then if state.flags.unicode then some { state with mode := .setStart } else none
      else state.stepSetStart c rest
    | .setStart => state.stepSetStart c rest
    | .setDashes => if c = '-' then some (state.add 0) else state.stepSet c rest
    | .set => state.stepSet c rest
    | .setMember start =>
      let next := nextVisible? state.flags.spaced rest
      if c = '-' && next ≠ some ']' && next ≠ some '-' then state.enter (start.map .rangeEnd)
      else state.stepSet c rest
    | .setOperator => some { state with mode := .set }
    | .setName => some (if c = ']' then { state with mode := .set } else state)
    | .rangeEnd start =>
      if c = '\\' then some { state with mode := .escape (.rangeEnd start) }
      else state.enter (state.flags.put? (.rangeEnd start) (.literal c false))

/-- Whether the pattern may end. -/
def mayEnd (state : State) : Bool :=
  match state.mode with
  | .free _ => state.groups.isEmpty && state.part.height ≤ maxHeight
  | _ => false

/-- Whether the characters may follow. -/
def accepts (state : State) : List Char → Bool
  | [] => state.mayEnd
  | c :: rest =>
    match state.step c rest with
    | some state' => accepts state' rest
    | none => false

end State

end Pattern

/-- Whether a text is a well formed pattern. -/
def isPattern (text : List Char) : Bool := Pattern.State.initial.accepts text

end ListingReview.LogFilter
