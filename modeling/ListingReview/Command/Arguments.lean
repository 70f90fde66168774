import ListingReview.Text.Fields
import ListingReview.Text.Numeral

/-! # Commands: arguments

What the program is asked to do. The first argument names the command, and without any the service
is started. The others are options, each given at most once, with its value behind an equals sign or
in the next argument; such an argument does not start with a dash unless it is just a dash. Two
dashes end the options.

Arguments are read in order, so a mistake before a request for help counts, and one after it does
not. -/

namespace ListingReview

/-- Where a submission is read from. -/
inductive Input where
  | console
  | file (path : String)
deriving DecidableEq, Repr

/-- A dash, also one with slashes and full stops behind it as in a path, stands for the console. -/
def Input.ofPath (path : String) : Input :=
  match Text.fields '/' path.toList with
  | ['-'] :: parts =>
    if parts.all fun part => part == [] || part == ['.'] then console else file path
  | _ => file path

/-- What the program can do. -/
inductive Command where
  | serve (host : Option String) (port : Option UInt16)
  | moderate (input : Input)
  | settings
deriving DecidableEq, Repr

/-- What help may be about. -/
inductive Topic where
  | program
  | serve
  | moderate
  | settings
  | help
deriving DecidableEq, Repr

/-- What arguments ask for. -/
inductive Arguments where
  | command (command : Command)
  | version
  | help (topic : Topic)
  | mistaken
deriving DecidableEq, Repr

namespace Arguments

/-! ### Options -/

/-- An option: its name, and the options after its value is given, unless it is refused. -/
structure Entry (σ : Type) where
  name : String
  set : String → σ → Option σ

/-- What the arguments of a command come to. -/
inductive Reading (σ : Type) where
  | options (options : σ)
  | help
  | mistaken

/-- Whether an argument asks for help: it may be short, with anything behind. -/
def asksHelp (argument : String) : Bool :=
  argument == "--help" || "-h".toList.isPrefixOf argument.toList

/-- Whether an argument asks for the version. -/
def asksVersion (argument : String) : Bool :=
  argument == "--version" || "-V".toList.isPrefixOf argument.toList

/-- Whether an argument can be the value of the option before it. -/
def isValue (argument : String) : Bool :=
  argument == "-" || !"-".toList.isPrefixOf argument.toList

/-- An argument up to its first equals sign, and the text behind it. -/
def parts (argument : String) : String × Option String :=
  let name := argument.toList.takeWhile (· != '=')
  match argument.toList.dropWhile (· != '=') with
  | [] => (argument, none)
  | _ :: value => (String.ofList name, some (String.ofList value))

/-- The entry with a name. -/
def entry? {σ : Type} (entries : List (Entry σ)) (name : String) : Option (Entry σ) :=
  entries.find? fun entry => entry.name == name

/-- Reads options in order. -/
def readOptions {σ : Type} (entries : List (Entry σ)) (options : σ) : List String → Reading σ
  | [] => .options options
  | argument :: arguments =>
    if argument = "--" then if arguments.isEmpty then .options options else .mistaken
    else if asksHelp argument then .help
    else
      match entry? entries (parts argument).1, (parts argument).2 with
      | none, _ => .mistaken
      | some entry, some value =>
        match entry.set value options with
        | none => .mistaken
        | some options => readOptions entries options arguments
      | some entry, none =>
        match arguments with
        | [] => .mistaken
        | value :: arguments =>
          if isValue value then
            match entry.set value options with
            | none => .mistaken
            | some options => readOptions entries options arguments
          else .mistaken

/-! ### The options of each command -/

/-- A port, perhaps with a sign. -/
def port? (text : String) : Option UInt16 :=
  match Text.ofSignedDecimal? text.toList with
  | some n => if 0 ≤ n && n < 0x10000 then some (UInt16.ofNat n.toNat) else none
  | none => none

/-- What may be given instead of the configured host and port. -/
structure ServeOptions where
  host : Option String := none
  port : Option UInt16 := none

/-- The options of `serve`. -/
def serveEntries : List (Entry ServeOptions) :=
  [⟨"--host", fun value options =>
      if options.host.isSome then none else some { options with host := some value }⟩,
   ⟨"--port", fun value options =>
      match options.port, port? value with
      | none, some port => some { options with port := some port }
      | _, _ => none⟩]

/-- The options of `moderate`: the path of its input, which is not empty. -/
def moderateEntries : List (Entry (Option Input)) :=
  [⟨"--input", fun value input =>
      if input.isSome || value.isEmpty then none else some (some (.ofPath value))⟩]

/-! ### All arguments -/

def topicNames : List (String × Topic) :=
  [("serve", .serve), ("moderate", .moderate), ("settings", .settings), ("help", .help)]

/-- What the names behind a request for help ask for. -/
def readTopic : List String → Arguments
  | [] => help .program
  | [name] =>
    match topicNames.lookup name with
    | some topic => help topic
    | none => mistaken
  | _ => mistaken

/-- What a reading of the options of a command asks for. -/
def ofReading {σ : Type} (topic : Topic) (command? : σ → Option Command) : Reading σ → Arguments
  | .options options =>
    match command? options with
    | some asked => command asked
    | none => mistaken
  | .help => help topic
  | .mistaken => mistaken

/-- What a list of arguments asks for. -/
def ofList : List String → Arguments
  | [] => command (.serve none none)
  | argument :: arguments =>
    match topicNames.lookup argument with
    | some .serve =>
      ofReading .serve (fun options => some (.serve options.host options.port))
        (readOptions serveEntries {} arguments)
    | some .moderate =>
      ofReading .moderate (fun input => input.map .moderate)
        (readOptions moderateEntries none arguments)
    | some .settings =>
      ofReading .settings (fun _ => some .settings)
        (readOptions ([] : List (Entry Unit)) () arguments)
    | some .help => readTopic arguments
    | some .program => mistaken
    | none =>
      if argument = "--" then if arguments.isEmpty then command (.serve none none) else mistaken
      else if asksVersion argument then version
      else if asksHelp argument then help .program
      else mistaken

end Arguments

end ListingReview
