import ListingReview.Command.Run

/-! # The program

Gathers what a run needs to know, carries it out, and reports what it came to. Listening itself is
left to whoever embeds the server. -/

namespace ListingReview

/-- Everything that a stream still holds. -/
partial def readToEnd (stream : IO.FS.Stream) (bytes : ByteArray) : IO ByteArray := do
  let chunk ← stream.read 0x10000
  if chunk.isEmpty then return bytes else readToEnd stream (bytes ++ chunk)

/-- The settings that are made for the program. -/
def readSettings : IO Settings := do
  let values ← (Config.keys ++ Policy.keys).mapM fun name => do return (name, ← IO.getEnv name)
  return fun name => (values.lookup name).join

/-- The text of the settings file, if there is one. -/
def readSettingsFile : IO (Option String) := do
  try return some (← IO.FS.readFile ".env")
  catch _ => return none

/-- The octets of a file. -/
def readInput (path : String) : IO (Except FileFault Text.Octets) := do
  try return .ok (← IO.FS.readBinFile path).data.toList
  catch
    | .noFileOrDirectory .. => return .error .missing
    | .inappropriateType .. => return .error .directory
    | other => return .error (.unopened (toString other))

/-- What is found around the program, as far as its arguments make it matter. -/
def readSurroundings (arguments : Arguments) : IO Surroundings := do
  let settings ← readSettings
  match arguments with
  | .command (.serve ..) => return { settings, settingsFile := ← readSettingsFile }
  | .command (.moderate .console) =>
    let bytes ← readToEnd (← IO.getStdin) .empty
    return { settings, console := bytes.data.toList }
  | .command (.moderate (.file path)) =>
    let found ← readInput path
    return { settings, file := fun _ => found }
  | _ => return { settings }

/-- What is reported in place of listening. -/
def Outcome.report : Outcome → Outcome
  | .listening launch =>
    .failed (.server ("nothing is there to listen on " ++ launch.endpoint.text))
  | outcome => outcome

/-- Does what arguments ask for and tells what came of it. -/
def perform (arguments : Arguments) : IO UInt32 := do
  let outcome := (arguments.run (← readSurroundings arguments)).report
  IO.print outcome.output
  IO.eprint outcome.errors
  return outcome.exitCode

end ListingReview

def main (args : List String) : IO UInt32 :=
  ListingReview.perform (ListingReview.Arguments.ofList args)
