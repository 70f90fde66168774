import ListingReview.Command.Guidance
import ListingReview.Command.Launch
import ListingReview.LogFilter
import ListingReview.SettingsFile

/-! # Commands: runs

What a run of the program comes to, given its arguments and surroundings. A submission from the
console has to be text before it is read as JSON; one from a file is read as it is. -/

namespace ListingReview

/-- Why a file is of no use. -/
inductive FileFault where
  /-- It cannot be opened. -/
  | unopened (reason : String)
  /-- It can be opened, but not read. -/
  | unread (reason : String)
deriving DecidableEq, Repr

def FileFault.missing : FileFault := .unopened "No such file or directory (os error 2)"

def FileFault.directory : FileFault := .unread "Is a directory (os error 21)"

/-- A file that cannot be opened is a failure of its own; one that cannot be read to its end ends
the reading of the submission. -/
def FileFault.failure : FileFault → Failure
  | unopened reason => .io reason
  | unread reason => .fetch reason

/-- What a run finds around it. -/
structure Surroundings where
  settings : Settings
  /-- The text of the settings file, if there is one. -/
  settingsFile : Option String := none
  console : Text.Octets := []
  file : String → Except FileFault Text.Octets := fun _ => .error .missing

/-- The settings of the surroundings and, behind them, those of the settings file. -/
def Surroundings.allSettings (around : Surroundings) : Settings :=
  match around.settingsFile with
  | none => around.settings
  | some text => around.settings.orElse (SettingsFile.settings text)

/-- The octets of an input. -/
def Surroundings.fetch (around : Surroundings) : Input → Except Failure Text.Octets
  | .console =>
    match Text.ofOctets? around.console with
    | some _ => .ok around.console
    | none => .error (.io "stream did not contain valid UTF-8")
  | .file path => (around.file path).mapError FileFault.failure

/-- The submission that octets are. -/
def Submission.ofOctets (bytes : Text.Octets) : Except Failure Submission :=
  (Submission.shape.reader.whole bytes).mapError fun fault => .decode fault.cause

/-- The decision on a submission under a policy, noted nowhere. -/
def Policy.reviewSubmission (policy : Policy) (submission : Submission) :
    Except Failure Decision :=
  ((Desk.mk policy Recorder.silent).reviewSubmission () submission).1.mapError .review

/-- The decision on the submission in an input. -/
def Surroundings.moderate (around : Surroundings) (input : Input) : Except Failure Decision := do
  let bytes ← around.fetch input
  let submission ← Submission.ofOctets bytes
  (Policy.ofSettings around.settings).reviewSubmission submission

/-- What a run comes to. -/
inductive Outcome where
  | shown (text : String)
  | failed (failure : Failure)
  | mistaken
  | listening (launch : Launch)

namespace Outcome

def exitCode : Outcome → UInt32
  | shown _ => 0
  | failed _ => 1
  | mistaken => 2
  | listening _ => 0

/-- What is written as output. -/
def output : Outcome → String
  | shown text => text
  | failed _ | mistaken | listening _ => ""

/-- What is written about errors. -/
def errors : Outcome → String
  | failed failure => "application error: " ++ failure.message ++ "\n"
  | mistaken => Guidance.mistaken
  | shown _ | listening _ => ""

/-- A document on lines of its own, or a failure. -/
def ofDocument : Except Failure Json.Document → Outcome
  | .ok document => shown (document.lines ++ "\n")
  | .error failure => failed failure

end Outcome

/-- Carries out a command. -/
def Command.run (around : Surroundings) : Command → Outcome
  | serve host port =>
    match Launch.prepare LogFilter.accepts around.allSettings host port with
    | .ok launch => .listening launch
    | .error failure => .failed failure
  | moderate input => .ofDocument ((around.moderate input).map Decision.document)
  | settings => .ofDocument (.ok (Policy.ofSettings around.settings).document)

/-- Does what arguments ask for. -/
def Arguments.run (around : Surroundings) : Arguments → Outcome
  | .command asked => asked.run around
  | version => .shown Guidance.version
  | help topic => .shown (Guidance.help topic)
  | mistaken => .mistaken

end ListingReview
