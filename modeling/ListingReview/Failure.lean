import ListingReview.Desk

/-! # Failures

What can go wrong around the review: in the configuration, in telemetry, in reading and serving, in
the body of a request, and in the review itself. A failure has a message, mostly one of an inner
failure behind a heading, and as an answer to a request it has a status and a document. -/

namespace ListingReview

/-- Why a configuration is refused. -/
inductive ConfigFault where
  | invalidPort
  | invalidHost
deriving DecidableEq, Repr

def ConfigFault.message : ConfigFault → String
  | invalidPort => "APP_PORT must be a valid u16"
  | invalidHost => "APP_HOST must parse to an IPv4 or IPv6 address"

/-- What lies behind a fault in the configuration. -/
def ConfigFault.reason? : ConfigFault → Option String
  | invalidPort => none
  | invalidHost => some "invalid IP address syntax"

/-- Why the log cannot be set up. -/
inductive TelemetryFault where
  | filter (text : String)
  | subscriber (reason : String)
deriving DecidableEq, Repr

def TelemetryFault.message : TelemetryFault → String
  | filter text => "invalid log level/filter '" ++ text ++ "': unable to build EnvFilter"
  | subscriber reason => "telemetry error: " ++ reason

/-- Why the body of a request is refused. -/
inductive BodyFault where
  | notJson
  | tooLarge
  | unreadable (fault : Json.Fault)
deriving DecidableEq, Repr

def BodyFault.message : BodyFault → String
  | notJson => "Expected request with `Content-Type: application/json`"
  | tooLarge => "Failed to buffer the request body: length limit exceeded"
  | unreadable fault =>
    match fault.cause.category with
    | .malformed | .truncated => "Failed to parse the request body as JSON: " ++ fault.words
    | .unfitting =>
      "Failed to deserialize the JSON body into the target type: " ++ fault.words

def BodyFault.status : BodyFault → Nat
  | notJson => 415
  | tooLarge => 413
  | unreadable fault =>
    match fault.cause.category with
    | .malformed | .truncated => 400
    | .unfitting => 422

/-- A failure, by where it arose. -/
inductive Failure where
  | config (fault : ConfigFault)
  | telemetry (fault : TelemetryFault)
  | io (reason : String)
  | server (reason : String)
  | body (fault : BodyFault)
  | decode (cause : Json.Cause)
  /-- A submission that cannot be fetched in order to be decoded. -/
  | fetch (reason : String)
  | review (refusal : Refusal)
deriving DecidableEq, Repr

namespace Failure

/-- The message of what lies behind a failure. -/
def reason : Failure → String
  | config fault => fault.message
  | telemetry fault => fault.message
  | io reason => reason
  | server reason => reason
  | body fault => fault.message
  | decode cause => cause.message
  | fetch reason => reason
  | review refusal => refusal.message

/-- The words in front of the message of what lies behind a failure. -/
def heading : Failure → String
  | config _ => "configuration error: "
  | telemetry _ => "telemetry error: "
  | io _ => "io error: "
  | server _ => "server error: "
  | body _ => "invalid request body: "
  | decode _ | fetch _ => "invalid moderation request: "
  | review _ => "moderation error: "

/-- The words of a failure. -/
def message (failure : Failure) : String := failure.heading ++ failure.reason

/-- The status of the answer. -/
def status : Failure → Nat
  | body fault => fault.status
  | decode _ | fetch _ => 400
  | review (.invalid _) => 422
  | review (.scoreOutOfRange ..) | config _ | telemetry _ | io _ | server _ => 500

/-- The document of the answer: for a violation also the member at fault. -/
def document : Failure → Json.Document
  | review (.invalid violation) =>
    .object [("error", .text violation.message), ("field", .text violation.field)]
  | failure => .object [("error", .text failure.message)]

end Failure

end ListingReview
