import ListingReview.Failure
import ListingReview.Net.Address
import ListingReview.Text.Ascii

/-! # The configuration

How the service runs: for which stage of operation, under which name, at which endpoint, with which
log, and under which policy. All but the policy comes from settings that each have a default. -/

namespace ListingReview

/-- The stage of operation. -/
inductive Stage where
  | development
  | test
  | production
deriving DecidableEq, Repr

/-- How lines of the log look. -/
inductive LogFormat where
  | compact
  | json
deriving DecidableEq, Repr

/-- A configuration, with the policy as one part. -/
structure Config where
  stage : Stage
  serviceName : String
  host : String
  port : UInt16
  logLevel : String
  logFormat : LogFormat
  policy : Policy
deriving DecidableEq, Repr

/-- A word of a setting, regardless of the case of its letters and of blanks around it. -/
def settingWord (text : String) : String :=
  String.ofList (Text.asciiLower (Text.trim text.toList))

/-- The stage that a word names; development stands for every other word. -/
def Stage.ofSetting (text : String) : Stage :=
  match settingWord text with
  | "prod" | "production" => production
  | "test" | "ci" => test
  | _ => development

/-- The format that a word names; compact stands for every other word. -/
def LogFormat.ofSetting (text : String) : LogFormat :=
  if settingWord text = "json" then json else compact

/-- A port in digits, perhaps with a plus sign. -/
def port? (text : String) : Option UInt16 :=
  match Text.ofPlusDecimal? text.toList with
  | some n => if n < 0x10000 then some (UInt16.ofNat n) else none
  | none => none

namespace Config

def stageKey : String := "APP_ENV"
def serviceNameKey : String := "APP_SERVICE_NAME"
def hostKey : String := "APP_HOST"
def portKey : String := "APP_PORT"
def logLevelKey : String := "APP_LOG_LEVEL"
def logFormatKey : String := "APP_LOG_FORMAT"

/-- The setting with a log filter that goes before the configured one. -/
def logFilterKey : String := "RUST_LOG"

/-- The names of the settings that say how the service runs. -/
def keys : List String :=
  [stageKey, serviceNameKey, hostKey, portKey, logLevelKey, logFormatKey, logFilterKey]

/-- The configuration that settings describe. -/
def load (settings : Settings) (policy : Policy) : Except ConfigFault Config :=
  match port? ((settings portKey).getD "5005") with
  | none => .error .invalidPort
  | some port => .ok {
      stage := .ofSetting ((settings stageKey).getD "development")
      serviceName := (settings serviceNameKey).getD "Listing Moderation Service"
      host := (settings hostKey).getD "127.0.0.1"
      port
      logLevel := (settings logLevelKey).getD "info"
      logFormat := .ofSetting ((settings logFormatKey).getD "")
      policy }

end Config

/-- The endpoint of a host, given as an address or as `localhost`, and a port. -/
def endpoint (host : String) (port : UInt16) : Except ConfigFault Net.Endpoint :=
  if Text.sameAscii host.toList "localhost".toList then .ok ⟨.four 127 0 0 1, port⟩
  else
    match Net.Address.ofText? host.toList with
    | some address => .ok ⟨address, port⟩
    | none => .error .invalidHost

/-- Where the configured service listens. -/
def Config.endpoint (config : Config) : Except ConfigFault Net.Endpoint :=
  ListingReview.endpoint config.host config.port

end ListingReview
