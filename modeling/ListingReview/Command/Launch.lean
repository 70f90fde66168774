import ListingReview.Config
import ListingReview.Failure

/-! # Commands: launch

What happens before the service listens. The configuration is loaded, host and port may be
overridden, then the log is set up, and last the endpoint is found; the first of these steps that
fails decides. The log filters by a setting of its own if that is well formed, and otherwise by the
configured level. -/

namespace ListingReview

/-- A configuration with the host and the port given instead of its own. -/
def Config.override (config : Config) (host : Option String) (port : Option UInt16) : Config :=
  { config with host := host.getD config.host, port := port.getD config.port }

/-- What is fixed when the service starts to listen. -/
structure Launch where
  config : Config
  endpoint : Net.Endpoint
deriving DecidableEq, Repr

/-- Whether the log finds a filter: one among the settings, or the level configured. -/
def hasFilter (accepts : String → Bool) (settings : Settings) (config : Config) : Bool :=
  (settings Config.logFilterKey).any accepts || accepts config.logLevel

/-- Prepares the service; `accepts` says which log filters are well formed. -/
def Launch.prepare (accepts : String → Bool) (settings : Settings) (host : Option String)
    (port : Option UInt16) : Except Failure Launch :=
  match Config.load settings (Policy.ofSettings settings) with
  | .error fault => .error (.config fault)
  | .ok config =>
    let config := config.override host port
    if !hasFilter accepts settings config then .error (.telemetry (.filter config.logLevel))
    else
      match config.endpoint with
      | .error fault => .error (.config fault)
      | .ok endpoint => .ok ⟨config, endpoint⟩

end ListingReview
