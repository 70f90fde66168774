import ListingReview.Command.Arguments

/-! # Commands: guidance

What the program says about itself: its version, and help on all of it or on one command. -/

namespace ListingReview.Guidance

/-- The name by which the program is called. -/
def program : String := "listing-moderation-api"

/-- The version with the name of the service. -/
def version : String := "Listing Moderation Service 0.1.0\n"

/-- Lines, each with its end. -/
def lines (texts : List String) : String := String.join (texts.map fun text => text ++ "\n")

/-- What a topic is, in one line. -/
def purpose : Topic → String
  | .program => "Score marketplace listings and serve automated moderation decisions"
  | .serve => "Start the HTTP service (default command)"
  | .moderate => "Score a single moderation request from a JSON file or stdin"
  | .settings => "Print the effective moderation settings"
  | .help => "Print this message or the help of the given subcommand(s)"

/-- How a topic is called. -/
def usage : Topic → String
  | .program => "Usage: " ++ program ++ " [COMMAND]"
  | .serve => "Usage: " ++ program ++ " serve [OPTIONS]"
  | .moderate => "Usage: " ++ program ++ " moderate --input <INPUT>"
  | .settings => "Usage: " ++ program ++ " settings"
  | .help => "Usage: " ++ program ++ " help [COMMAND]"

/-- The commands and options of a topic. -/
def details : Topic → List String
  | .program =>
    ["Commands:",
     "  serve     " ++ purpose .serve,
     "  moderate  " ++ purpose .moderate,
     "  settings  " ++ purpose .settings,
     "  help      " ++ purpose .help,
     "",
     "Options:",
     "  -h, --help     Print help",
     "  -V, --version  Print version"]
  | .serve =>
    ["Options:",
     "      --host <HOST>  Override the configured host for the HTTP server",
     "      --port <PORT>  Override the configured port for the HTTP server",
     "  -h, --help         Print help"]
  | .moderate =>
    ["Options:",
     "      --input <INPUT>  Path to a JSON moderation request, or `-` to read from stdin",
     "  -h, --help           Print help"]
  | .settings => ["Options:", "  -h, --help  Print help"]
  | .help => ["Arguments:", "  [COMMAND]...  Print help for the subcommand(s)"]

/-- The help on a topic. -/
def help (topic : Topic) : String :=
  lines ([purpose topic, "", usage topic, ""] ++ details topic)

/-- What is said to arguments that are mistaken. -/
def mistaken : String :=
  lines ["error: the arguments do not fit", "", usage .program, "",
    "For more information, try '--help'."]

end ListingReview.Guidance
