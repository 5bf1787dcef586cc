import LinkTrials.Terminal

/-!
Faults of a run, in five categories. The category decides the exit code and the advice that is
printed under the message.
-/
namespace LinkTrials

/-- A fault: its category and what went wrong. -/
inductive Fault where
  /-- Unusable settings. -/
  | config (message : String)
  /-- Options that exclude each other. -/
  | validation (message : String)
  /-- A file that cannot be read. -/
  | io (message : String)
  /-- A text that does not say what it should. -/
  | parse (message : String)
  /-- A fault of the program. -/
  | internal (message : String)
deriving DecidableEq, Repr

namespace Fault

/-- The message alone. -/
def message : Fault → String
  | .config m | .validation m | .io m | .parse m | .internal m => m

/-- The message behind the name of its category. -/
def text : Fault → String
  | .config m => "Configuration error: " ++ m
  | .validation m => "Validation error: " ++ m
  | .io m => "I/O error: " ++ m
  | .parse m => "Parsing error: " ++ m
  | .internal m => "Internal error: " ++ m

/-- A short tag of the category. -/
def category : Fault → String
  | .config _ => "CONFIG"
  | .validation _ => "VALIDATION"
  | .io _ => "IO"
  | .parse _ => "PARSE"
  | .internal _ => "INTERNAL"

/-- Which input to look at. -/
def suggestions : Fault → List String
  | .config _ =>
    ["Configuration help:",
     "  - Parameter files are JSON objects; missing fields take defaults",
     "  - Mediums accept a code (0-9) or a name such as UPGRADE_TO_WIFIDIRECT",
     "  - Run --env-help to list the NC_* variables and their formats",
     "  - Run with --debug to see the resolved parameters"]
  | .validation _ =>
    ["Percentiles are 0-100, benchmarks >= 0 KB/s and rate targets 0.0-1.0."]
  | .parse _ =>
    ["Trial file help:",
     "  - The trials file must be a JSON array, one object per trial",
     "  - Latencies are seconds, throughputs are KB/s"]
  | .io _ => ["Check that the --trials path exists and is readable."]
  | .internal _ =>
    ["This is likely a bug. Please report it with the trial file that triggered it."]

def exitCode : Fault → Nat
  | .config _ | .validation _ | .parse _ => 1
  | .io _ => 5
  | .internal _ => 99

/-- The fault with what was being attempted in front of its message. A fault of reading, of a text
or of the settings keeps its category; any other becomes an internal one that shows its whole
text. -/
def withContext (context : String) : Fault → Fault
  | .io m => .io (context ++ ": " ++ m)
  | .parse m => .parse (context ++ ": " ++ m)
  | .config m => .config (context ++ ": " ++ m)
  | other => .internal (context ++ ": " ++ other.text)

def colour : Fault → Terminal.Colour
  | .config _ | .validation _ | .parse _ => .red
  | .io _ => .cyan
  | .internal _ => .brightRed

/-- The tag and the text as a line for the terminal. -/
def consoleText (coloured : Bool) (fault : Fault) : String :=
  "[" ++ Terminal.paint coloured true fault.colour fault.category ++ "] " ++
    Terminal.paint coloured false fault.colour fault.text

end Fault

end LinkTrials
