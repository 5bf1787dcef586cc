import LinkTrials.Json.Decode
import LinkTrials.Fault
import LinkTrials.Text.UpperCase

/-!
How much a log entry matters.
-/
namespace LinkTrials.Log

/-- The weight of a log entry. -/
inductive Level where
  | trace
  /-- Single trials. -/
  | debug
  /-- The progress of a run and its verdict. -/
  | info
  /-- Missed targets and doubtful settings. -/
  | warn
  | error
  /-- Faults that end a run. -/
  | fatal
deriving DecidableEq, Repr

namespace Level

def all : List Level := [.trace, .debug, .info, .warn, .error, .fatal]

/-- The place of a level among all, from the least on. -/
def rank : Level → Nat
  | .trace => 0
  | .debug => 1
  | .info => 2
  | .warn => 3
  | .error => 4
  | .fatal => 5

def tag : Level → String
  | .trace => "TRACE"
  | .debug => "DEBUG"
  | .info => "INFO"
  | .warn => "WARN"
  | .error => "ERROR"
  | .fatal => "FATAL"

def name : Level → String
  | .trace => "Trace"
  | .debug => "Debug"
  | .info => "Info"
  | .warn => "Warn"
  | .error => "Error"
  | .fatal => "Fatal"

def colour : Level → Terminal.Colour
  | .trace => .white
  | .debug => .cyan
  | .info => .green
  | .warn => .yellow
  | .error => .red
  | .fatal => .magenta

/-- At least as weighty as another level. -/
def atLeast (level threshold : Level) : Bool := decide (threshold.rank ≤ level.rank)

/-- The level from which on entries are written: a wish for debugging counts more than one for
progress. -/
def ofFlags (verbose debug : Bool) : Level :=
  if debug then .debug else if verbose then .info else .warn

def ofText (s : String) : Except Fault Level :=
  let wanted := Text.upper s
  if wanted = "WARNING" then .ok .warn
  else
    match all.find? fun level => level.tag == wanted with
    | some level => .ok level
    | none => .error (.parse s!"Invalid log level: {s}")

def decoder : Json.Decoder Level := .variant (all.map fun level => (level.name, level))

def toJson (level : Level) : Json := .string level.name

end Level

end LinkTrials.Log
