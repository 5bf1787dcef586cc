import LinkTrials.Environment.Basic
import LinkTrials.Report.Rendering
import LinkTrials.Settings.Basic
import LinkTrials.Text.Numeral

/-!
What a user asks for on the command line, and how the value of each option is read.
-/
namespace LinkTrials

/-- What a user asks for. -/
structure Options where
  /-- The file of the trials. -/
  trials : Option String := none
  /-- A file of settings. -/
  params : Option String := none
  format : ReportFormat := .summary
  medium : Option Medium := none
  btBenchmark : Option Binary64 := none
  wifiBenchmark : Option Binary64 := none
  btPercentile : Option Nat := none
  wifiPercentile : Option Nat := none
  successTarget : Option Binary64 := none
  reachTarget : Option Binary64 := none
  label : Option String := none
  colour : Bool := false
  noColour : Bool := false
  verbose : Bool := false
  debug : Bool := false
  /-- Only tell about the environment variables. -/
  variableHelp : Bool := false
  /-- Only write an example of a file of variables, to this place. -/
  exampleTo : Option String := none
deriving DecidableEq

/-- An option that has a value. -/
inductive ValueOption where
  | trials
  | params
  | format
  | medium
  | btBenchmark
  | wifiBenchmark
  | btPercentile
  | wifiPercentile
  | successTarget
  | reachTarget
  | label
  | exampleTo
deriving DecidableEq, Repr

/-- An option that is there or not. -/
inductive Flag where
  | colour
  | noColour
  | verbose
  | debug
  | variableHelp
deriving DecidableEq, Repr

namespace ValueOption

def all : List ValueOption :=
  [.trials, .params, .format, .medium, .btBenchmark, .wifiBenchmark, .btPercentile,
   .wifiPercentile, .successTarget, .reachTarget, .label, .exampleTo]

def name : ValueOption → String
  | .trials => "trials"
  | .params => "params"
  | .format => "format"
  | .medium => "medium"
  | .btBenchmark => "bt-benchmark"
  | .wifiBenchmark => "wifi-benchmark"
  | .btPercentile => "bt-percentile"
  | .wifiPercentile => "wifi-percentile"
  | .successTarget => "success-target"
  | .reachTarget => "reach-target"
  | .label => "alias"
  | .exampleTo => "create-env-example"

/-- What the value of an option is. -/
def placeholder : ValueOption → String
  | .trials | .params => "FILE"
  | .format => "json|summary"
  | .medium => "MEDIUM"
  | .btBenchmark | .wifiBenchmark => "KBS"
  | .btPercentile | .wifiPercentile => "0-100"
  | .successTarget | .reachTarget => "0.0-1.0"
  | .label => "NAME"
  | .exampleTo => "PATH"

def description : ValueOption → String
  | .trials => "JSON file holding an array of trial results"
  | .params => "JSON file with test parameters (applied before environment variables)"
  | .format => "Output format"
  | .medium => "Medium requested for the upgraded connection (name or code)"
  | .btBenchmark => "BT throughput benchmark in KB/s"
  | .wifiBenchmark => "WiFi throughput benchmark in KB/s"
  | .btPercentile => "Percentile of BT throughput compared against its benchmark"
  | .wifiPercentile => "Percentile of WiFi throughput compared against its benchmark"
  | .successTarget => "Required share of latency samples under their timeout (0.0-1.0)"
  | .reachTarget => "Required share of expected events that produced a sample (0.0-1.0)"
  | .label => "Report alias name"
  | .exampleTo => "Write an example .env file to PATH and exit"

end ValueOption

namespace Flag

def all : List Flag := [.colour, .noColour, .verbose, .debug, .variableHelp]

def name : Flag → String
  | .colour => "color"
  | .noColour => "no-color"
  | .verbose => "verbose"
  | .debug => "debug"
  | .variableHelp => "env-help"

def description : Flag → String
  | .colour => "Force colored output"
  | .noColour => "Disable colored output"
  | .verbose => "Enable verbose output"
  | .debug => "Enable debug output"
  | .variableHelp => "List the supported NC_* environment variables and exit"

end Flag

/-- Why a value is not the value of an option. -/
inductive ValueFault where
  /-- Not among the values that there are. -/
  | unlisted (text : String)
  /-- Not of the form that is wanted, or out of range. -/
  | refused (message : String)
deriving DecidableEq, Repr

namespace ValueOption

def readPath (text : String) : Except ValueFault String :=
  if text.isEmpty then .error (.unlisted text) else .ok text

def readFormat (text : String) : Except ValueFault ReportFormat :=
  match ReportFormat.ofName? text with
  | some f => .ok f
  | none => .error (.unlisted text)

def readMedium (text : String) : Except ValueFault Medium :=
  (Coded.ofText text).mapError fun fault => .refused fault.toFault.text

def readNumber (text : String) : Except ValueFault Binary64 :=
  (Text.readNumber text).mapError fun fault => .refused fault.message

/-- An integer of 64 bits that is a percentile. -/
def readPercentile (text : String) : Except ValueFault Nat :=
  match Text.readInt (UInt64.size / 2 - 1) text with
  | .error fault => .error (.refused fault.message)
  | .ok i =>
    if 0 ≤ i ∧ i ≤ 100 then .ok i.toNat else .error (.refused s!"{i} is not in 0..=100")

def readShare (text : String) : Except ValueFault Binary64 :=
  match Text.readNumber text with
  | .error _ => .error (.refused s!"Invalid fraction: {text}")
  | .ok x =>
    if x.isShare then .ok x
    else .error (.refused s!"Fraction must be between 0.0 and 1.0, got: {text}")

/-- The options with one value stored. -/
def store (o : ValueOption) (text : String) (options : Options) : Except ValueFault Options :=
  match o with
  | .trials => (readPath text).map fun p => { options with trials := some p }
  | .params => (readPath text).map fun p => { options with params := some p }
  | .format => (readFormat text).map fun f => { options with format := f }
  | .medium => (readMedium text).map fun m => { options with medium := some m }
  | .btBenchmark => (readNumber text).map fun x => { options with btBenchmark := some x }
  | .wifiBenchmark => (readNumber text).map fun x => { options with wifiBenchmark := some x }
  | .btPercentile => (readPercentile text).map fun p => { options with btPercentile := some p }
  | .wifiPercentile => (readPercentile text).map fun p => { options with wifiPercentile := some p }
  | .successTarget => (readShare text).map fun x => { options with successTarget := some x }
  | .reachTarget => (readShare text).map fun x => { options with reachTarget := some x }
  | .label => .ok { options with label := some text }
  | .exampleTo => (readPath text).map fun p => { options with exampleTo := some p }

end ValueOption

def Flag.store (f : Flag) (options : Options) : Options :=
  match f with
  | .colour => { options with colour := true }
  | .noColour => { options with noColour := true }
  | .verbose => { options with verbose := true }
  | .debug => { options with debug := true }
  | .variableHelp => { options with variableHelp := true }

namespace Options

/-- Why options do not go together. -/
inductive Violation where
  | bothColours
  | blankLabel
deriving DecidableEq, Repr

def Violation.message : Violation → String
  | .bothColours => "Cannot specify both --color and --no-color"
  | .blankLabel => "--alias cannot be empty"

def Violation.toFault (v : Violation) : Fault := .validation v.message

/-- Reports the first violation. -/
def validate (o : Options) : Except Violation Unit :=
  if o.colour && o.noColour then .error .bothColours
  else
    match o.label with
    | some label => if (Text.trim label).isEmpty then .error .blankLabel else .ok ()
    | none => .ok ()

/-- Whether output is coloured: as the user says, or else unless the environment speaks against
it. -/
def usesColour (o : Options) (env : Environment) : Bool :=
  o.colour ||
    (!o.noColour && env.text? "TERM" != some "dumb" && (env.text? "NO_COLOR").isNone)

/-- The settings with those replaced that are options; the name of the run without blanks around
it. -/
def override (o : Options) (s : Settings) : Settings :=
  { s with
    label := (o.label.map Text.trim).getD s.label
    medium := o.medium.getD s.medium
    btBenchmark := o.btBenchmark.getD s.btBenchmark
    wifiBenchmark := o.wifiBenchmark.getD s.wifiBenchmark
    btPercentile := o.btPercentile.getD s.btPercentile
    wifiPercentile := o.wifiPercentile.getD s.wifiPercentile
    successTarget := o.successTarget.getD s.successTarget
    reachTarget := o.reachTarget.getD s.reachTarget }

end Options

end LinkTrials
