import LinkTrials.CommandLine.Options
import LinkTrials.Environment.Dotfile
import LinkTrials.Settings.Record
import LinkTrials.Settings.Variable

/-!
Settings put together from all their sources.

Later sources replace what earlier ones set: the defaults, a file of settings, the variables of the
environment, to which a dotfile may add some, and the options of the command line.
-/
namespace LinkTrials.Settings

/-- Why settings cannot be put together. -/
inductive SourceFault where
  | unreadable (path : String) (fault : FileFault)
  | undecodable (path text : String) (fault : Json.DecodeFault)
  | dotfile (path : String) (fault : Dotfile.Fault)
  | variable (fault : Variable.Fault)
  | invalid (violation : Violation)
deriving DecidableEq

def SourceFault.message (placing : Json.Placing) : SourceFault → String
  | .unreadable path fault => s!"Failed to read parameters file {path}: {fault.message}"
  | .undecodable path text fault =>
    s!"Invalid parameters file {path}: {fault.messageIn placing text}"
  | .dotfile path fault => s!"Failed to load env file {path}: {fault.message}"
  | .variable fault => fault.message
  | .invalid violation => violation.message

def SourceFault.toFault (placing : Json.Placing) (fault : SourceFault) : Fault :=
  .config (fault.message placing)

def ofFile (folder : Folder) (path : String) : Except SourceFault Settings :=
  match folder.readText path with
  | .error fault => .error (.unreadable path fault)
  | .ok text => (decoder.ofText text).mapError (.undecodable path text)

/-- The settings that all others replace. -/
def ofParams (folder : Folder) : Option String → Except SourceFault Settings
  | none => .ok {}
  | some path => ofFile folder path

/-- The file that is looked for in the folder of a run. -/
def dotfilePath : String := ".env"

/-- The variables with those of a dotfile, if there is one, and whether there is. -/
def loadDotfile (folder : Folder) (path : String) (env : Environment) :
    Environment × Except (Halt SourceFault) Bool :=
  let (after, outcome) := Dotfile.load folder path env
  (after, outcome.mapError (.map (.dotfile path)))

/-- The settings after the options, if they are valid. -/
def finish (options : Options) (s : Settings) : Except SourceFault Settings :=
  let s := options.override s
  match s.validate with
  | .ok _ => .ok s
  | .error violation => .error (.invalid violation)

/-- The settings from all sources, and the variables afterwards. -/
def load (options : Options) (folder : Folder) (env : Environment) :
    Environment × Except (Halt SourceFault) Settings :=
  match ofParams folder options.params with
  | .error fault => (env, .error (.fault fault))
  | .ok base =>
    match loadDotfile folder dotfilePath env with
    | (after, .error halt) => (after, .error halt)
    | (after, .ok _) =>
      -- The rules of variables are kept even where an option replaces the content.
      match base.merge after.text? with
      | (_, .error fault) => (after, .error (.fault (.variable fault)))
      | (merged, .ok _) => (after, (finish options merged).mapError .fault)

end LinkTrials.Settings
