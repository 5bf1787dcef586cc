import LinkTrials.Evaluation
import LinkTrials.Fault.Cause
import LinkTrials.Log.Run
import LinkTrials.Report.Rendering
import LinkTrials.Settings.Guide
import LinkTrials.Settings.Sources

/-!
A run: settings and trials are read, the trials are evaluated, and the report is rendered. On the
way log entries are written.

A run takes all that it finds outside as a value, and gives all that it leaves there as one.
-/
namespace LinkTrials

/-- How the program was built. -/
structure Build where
  time : String
  commit : Option String
  /-- The place in the library that sets variables, as panics name it. -/
  panicPlace : String
  /-- Where the library that reads JSON finds a fault, as its messages say it. -/
  placing : Json.Placing

/-- Whether texts that are meant to be coloured are. -/
inductive Styling where
  | always
  /-- As the terminal and the environment have it. -/
  | detect (isTerminal : Bool)
deriving DecidableEq, Repr

/-- What a run finds. -/
structure Host where
  folder : Folder
  env : Environment
  now : Instant
  /-- The identity of the run. -/
  session : String
  build : Build
  styling : Styling

namespace Styling

/-- A variable that is off only at `0`. -/
def switch? (env : Environment) (name : String) : Option Bool := (env.text? name).map (· != "0")

/-- Colours can be forced or forbidden by the environment; they are shown on terminals. -/
def enabled (styling : Styling) (env : Environment) : Bool :=
  match styling with
  | .always => true
  | .detect isTerminal =>
    if switch? env "CLICOLOR_FORCE" = some true then true
    else if (switch? env "NO_COLOR").isSome then false
    else isTerminal && (switch? env "CLICOLOR").getD true

end Styling

/-- What a run comes to. -/
structure Outcome where
  report : Report
  rendered : String
deriving DecidableEq

/-- A run up to its end: the variables and the written log lines, and how it ended. -/
structure Course where
  env : Environment
  log : List String
  ending : Except (Halt Fault) Outcome

namespace Run

def loadTrials (placing : Json.Placing) (folder : Folder) (path : String) :
    Except Fault (List Trial) :=
  match folder.readText path with
  | .error fault => .error (fault.toFault.withContext ("Failed to read trials file " ++ path))
  | .ok text =>
    ((Json.Decoder.list Trial.decoder).ofText text).mapError fun fault =>
      (fault.toFault placing text).withContext ("Invalid trials file " ++ path)

/-- The place of a run that writes an entry, as the program names it. -/
def location (line : Nat) : Log.Location := ⟨"src/app.rs", line, some "nearby_perf_metrics::app"⟩

def openingEntry (l : Log.Logger) (now : Instant) (build : Build) : Log.Entry :=
  (l.entry now .debug
    (s!"nearby-perf-metrics v0.1.0 (built {build.time}, commit " ++
      build.commit.getD "unknown" ++ ")")).withLocation (location 73)

def settingsEntry (l : Log.Logger) (now : Instant) (s : Settings) : Log.Entry :=
  (l.entry now .debug ("Parameters:\n" ++ s.summary)).withLocation (location 94)

def trialsEntry (l : Log.Logger) (now : Instant) (count : Nat) (path : String) : Log.Entry :=
  (l.entry now .info s!"Loaded {count} trials from {path}").withLocation (location 97)

def written (l : Log.Logger) (entries : List Log.Entry) : List String := entries.filterMap l.render?

def concernEntries (l : Log.Logger) (now : Instant) (concerns : List Concern) :
    List Log.Entry :=
  concerns.map fun c => l.concernEntry now c.severity c.message

def trialEntries (l : Log.Logger) (now : Instant) (trials : List Trial) : List Log.Entry :=
  trials.mapIdx fun index t => l.trialEntry now index t

/-- The part of a run behind its settings, which are reviewed once more: the written lines, and how
it ends. -/
def evaluateFile (path : String) (options : Options) (host : Host) (styled : Bool) (l : Log.Logger)
    (s : Settings) : List String × Except Fault Outcome :=
  match s.review with
  | .error violation => ([], .error violation.toFault)
  | .ok concerns =>
    let opening := concernEntries l host.now concerns ++ [settingsEntry l host.now s]
    match loadTrials host.build.placing host.folder path with
    | .error fault => (written l opening, .error fault)
    | .ok trials =>
      let report := (Evaluator.mk s {} {}).evaluate (.ofTrials trials) host.now
      let entries := opening ++ trialsEntry l host.now trials.length path ::
        (trialEntries l host.now trials ++ l.reportEntries host.now report)
      (written l entries, .ok ⟨report, report.render options.format styled⟩)

/-- A run over the trials in a file. -/
def ofFile (path : String) (options : Options) (host : Host) : Course :=
  let coloured := options.usesColour host.env
  let l := Log.Logger.ofRun options.verbose options.debug coloured host.session
  let opening := written l [openingEntry l host.now host.build]
  match Settings.load options host.folder host.env with
  | (env, .error (.panic panic)) => { env := env, log := opening, ending := .error (.panic panic) }
  | (env, .error (.fault source)) =>
    let fault := source.toFault host.build.placing
    { env := env
      log := opening ++ written l [l.faultEntry host.now fault]
      ending := .error (.fault fault) }
  | (env, .ok s) =>
    -- The variables of a dotfile are set by now, and they have a say in this.
    let styled := coloured && host.styling.enabled env
    let (lines, ending) :=
      evaluateFile path options host styled (l.withContext "alias" (.string s.label)) s
    { env := env, log := opening ++ lines, ending := ending.mapError .fault }

/-- The run that a user asks for. -/
def perform (options : Options) (host : Host) : Course :=
  match options.trials with
  | none => ⟨host.env, [], .error (.fault (.validation "--trials is required"))⟩
  | some path => ofFile path options host

/-- The fault of an example file that cannot be written. -/
def exampleFault (fault : FileFault) : Fault :=
  .config ("Failed to write example .env file: " ++ fault.message)

/-- What a user wants to know instead of a run, and the folder afterwards. -/
def information (options : Options) (folder : Folder) : Except Fault (Option String × Folder) :=
  if options.variableHelp then .ok (some Settings.help, folder)
  else
    match options.exampleTo with
    | none => .ok (none, folder)
    | some path =>
      match folder.write path Settings.exampleFile.toUTF8 with
      | .ok after => .ok (some ("Wrote example environment file to " ++ path), after)
      | .error fault => .error (exampleFault fault)

end Run

end LinkTrials
