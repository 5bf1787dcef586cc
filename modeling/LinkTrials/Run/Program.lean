import LinkTrials.CommandLine.Guide
import LinkTrials.Run.Basic

/-!
The program as its user sees it: a command line, and then an exit code, what is printed and what is
left in the folder.
-/
namespace LinkTrials

/-- What a program leaves behind when it ends. -/
structure Ended where
  exitCode : Nat
  /-- What is printed for whoever reads the result. -/
  output : List String := []
  /-- What is printed for whoever watches. -/
  messages : List String := []
  folder : Folder

namespace Program

/-- A fault as it is told to the user, with advice below it. -/
def faultLines (coloured : Bool) (fault : Fault) : List String :=
  fault.consoleText coloured :: "" :: fault.suggestions

/-- What is told about a panic. -/
def panicLines (build : Build) (panic : Panic) : List String :=
  ["Application panic: panicked at " ++ build.panicPlace ++ ":\n" ++ panic.message,
   "This is likely a bug. Please report it with the trial file that triggered it."]

/-- The exit code of a program that ends at a panic. -/
def panicCode : Nat := 99

/-- A program up to its result: an exit code, or why it stops. -/
structure Conduct where
  env : Environment
  log : List String := []
  output : List String := []
  folder : Folder
  result : Except (Halt Fault) Nat

/-- What a program does for a user whose options are read. -/
def conduct (options : Options) (host : Host) : Conduct :=
  match options.validate with
  | .error violation =>
    { env := host.env, folder := host.folder, result := .error (.fault violation.toFault) }
  | .ok _ =>
    match Run.information options host.folder with
    | .error fault => { env := host.env, folder := host.folder, result := .error (.fault fault) }
    | .ok (some text, after) =>
      { env := host.env, output := [text], folder := after, result := .ok 0 }
    | .ok (none, _) =>
      let course := Run.perform options host
      match course.ending with
      | .error halt =>
        { env := course.env, log := course.log, folder := host.folder, result := .error halt }
      | .ok outcome =>
        { env := course.env
          log := course.log
          output := [outcome.rendered]
          folder := host.folder
          result := .ok outcome.report.exitCode }

/-- The lines about a fault where a program ends at it. -/
def closingLines (options : Options) (host : Host) (env : Environment) (fault : Fault) :
    List String :=
  faultLines (options.usesColour host.env && host.styling.enabled env) fault

/-- The end of a program that could not write what it wanted to leave. -/
def failed (options : Options) (host : Host) (fault : Fault) : Ended where
  exitCode := fault.exitCode
  messages := closingLines options host host.env fault
  folder := host.folder

/-- The program after its command line is read. -/
def ofOptions (options : Options) (host : Host) : Ended :=
  let c := conduct options host
  match c.result with
  | .ok code => { exitCode := code, output := c.output, messages := c.log, folder := c.folder }
  | .error (.fault fault) =>
    { exitCode := fault.exitCode
      output := c.output
      messages := c.log ++ closingLines options host c.env fault
      folder := c.folder }
  | .error (.panic panic) =>
    { exitCode := panicCode
      output := c.output
      messages := c.log ++ panicLines host.build panic
      folder := c.folder }

/-- The program at a command line without the name of the program. -/
def perform (arguments : List String) (host : Host) : Ended :=
  match Options.ofArguments arguments with
  | .ok options => ofOptions options host
  | .error stop =>
    { exitCode := stop.exitCode
      output := match stop with
        | .help => [CommandLine.helpText]
        | .version => [CommandLine.versionText]
        | .misuse _ => []
      messages := match stop with
        | .misuse fault => ["error: " ++ fault.message, "", CommandLine.usage]
        | _ => []
      folder := host.folder }

end Program

end LinkTrials
