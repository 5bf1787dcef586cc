import LinkTrials.Run.Program

/-!
The program itself: finds what a run needs, performs it, and leaves what it comes to.
-/
namespace LinkTrials.Main

/-- Whether a code that came with a fault of the system is the code that is meant, which some
faults carry with its sign turned. -/
def isCode (meant code : UInt32) : Bool :=
  code == meant || code == 0 - meant

/-- A fault of the system as a fault of a file. -/
def fileFault (e : IO.Error) : FileFault :=
  match e with
  | .noFileOrDirectory .. | .noSuchThing .. => .missing
  | .permissionDenied _ code _ => if isCode 13 code then .denied else .other (toString e)
  | .inappropriateType _ code _ =>
    if isCode 20 code then .notFolder
    else if isCode 21 code then .isFolder
    else .other (toString e)
  | .invalidArgument _ code _ => if isCode 36 code then .nameTooLong else .other (toString e)
  | .hardwareFault .. => .device
  | e => .other (toString e)

/-- What a path stands for, if it is there. -/
def nodeAt (path : String) : IO (Option Node) := do
  try
    let content ← IO.FS.readBinFile path
    pure (some (.file content))
  catch e =>
    match fileFault e with
    | .missing => pure none
    | .isFolder => pure (some .folder)
    | fault => pure (some (.barred fault))

/-- The folder with what is really at a path. -/
def look (folder : Folder) (path : String) : IO Folder := do
  match ← nodeAt path with
  | some node => pure (folder.place path node)
  | none => pure folder

/-- The folder that holds a path, by a path of its own. -/
def holder (path : String) : String :=
  let front := path.toList.reverse.dropWhile (· == '/') |>.dropWhile (· != '/')
  if front.isEmpty then "." else String.ofList front.reverse

/-- What the options make a run look at. -/
def findFolder (options : Options) : IO Folder := do
  let paths := options.trials.toList ++ options.params.toList ++ [Settings.dotfilePath] ++
    (options.exampleTo.toList.flatMap fun path => [holder path, path])
  paths.foldlM look .empty

def findEnvironment : IO Environment := do
  try
    let block ← IO.FS.readBinFile "/proc/self/environ"
    pure (.ofBlock [] block.toList)
  catch _ => pure {}

/-- The digits at the front of a text. -/
def leadingNat (s : String) : Nat :=
  Text.digitsValue 0 (s.toList.takeWhile Char.isDigit)

/-- The time at which the machine started, in seconds after the epoch. -/
def startTime : IO Nat := do
  let lines := (← IO.FS.readFile "/proc/stat").splitOn "\n"
  let line := (lines.find? fun line => line.startsWith "btime ").getD ""
  pure (leadingNat (String.ofList (line.toList.drop 6)))

/-- The time since then, in hundredths of a second. -/
def upTime : IO Nat := do
  let text ← IO.FS.readFile "/proc/uptime"
  pure (leadingNat (String.ofList (text.toList.filter (· != '.'))))

def findInstant : IO Instant := do
  try
    let hundredths := 100 * (← startTime) + (← upTime)
    let nanos := Fin.ofNat 1000000000 (hundredths % 100 * 10000000)
    pure ((Instant.afterEpoch? (hundredths / 100) nanos).getD .epoch)
  catch _ => pure .epoch

def findSession : IO String := do
  try
    let id ← IO.FS.readFile "/proc/sys/kernel/random/uuid"
    pure (Text.trim id)
  catch _ => pure "unknown"

def findHost (options : Options) : IO Host := do
  pure
    { folder := ← findFolder options
      env := ← findEnvironment
      now := ← findInstant
      session := ← findSession
      build := ⟨"unknown", none, "unknown", fun _ _ => ""⟩
      styling := .detect (← (← IO.getStdout).isTty) }

/-- Leaves what a program wrote, and says how it ended. -/
def leave (options : Options) (host : Host) (ended : Ended) : IO Ended := do
  try
    for (path, node) in ended.folder.changes host.folder do
      match node with
      | .file content => IO.FS.writeBinFile path content
      | _ => pure ()
    pure ended
  catch e =>
    pure (Program.failed options host (Run.exampleFault (fileFault e)))

def run (arguments : List String) : IO UInt32 := do
  let options := (Options.ofArguments arguments).toOption.getD {}
  let host ← findHost options
  let ended ← leave options host (Program.perform arguments host)
  for line in ended.messages do
    IO.eprintln line
  for text in ended.output do
    IO.println text
  pure (UInt32.ofNat ended.exitCode)

end LinkTrials.Main

def main (arguments : List String) : IO UInt32 := LinkTrials.Main.run arguments
