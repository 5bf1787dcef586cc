import LinkTrials.CommandLine.Options

/-!
Command lines read as options.

Arguments are looked at from the left. A value that follows its option as an argument of its own is
checked when the next known option comes or the arguments end, a value behind `=` at once. Asking
for help or for the version ends the reading, and so does an argument that is not known.
-/
namespace LinkTrials

/-- What is wrong with a command line. -/
inductive Misuse where
  | missingRequired
  /-- No value, or not one of those that there are. -/
  | invalidValue (option : ValueOption)
  | unknownArgument (argument : String)
  /-- Something is there twice, or two things exclude each other. -/
  | conflict (option : String)
  /-- A value where none is taken. -/
  | needlessValue (option : String)
  /-- A value that cannot be read as what is wanted. -/
  | refusedValue (option : ValueOption) (message : String)
deriving DecidableEq, Repr

/-- Why a command line gives no options. -/
inductive Stop where
  | help
  | version
  | misuse (fault : Misuse)
deriving DecidableEq, Repr

def Stop.exitCode : Stop → Nat
  | .help | .version => 0
  | .misuse _ => 2

namespace CommandLine

/-- What an argument with two hyphens may name. -/
inductive Word where
  | option (o : ValueOption)
  | flag (f : Flag)
  | help
  | version
deriving DecidableEq, Repr

def Word.name : Word → String
  | .option o => o.name
  | .flag f => f.name
  | .help => "help"
  | .version => "version"

def words : List Word :=
  ValueOption.all.map .option ++ Flag.all.map .flag ++ [.help, .version]

/-- How far the reading of a command line has come. -/
structure Progress where
  options : Options := {}
  /-- What is stored in the options. -/
  given : List Word := []
  /-- An option whose value is not checked yet, or not there yet. -/
  pending : Option (ValueOption × Option String) := none
  /-- No more options are taken. -/
  closed : Bool := false
deriving DecidableEq

namespace Progress

def accept (p : Progress) (o : ValueOption) (text : String) : Except Stop Progress :=
  if .option o ∈ p.given then .error (.misuse (.conflict o.name))
  else
    match o.store text p.options with
    | .ok options => .ok { p with options := options, given := .option o :: p.given }
    | .error (.unlisted _) => .error (.misuse (.invalidValue o))
    | .error (.refused message) => .error (.misuse (.refusedValue o message))

def settle (p : Progress) : Except Stop Progress :=
  match p.pending with
  | none => .ok p
  | some (o, none) => .error (.misuse (.invalidValue o))
  | some (o, some text) => { p with pending := none }.accept o text

def raise (p : Progress) (f : Flag) : Except Stop Progress :=
  if .flag f ∈ p.given then .error (.misuse (.conflict f.name))
  else .ok { p with options := f.store p.options, given := .flag f :: p.given }

def word (p : Progress) (w : Word) (value : Option String) : Except Stop Progress :=
  match w, value with
  | .option o, some text => do
    let p ← p.settle
    p.accept o text
  | .option o, none => do
    let p ← p.settle
    -- The value may be the next argument, or not come at all.
    .ok { p with pending := some (o, none) }
  | .flag f, none => do
    let p ← p.settle
    p.raise f
  | .help, none => do
    let _ ← p.settle
    .error .help
  | .version, none => do
    let _ ← p.settle
    .error .version
  | w, some _ => .error (.misuse (.needlessValue w.name))

def value (p : Progress) (argument : String) : Except Stop Progress :=
  match p.pending with
  | some (o, none) => .ok { p with pending := some (o, some argument) }
  | _ => .error (.misuse (.unknownArgument argument))

/-- A name, and a value behind the first `=`. -/
def splitName (cs : List Char) : String × Option String :=
  let name := String.ofList (cs.takeWhile (· != '='))
  match cs.dropWhile (· != '=') with
  | [] => (name, none)
  | _ :: value => (name, some (String.ofList value))

def argument (p : Progress) (argument : String) : Except Stop Progress :=
  if p.closed then .error (.misuse (.unknownArgument argument))
  else
    match argument.toList with
    | ['-', '-'] => .ok { p with closed := true }
    | '-' :: '-' :: rest =>
      let (name, value) := splitName rest
      match words.find? fun w => w.name == name with
      | some w => p.word w value
      | none => .error (.misuse (.unknownArgument argument))
    | '-' :: letter :: _ =>
      if letter = 'h' then p.word .help none
      else if letter = 'V' then p.word .version none
      else .error (.misuse (.unknownArgument argument))
    | _ => p.value argument

end Progress

def readArguments : Progress → List String → Except Stop Progress
  | p, [] => p.settle
  | p, argument :: rest =>
    match p.argument argument with
    | .ok next => readArguments next rest
    | .error stop => .error stop

/-- Options that are complete and do not exclude each other. -/
def complete (o : Options) : Except Stop Options :=
  if o.variableHelp && o.exampleTo.isSome then
    .error (.misuse (.conflict ValueOption.exampleTo.name))
  else if o.trials.isNone && !o.variableHelp && o.exampleTo.isNone then
    .error (.misuse .missingRequired)
  else .ok o

end CommandLine

namespace Options

/-- The options of a command line without the name of the program. -/
def ofArguments (arguments : List String) : Except Stop Options :=
  match CommandLine.readArguments {} arguments with
  | .ok p => CommandLine.complete p.options
  | .error stop => .error stop

end Options

end LinkTrials
