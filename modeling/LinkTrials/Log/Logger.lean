import LinkTrials.Log.Entry

/-!
Loggers decide which entries are written and in which form, and add the values that all entries of
a run have in common.
-/
namespace LinkTrials.Log

/-- The form of written entries. -/
inductive Format where
  /-- A line for people. -/
  | console
  /-- A JSON object on one line. -/
  | json
deriving DecidableEq, Repr

/-- A logger. -/
structure Logger where
  /-- The component for which it writes. -/
  name : String
  /-- The least level that is written. -/
  threshold : Level := .info
  coloured : Bool := true
  showsLocation : Bool := false
  format : Format := .console
  /-- The run to which the entries belong. -/
  session : Option String := none
  /-- Fields of every entry. -/
  context : Json.Fields := []

namespace Logger

/-- The logger of a program's flags: a wish for debugging gives JSON with locations. -/
def ofFlags (name : String) (verbose debug coloured : Bool) : Logger where
  name := name
  threshold := .ofFlags verbose debug
  coloured := coloured
  showsLocation := debug
  format := if debug then .json else .console

def withContext (name : String) (value : Json) (l : Logger) : Logger :=
  { l with context := l.context.insert name value }

def wouldLog (l : Logger) (level : Level) : Bool := level.atLeast l.threshold

def entry (l : Logger) (now : Instant) (level : Level) (message : String) : Entry where
  time := now
  level := level
  message := message
  logger := l.name

/-- The fields of an entry as they are written: those of the context come before the session, and
that before the fields of the entry. -/
def fieldsOf (l : Logger) (e : Entry) : Json.Fields :=
  let fields := match l.session with
    | some id => e.fields.insert "session_id" (.string id)
    | none => e.fields
  Json.Fields.insertAll l.context fields

/-- A level with blanks in front up to a width of five. -/
def levelText (coloured : Bool) (level : Level) : String :=
  let padded := String.ofList (List.replicate (5 - level.tag.length) ' ') ++ level.tag
  if coloured then Terminal.switchOn false level.colour ++ padded ++ Terminal.switchOff
  else padded

/-- A text put into an ascending list of texts. -/
def insertText (s : String) : List String → List String
  | [] => [s]
  | t :: rest => if s ≤ t then s :: t :: rest else t :: insertText s rest

/-- Fields as assignments in the order of their texts. -/
def fieldTexts (fields : Json.Fields) : List String :=
  (fields.map fun m => m.1 ++ "=" ++ m.2.compact).foldr insertText []

/-- Fields in braces, only if there are some. -/
def fieldsText (fields : Json.Fields) : String :=
  if fields.isEmpty then "" else " \x7b" ++ ", ".intercalate (fieldTexts fields) ++ "\x7d"

/-- The beginning of what an entry belongs to. -/
def correlationText : Option String → String
  | some id => " [" ++ String.ofList (id.toList.take 8) ++ "]"
  | none => ""

def locationText (shown : Bool) : Option Location → String
  | some location => if shown then s!" @ {location.file}:{location.line}" else ""
  | none => ""

/-- An entry as a line for people. -/
def consoleText (l : Logger) (e : Entry) : String :=
  e.time.consoleText ++ " " ++ levelText l.coloured e.level ++ " [" ++ e.logger ++ "] " ++
    e.message ++ correlationText e.correlation ++ fieldsText e.fields ++
    locationText l.showsLocation e.location

/-- What is written in the place of an entry that has no JSON text. -/
def unwritten (e : Entry) : Json :=
  .object [("error", .string "Failed to serialize log entry"), ("message", .string e.message)]

def jsonText (e : Entry) : String :=
  match e.draft.toJson with
  | .ok j => j.compact
  | .error _ => (unwritten e).compact

theorem jsonText_eq (e : Entry) : jsonText e = e.toJson.compact := by
  rw [jsonText, e.toJson_draft]

def text (l : Logger) (e : Entry) : String :=
  match l.format with
  | .console => l.consoleText e
  | .json => jsonText e

/-- What is written of an entry, if it is written at all. -/
def render? (l : Logger) (e : Entry) : Option String :=
  if l.wouldLog e.level then some (l.text { e with fields := l.fieldsOf e }) else none

end Logger

end LinkTrials.Log
