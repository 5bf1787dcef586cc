import LinkTrials.Json.Draft
import LinkTrials.Json.Schema
import LinkTrials.Log.Level
import LinkTrials.Report.Record

/-!
Log entries: a message with a time, a level and named values.
-/
namespace LinkTrials.Log

/-- The place in a program that wrote an entry. -/
structure Location where
  file : String
  line : Nat
  module : Option String
deriving DecidableEq, Repr

/-- A log entry. -/
structure Entry where
  time : Instant
  level : Level
  message : String
  /-- The component that wrote the entry. -/
  logger : String
  /-- What the entry belongs together with. -/
  correlation : Option String := none
  fields : Json.Fields := []
  location : Option Location := none

namespace Location

def schema : Json.Schema Location where
  title := "struct LogLocation"
  lengthTitle := Json.Schema.elementsTitle "struct LogLocation" 3
  blank := ⟨"", 0, none⟩
  members :=
    [.of "file" .required .string fun x l => { l with file := x },
     .of "line" .required (.natural (UInt32.size - 1) "u32") fun x l => { l with line := x },
     .of "module" .nullable (.optional .string) fun x l => { l with module := x }]

def decoder : Json.Decoder Location := schema.decode

def toJson (l : Location) : Json :=
  .object
    [("file", .string l.file), ("line", .ofNat l.line),
     ("module", .ofOption .string l.module)]

/-- The location as it is handed to the writer of JSON texts. -/
def draft (l : Location) : Json.Draft :=
  .object
    [(.string "file", .string l.file), (.string "line", .number (.natural l.line)),
     (.string "module", .ofOption .string l.module)]

theorem draft_eq (l : Location) : l.draft = .ofJson l.toJson := by
  obtain ⟨file, line, module?⟩ := l
  cases module? <;> rfl

end Location

namespace Entry

def withField (name : String) (value : Json) (e : Entry) : Entry :=
  { e with fields := e.fields.insert name value }

def withCorrelation (id : String) (e : Entry) : Entry := { e with correlation := some id }

def withLocation (location : Location) (e : Entry) : Entry := { e with location := some location }

/-- The entry with what the end of a program says about a fault. -/
def withFault (fault : Fault) (e : Entry) : Entry :=
  (e.withField "error_category" (.string fault.category)).withField "error_exit_code"
    (.ofNat fault.exitCode)

def schema : Json.Schema Entry where
  title := "struct LogEntry"
  lengthTitle := Json.Schema.elementsTitle "struct LogEntry" 7
  blank := { time := .epoch, level := .trace, message := "", logger := "" }
  members :=
    [.of "timestamp" .required Instant.decoder fun x e => { e with time := x },
     .of "level" .required Level.decoder fun x e => { e with level := x },
     .of "message" .required .string fun x e => { e with message := x },
     .of "logger" .required .string fun x e => { e with logger := x },
     .of "correlation_id" .nullable (.optional .string) fun x e => { e with correlation := x },
     .of "fields" .required .fields fun x e => { e with fields := x },
     .of "location" .nullable (.optional Location.decoder) fun x e => { e with location := x }]

def decoder : Json.Decoder Entry := schema.decode

def toJson (e : Entry) : Json :=
  .object
    [("timestamp", e.time.toJson),
     ("level", e.level.toJson),
     ("message", .string e.message),
     ("logger", .string e.logger),
     ("correlation_id", .ofOption .string e.correlation),
     ("fields", .object e.fields),
     ("location", .ofOption Location.toJson e.location)]

/-- The entry as it is handed to the writer of JSON texts. -/
def draft (e : Entry) : Json.Draft :=
  .object
    [(.string "timestamp", .string e.time.toText),
     (.string "level", .string e.level.name),
     (.string "message", .string e.message),
     (.string "logger", .string e.logger),
     (.string "correlation_id", .ofOption .string e.correlation),
     (.string "fields", .object (Json.Draft.ofMembers e.fields)),
     (.string "location", .ofOption Location.draft e.location)]

theorem draft_eq (e : Entry) : e.draft = .ofJson e.toJson := by
  have correlation : Json.Draft.ofJson (.ofOption .string e.correlation) =
      .ofOption .string e.correlation :=
    Json.Draft.ofJson_ofOption (fun _ => rfl) e.correlation
  have location := Json.Draft.ofJson_ofOption Location.draft_eq e.location
  rw [toJson, Json.Draft.ofJson]
  simp only [Json.Draft.ofMembers, correlation, location]
  rfl

theorem toJson_draft (e : Entry) : e.draft.toJson = .ok e.toJson := by
  rw [draft_eq, Json.Draft.toJson_ofJson]

end Entry

end LinkTrials.Log
