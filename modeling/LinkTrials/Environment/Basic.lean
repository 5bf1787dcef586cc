import LinkTrials.Environment.Panic

/-!
Environment variables. A value that is no text is there but cannot be read.

`text?_set` and `text?_set_of_ne` say what setting a variable does to reading.
-/
namespace LinkTrials

namespace Environment

/-- The value of a variable. -/
inductive Value where
  | text (s : String)
  /-- Bytes that are no text. -/
  | raw (bytes : ByteArray)

def Value.ofBytes (bytes : ByteArray) : Value :=
  match String.fromUTF8? bytes with
  | some s => .text s
  | none => .raw bytes

def Value.text? : Value → Option String
  | .text s => some s
  | .raw _ => none

/-- The entries with one replaced or added. -/
def put (name : String) (value : Value) : List (String × Value) → List (String × Value)
  | [] => [(name, value)]
  | e :: rest => if e.1 = name then (name, value) :: rest else e :: put name value rest

def find? (name : String) : List (String × Value) → Option Value
  | [] => none
  | e :: rest => if e.1 = name then some e.2 else find? name rest

theorem find?_put (name : String) (value : Value) (entries : List (String × Value)) :
    find? name (put name value entries) = some value := by
  induction entries with
  | nil => simp [put, find?]
  | cons e rest ih => by_cases h : e.1 = name <;> simp [put, find?, h, ih]

theorem find?_put_of_ne {name other : String} (value : Value) (entries : List (String × Value))
    (h : other ≠ name) : find? other (put name value entries) = find? other entries := by
  induction entries with
  | nil => simp [put, find?, Ne.symm h]
  | cons e rest ih =>
    unfold put
    split
    · rename_i he
      simp [find?, he, Ne.symm h]
    · simp [find?, ih]

end Environment

/-- The variables of a process. -/
structure Environment where
  entries : List (String × Environment.Value) := []

namespace Environment

/-- The name and the value of an entry `NAME=value`, if the name is a text. -/
def readEntry (bytes : List UInt8) : Option (String × Value) :=
  let value := (bytes.dropWhile (· != 61)).drop 1
  (String.fromUTF8? ⟨(bytes.takeWhile (· != 61)).toArray⟩).map fun name =>
    (name, .ofBytes ⟨value.toArray⟩)

/-- Entries that end in a zero byte each; `entry` is what is read of the first, backwards. -/
def ofBlock : List UInt8 → List UInt8 → Environment
  | _, [] => {}
  | entry, b :: rest =>
    if b = 0 then ⟨(readEntry entry.reverse).toList ++ (ofBlock [] rest).entries⟩
    else ofBlock (b :: entry) rest

def text? (env : Environment) (name : String) : Option String :=
  (find? name env.entries).bind Value.text?

/-- What is behind the front of a text, if it begins with that. -/
def behind? : List Char → List Char → Option (List Char)
  | [], text => some text
  | _ :: _, [] => none
  | c :: front, d :: text => if c = d then behind? front text else none

/-- The text behind a name that may hold `=`. The entry of a variable is its name, `=` and its text,
and a name is answered by the entry that begins with it and `=`; so what follows the first `=` of a
name is the front of a text. -/
def answer? (env : Environment) (name : String) : Option String :=
  match name.toList.dropWhile (· != '=') with
  | [] => env.text? name
  | _ :: front => do
    let text ← env.text? (String.ofList (name.toList.takeWhile (· != '=')))
    let rest ← behind? (front ++ ['=']) text.toList
    pure (String.ofList rest)

def set (env : Environment) (name text : String) : Environment :=
  ⟨put name (.text text) env.entries⟩

/-- The variables with one set that has no text yet. Where a variable has one, nothing is set, and
what the text holds does not matter. -/
def setIfUnread (env : Environment) (name text : String) : Except Panic Environment :=
  if (env.text? name).isSome then .ok env
  else if text.toList.contains '\x00' then .error ⟨name, text⟩
  else .ok (env.set name text)

@[simp] theorem text?_set (env : Environment) (name text : String) :
    (env.set name text).text? name = some text := by
  simp [set, text?, find?_put, Value.text?]

theorem text?_set_of_ne {name other : String} (env : Environment) (text : String)
    (h : other ≠ name) : (env.set name text).text? other = env.text? other := by
  simp [set, text?, find?_put_of_ne _ _ h]

end Environment

end LinkTrials
