import LinkTrials.Json.Decode

/-!
Records read from JSON objects or lists.

A schema lists the members of a record in order. An object gives them by name in any order, each at
most once; a list gives them in order. What is missing keeps the value of a blank record where the
member allows that.
-/
namespace LinkTrials.Json

/-- What happens if a member is missing. -/
inductive Presence where
  /-- The record is refused. -/
  | required
  /-- An object may leave it out, a list may not. -/
  | nullable
  /-- It keeps its blank value. -/
  | defaulted
deriving DecidableEq, Repr

/-- A member of a record: its name and how it is read into the record. -/
structure Member (ρ : Type) where
  name : String
  presence : Presence
  read : Decoder (ρ → ρ)

/-- A member that is stored by `set`. -/
def Member.of {ρ α : Type} (name : String) (presence : Presence) (decode : Decoder α)
    (set : α → ρ → ρ) : Member ρ :=
  ⟨name, presence, fun depth r => (decode depth r).map set⟩

/-- How a record is read. -/
structure Schema (ρ : Type) where
  /-- What a message calls the record. -/
  title : String
  /-- What a message calls the record when a list is too short for it. -/
  lengthTitle : String
  blank : ρ
  members : List (Member ρ)
  /-- Members with other names are refused and not just skipped. -/
  strict : Bool := false
  /-- A condition on the record that is looked at before the end of a list. -/
  check : ρ → Except DecodeFault Unit := fun _ => .ok ()

namespace Schema

variable {ρ : Type}

/-- What a message calls a record of `n` members. -/
def elementsTitle (title : String) (n : Nat) : String :=
  s!"{title} with {n} element" ++ if n = 1 then "" else "s"

def member? (s : Schema ρ) (name : String) : Option (Member ρ) :=
  s.members.find? fun m => m.name == name

/-- The member with a name, unless it was there already. A name of no member gives none. -/
def pick (s : Schema ρ) (seen : List String) (name : String) :
    Except DecodeFault (Option (Member ρ)) :=
  match s.member? name with
  | some m => if name ∈ seen then .error (.repeatedMember name) else .ok (some m)
  | none =>
    if s.strict then .error (.unknownMember name (s.members.map (·.name))) else .ok none

/-- The fault of an object after its last complete member. -/
def endFault (s : Schema ρ) (seen : List String) (ending : ObjectEnd) : DecodeFault :=
  match ending with
  | .endAfterName (.ok name) | .noColon (.ok name) =>
    match s.pick seen name with
    | .error fault => fault
    | .ok _ => ending.fault
  | _ => ending.fault

/-- The members of an object from some place on, read into a record, and the names of those that
were there. -/
def readMembers (s : Schema ρ) (depth : Nat) (ending : ObjectEnd) :
    List String → ρ → List (Except SyntaxFault String × Reading) →
      Except DecodeFault (List String × ρ)
  | seen, record, [] => match ending with
    | .closed => .ok (seen, record)
    | ending => .error (s.endFault seen ending)
  | _, _, (.error fault, _) :: _ => .error (.malformed fault)
  | seen, record, (.ok name, value) :: rest => do
    match ← s.pick seen name with
    | some m =>
      let set ← m.read depth value
      readMembers s depth ending (name :: seen) (set record) rest
    | none =>
      skip value
      readMembers s depth ending seen record rest

/-- The first member that must be there and is not. -/
def absent? (s : Schema ρ) (seen : List String) : Option String :=
  (s.members.find? fun m => m.presence == .required && !seen.contains m.name).map (·.name)

/-- The elements of a list from some place on, read into the remaining members. -/
def readItems (s : Schema ρ) (depth : Nat) (ending : ListEnd) :
    Nat → ρ → List (Member ρ) → List Reading → Except DecodeFault ρ
  | _, record, [], items => do
    s.check record
    match items with
    | [] => ending.satisfied
    | _ :: _ => .error (.malformed .trailingCharacters)
    .ok record
  | i, record, m :: members, [] =>
    -- A shorter list may leave out members at its end, but only those with a default.
    if ending = .closed then
      if m.presence = .defaulted then readItems s depth ending (i + 1) record members []
      else .error (.tooShort i s.lengthTitle)
    else .error (.malformed ending.wanted)
  | i, record, m :: members, item :: items => do
    let set ← m.read depth item
    readItems s depth ending (i + 1) (set record) members items

/-- A record from an object or a list. -/
def decode (s : Schema ρ) : Decoder ρ
  | depth, .object members ending => do
    let depth ← enter depth
    let (seen, record) ← s.readMembers depth ending [] s.blank members
    match s.absent? seen with
    | some name => .error (.missingMember name)
    | none =>
      s.check record
      .ok record
  | depth, .list items ending => do
    let depth ← enter depth
    s.readItems depth ending 0 s.blank s.members items
  | _, r => .error (mismatch s.title r)

end Schema

end LinkTrials.Json
