import LinkTrials.Json.Value

/-!
Values on their way into a JSON text.

In a draft the members of an object are named by values, of which a JSON text can take only texts and what
has a notation as one. `Draft.toJson` fails at any other name; `Draft.ofJson` drafts a JSON value, which
has no other names, so that writing it does not fail.
-/
namespace LinkTrials.Json

/-- A value to be written. -/
inductive Draft where
  | null
  | bool (b : Bool)
  | number (n : Number)
  | string (s : String)
  | list (items : List Draft)
  | object (members : List (Draft × Draft))

/-- Why a draft cannot be written. -/
inductive WriteFault where
  /-- The name of a member has no notation as a text. -/
  | noName
deriving DecidableEq, Repr

namespace Draft

/-- The name of a member: a text, or a number or truth value as it is written. -/
def name : Draft → Except WriteFault String
  | .string s => .ok s
  | .number n => .ok (String.ofList n.text)
  | .bool b => .ok (if b then "true" else "false")
  | .null | .list _ | .object _ => .error .noName

mutual

def toJson : Draft → Except WriteFault Json
  | .null => .ok .null
  | .bool b => .ok (.bool b)
  | .number n => .ok (.number n)
  | .string s => .ok (.string s)
  | .list items => (itemsToJson items).map Json.list
  | .object members => (membersToJson members).map Json.object

def itemsToJson : List Draft → Except WriteFault (List Json)
  | [] => .ok []
  | d :: rest => do
    let j ← toJson d
    let others ← itemsToJson rest
    .ok (j :: others)

def membersToJson : List (Draft × Draft) → Except WriteFault (List (String × Json))
  | [] => .ok []
  | (k, d) :: rest => do
    let name ← k.name
    let j ← toJson d
    let others ← membersToJson rest
    .ok ((name, j) :: others)

end

mutual

def ofJson : Json → Draft
  | .null => .null
  | .bool b => .bool b
  | .number n => .number n
  | .string s => .string s
  | .list items => .list (ofItems items)
  | .object members => .object (ofMembers members)

def ofItems : List Json → List Draft
  | [] => []
  | j :: rest => ofJson j :: ofItems rest

def ofMembers : List (String × Json) → List (Draft × Draft)
  | [] => []
  | (k, j) :: rest => (.string k, ofJson j) :: ofMembers rest

end

/-- A value that may be missing. -/
def ofOption {α : Type} (draft : α → Draft) : Option α → Draft
  | none => .null
  | some a => draft a

mutual

theorem toJson_ofJson : (j : Json) → toJson (ofJson j) = .ok j
  | .null | .bool _ | .number _ | .string _ => rfl
  | .list items => by
    rw [ofJson, toJson, itemsToJson_ofItems items]
    rfl
  | .object members => by
    rw [ofJson, toJson, membersToJson_ofMembers members]
    rfl

theorem itemsToJson_ofItems : (items : List Json) → itemsToJson (ofItems items) = .ok items
  | [] => rfl
  | j :: rest => by
    rw [ofItems, itemsToJson, toJson_ofJson j, itemsToJson_ofItems rest]
    rfl

theorem membersToJson_ofMembers : (members : List (String × Json)) →
    membersToJson (ofMembers members) = .ok members
  | [] => rfl
  | (k, j) :: rest => by
    rw [ofMembers, membersToJson, toJson_ofJson j, membersToJson_ofMembers rest]
    rfl

end

/-- A draft that may be missing is that of a value that may be missing. -/
theorem ofJson_ofOption {α : Type} {draft : α → Draft} {write : α → Json}
    (h : ∀ a, draft a = ofJson (write a)) (value : Option α) :
    ofJson (.ofOption write value) = ofOption draft value := by
  cases value with
  | none => rfl
  | some a => exact (h a).symm

end Draft

end LinkTrials.Json
