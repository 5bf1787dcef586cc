import LinkTrials.Json.Value

/-!
Members of a JSON object by name: a list sorted by name with each name once, so that equal contents
are equal values. `find?_insert` and `find?_insert_of_ne` say what an insertion does to a look-up.
-/
namespace LinkTrials.Json

/-- Members sorted by name. -/
abbrev Fields := List (String × Json)

namespace Fields

def find? (name : String) : Fields → Option Json
  | [] => none
  | (k, v) :: rest => if k = name then some v else find? name rest

/-- The members with one value set; a value that the name had before is replaced. -/
def insert (name : String) (value : Json) : Fields → Fields
  | [] => [(name, value)]
  | (k, v) :: rest =>
    if name = k then (name, value) :: rest
    else if name < k then (name, value) :: (k, v) :: rest
    else (k, v) :: insert name value rest

/-- The members of both, those of `added` where a name is in both. -/
def insertAll (added : Fields) (fields : Fields) : Fields :=
  added.foldl (fun fields m => fields.insert m.1 m.2) fields

/-- A list of members, of which the last with a name counts. -/
def ofList (members : List (String × Json)) : Fields := insertAll members []

@[simp] theorem find?_insert (name : String) (value : Json) (fields : Fields) :
    (fields.insert name value).find? name = some value := by
  induction fields with
  | nil => simp [insert, find?]
  | cons m rest ih =>
    obtain ⟨k, v⟩ := m
    unfold insert
    split
    · simp [find?]
    · rename_i h
      split
      · simp [find?]
      · simp [find?, Ne.symm h, ih]

theorem find?_insert_of_ne {name other : String} (value : Json) (fields : Fields)
    (h : other ≠ name) : (fields.insert name value).find? other = fields.find? other := by
  induction fields with
  | nil => simp [insert, find?, Ne.symm h]
  | cons m rest ih =>
    obtain ⟨k, v⟩ := m
    unfold insert
    split
    · rename_i hk
      subst hk
      simp [find?, Ne.symm h]
    · split
      · simp [find?, Ne.symm h]
      · simp [find?, ih]

end Fields

end LinkTrials.Json
