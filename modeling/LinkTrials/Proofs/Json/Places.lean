import LinkTrials.Proofs.Json.Members

/-!
Places in a JSON value.

A place is a path of member names and list indices from the value down, and at each place there is at most
one part of it. Here it is said where in a value `null` stands: in a list at the places of the elements, in
an object at those of the members.
-/
namespace LinkTrials.Json

/-- A step down into a value. -/
inductive Key where
  | member (name : String)
  | item (index : Nat)
deriving DecidableEq, Repr

namespace Reading

/-- The part of a reading at a place. -/
def at? : List Key → Reading → Option Reading
  | [], r => some r
  | .member name :: path, .object members _ => (named? name members).bind (at? path)
  | .item i :: path, .list items _ => items[i]?.bind (at? path)
  | _ :: _, _ => none

/-- There is `null` at the place. -/
def IsNullAt (r : Reading) (path : List Key) : Prop := r.at? path = some .null

variable {r value : Reading} {path : List Key} {name : String}
  {members : List (Except SyntaxFault String × Reading)} {ending : ObjectEnd}

theorem isNullAt_null : IsNullAt .null path ↔ path = [] := by
  cases path with
  | nil => exact iff_of_true rfl rfl
  | cons key path =>
      refine iff_of_false ?_ (List.cons_ne_nil key path)
      cases key <;> exact fun h => nomatch h

/-- A value that holds nothing and is not `null` itself. -/
theorem not_isNullAt_of_empty (other : r ≠ .null) (h : r.parts = []) : ¬ IsNullAt r path := by
  intro null
  cases path with
  | nil => exact other (Option.some.inj null)
  | cons key path =>
      cases key with
      | member name =>
          cases r with
          | object members ending =>
              rw [List.map_eq_nil_iff.1 h] at null
              cases null
          | _ => cases null
      | item i =>
          cases r with
          | list items ending =>
              obtain rfl : items = [] := h
              cases null
          | _ => cases null

theorem isNullAt_list {items : List Reading} {ending : ListEnd} :
    IsNullAt (.list items ending) path ↔
      ∃ i rest item, path = .item i :: rest ∧ items[i]? = some item ∧ IsNullAt item rest := by
  constructor
  · intro null
    match path, null with
    | .item i :: rest, null =>
      obtain ⟨item, found, inner⟩ := Option.bind_eq_some_iff.1 null
      exact ⟨i, rest, item, rfl, found, inner⟩
  · rintro ⟨i, rest, item, rfl, found, inner⟩
    exact Option.bind_eq_some_iff.2 ⟨item, found, inner⟩

theorem isNullAt_object :
    IsNullAt (.object members ending) path ↔
      ∃ name rest value, path = .member name :: rest ∧ named? name members = some value ∧
        IsNullAt value rest := by
  constructor
  · intro null
    match path, null with
    | .member name :: rest, null =>
      obtain ⟨value, found, inner⟩ := Option.bind_eq_some_iff.1 null
      exact ⟨name, rest, value, rfl, found, inner⟩
  · rintro ⟨name, rest, value, rfl, found, inner⟩
    exact Option.bind_eq_some_iff.2 ⟨value, found, inner⟩

end Reading

theorem mem_of_named? {name : String} {members : List (Except SyntaxFault String × Reading)}
    {value : Reading} (h : named? name members = some value) : (.ok name, value) ∈ members := by
  induction members with
  | nil => cases h
  | cons member rest ih =>
      obtain ⟨name?, other⟩ := member
      cases name? with
      | error fault => exact List.mem_cons_of_mem _ (ih h)
      | ok other =>
          rw [named?] at h
          split at h
          · next same =>
            cases h
            rw [same]
            exact List.mem_cons_self
          · exact List.mem_cons_of_mem _ (ih h)

namespace Reading

variable {r value : Reading} {path : List Key} {name : String}
  {members : List (Except SyntaxFault String × Reading)} {ending : ObjectEnd}

/-- An object of which only one member holds `null` somewhere. -/
theorem isNullAt_member (found : named? name members = some value)
    (others : ∀ m ∈ members, m.1 ≠ .ok name → ∀ path, ¬ IsNullAt m.2 path) :
    IsNullAt (.object members ending) path ↔ ∃ rest, path = .member name :: rest ∧ IsNullAt value rest := by
  rw [isNullAt_object]
  constructor
  · rintro ⟨other, rest, value', rfl, found', null⟩
    by_cases same : other = name
    · subst same
      cases found.symm.trans found'
      exact ⟨rest, rfl, null⟩
    · exact absurd null (others _ (mem_of_named? found') (fun h => same (Except.ok.inj h)) rest)
  · rintro ⟨rest, rfl, null⟩
    exact ⟨name, rest, value, rfl, found, null⟩

/-- A value all parts of which are without `null`. -/
theorem not_isNullAt_of_parts (other : r ≠ .null) (h : ∀ part ∈ r.parts, ∀ path, ¬ IsNullAt part path) :
    ¬ IsNullAt r path := by
  cases r with
  | list items ending =>
      rw [isNullAt_list]
      rintro ⟨i, rest, item, rfl, found, null⟩
      exact h item (List.mem_of_getElem? found) rest null
  | object members ending =>
      rw [isNullAt_object]
      rintro ⟨name, rest, value, rfl, found, null⟩
      exact h value (List.mem_map_of_mem (mem_of_named? found)) rest null
  | _ => exact not_isNullAt_of_empty other rfl

end Reading

end LinkTrials.Json
