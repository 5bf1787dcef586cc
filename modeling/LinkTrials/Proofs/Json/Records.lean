import LinkTrials.Proofs.Json.Rendering
import LinkTrials.Proofs.Json.Respelling

/-!
Values that are decoded from their own texts.

For each kind of value there is one law: if the parts of a value are decoded from what was written for them,
so is the value. A record is read from an object that has its members in order, by setting one after the
other.
-/
namespace LinkTrials.Json

variable {α ρ : Type} {depth : Nat}

theorem itemReadings_map (write : α → Json) (as : List α) :
    itemReadings (as.map write) = as.map fun a => toReading (write a) := by
  induction as with
  | nil => rfl
  | cons a rest ih => rw [List.map_cons, itemReadings, ih, List.map_cons]

theorem areKept_map {write : α → Json} {as : List α} (h : ∀ a ∈ as, IsKept (write a)) :
    AreKept (as.map write) := by
  induction as with
  | nil => trivial
  | cons a rest ih =>
      obtain ⟨first, later⟩ := List.forall_mem_cons.1 h
      exact ⟨first, ih later⟩

theorem isKept_ofReal (x : Binary64) : IsKept (.ofReal x) := by
  rw [ofReal]
  split
  · next finite => exact finite
  · trivial

theorem toReading_ofReal {x : Binary64} (h : x.isFinite = true) :
    toReading (.ofReal x) = .number (.real (reread x)) := by
  rw [ofReal, if_pos h]
  rfl

namespace Decoder

theorem real_toReading {x : Binary64} (h : x.isFinite = true) :
    real depth (toReading (.ofReal x)) = .ok (reread x) := by
  rw [toReading_ofReal h]
  rfl

theorem optional_toReading {figure : Option Binary64} (h : ∀ x ∈ figure, x.isFinite = true) :
    optional real depth (toReading (.ofOption .ofReal figure)) = .ok (figure.map reread) := by
  cases figure with
  | none => rfl
  | some x =>
      rw [ofOption, toReading_ofReal (h x rfl)]
      rfl

theorem count_toReading {n : Nat} (h : n ≤ maxNatural) :
    count depth (toReading (.ofNat n)) = .ok n := if_pos h

theorem list_toReading {β : Type} {write : α → Json} {decode : Decoder β} {f : α → β} {as : List α}
    (h : ∀ a ∈ as, decode depth (toReading (write a)) = .ok (f a)) :
    list decode (depth + 1) (toReading (.list (as.map write))) = .ok (as.map f) := by
  rw [toReading, itemReadings_map]
  refine list_eq_ok_iff.2 ⟨_, depth, rfl, rfl, ?_⟩
  rw [List.forall₂_map_left_iff, List.forall₂_map_right_iff]
  exact List.forall₂_same.2 h

theorem find?_variant {variants : List (String × α)} (distinct : (variants.map Prod.fst).Nodup)
    {name : String} {a : α} (mem : (name, a) ∈ variants) :
    variants.find? (fun v => v.1 == name) = some (name, a) := by
  induction variants with
  | nil => cases mem
  | cons v rest ih =>
      obtain ⟨first, later⟩ := List.nodup_cons.1 distinct
      rcases List.mem_cons.1 mem with rfl | mem
      · exact List.find?_cons_of_pos (beq_self_eq_true _)
      · have other : (v.1 == name) = false := by
          rw [beq_eq_false_iff_ne]
          intro same
          apply first
          rw [same]
          exact List.mem_map_of_mem mem
        rw [List.find?_cons, other]
        exact ih later mem

theorem variant_toReading {variants : List (String × α)} (distinct : (variants.map Prod.fst).Nodup)
    {name : String} {a : α} (mem : (name, a) ∈ variants) :
    variant variants depth (toReading (.string name)) = .ok a := by
  change namedVariant variants name = .ok a
  rw [namedVariant, find?_variant distinct mem]

end Decoder

/-! ### Records -/

/-- Values for members in order, and the records before and after they are set. -/
inductive Sets (depth : Nat) : List (Member ρ) → List (Except SyntaxFault String × Reading) → ρ → ρ → Prop
  | nil {record : ρ} : Sets depth [] [] record record
  | cons {m : Member ρ} {members : List (Member ρ)} {value : Reading}
      {values : List (Except SyntaxFault String × Reading)} {set : ρ → ρ} {record after : ρ}
      (read : m.read depth value = .ok set) (rest : Sets depth members values (set record) after) :
      Sets depth (m :: members) ((.ok m.name, value) :: values) record after

namespace Schema

variable {s : Schema ρ} {record after : ρ}

/-- What has been read so far are the members before the others. -/
theorem readMembers_of_sets (earlier : List (Member ρ)) {later : List (Member ρ)}
    {values : List (Except SyntaxFault String × Reading)}
    (distinct : (s.members.map Member.name).Nodup) (split : s.members = earlier ++ later)
    (h : Sets depth later values record after) :
    s.readMembers depth .closed (earlier.map Member.name).reverse record values =
      .ok ((s.members.map Member.name).reverse, after) := by
  induction h generalizing earlier with
  | nil => rw [split, List.append_nil, readMembers]
  | @cons m members value values set record after read _ ih =>
      have mem : m ∈ s.members := by
        rw [split]
        exact List.mem_append_right _ List.mem_cons_self
      have fresh : m.name ∉ (earlier.map Member.name).reverse := by
        rw [split, List.map_append, List.map_cons, List.nodup_middle] at distinct
        intro seen
        exact (List.nodup_cons.1 distinct).1 (List.mem_append_left _ (List.mem_reverse.1 seen))
      refine (readMembers_known (member?_of_nodup distinct mem)).2 ⟨fresh, set, read, ?_⟩
      have rest := @ih (earlier ++ [m]) (by rw [split, List.append_assoc]; rfl)
      rwa [List.map_append, List.reverse_append] at rest

/-- A record is read from an object with all members in order. -/
theorem decode_of_sets {values : List (Except SyntaxFault String × Reading)}
    (distinct : (s.members.map Member.name).Nodup) (h : Sets depth s.members values s.blank after)
    (checked : s.check after = .ok ()) :
    s.decode (depth + 1) (.object values .closed) = .ok after := by
  have read : s.readMembers depth .closed [] s.blank values = _ :=
    readMembers_of_sets [] distinct rfl h
  have complete : s.absent? (s.members.map Member.name).reverse = none := by
    rw [absent?, Option.map_eq_none_iff, List.find?_eq_none]
    intro m mem
    simp [List.mem_map_of_mem mem]
  simp only [Schema.decode, enter, bind, Except.bind, read, complete, checked]

end Schema

end LinkTrials.Json
