import Mathlib.Data.List.Nodup
import Mathlib.Data.List.Pairwise
import LinkTrials.Json.Fields

/-!
Members by name as finite maps.

Members that are sorted by name are determined by what a look-up finds, and inserting keeps them sorted.
A look-up in members that were inserted one after the other finds the last one with the name. So the
order in which members with different names are inserted, and the order in which they are kept before
they are sorted, leave no trace.
-/
namespace LinkTrials.Json.Fields

variable {fields others added : Fields} {name : String} {value : Json}

/-- Sorted by name, with each name once. -/
def Ordered (fields : Fields) : Prop := fields.Pairwise fun m n => m.1 < n.1

/-- Each name once, in any order. -/
def Distinct (fields : Fields) : Prop := (fields.map Prod.fst).Nodup

theorem ordered_nil : Ordered [] := List.Pairwise.nil

theorem Ordered.distinct (h : Ordered fields) : Distinct fields := by
  rw [Distinct, List.Nodup, List.pairwise_map]
  refine h.imp fun {m n} less (same : m.1 = n.1) => ?_
  rw [same] at less
  exact String.lt_irrefl _ less

theorem mem_insert {m : String × Json} (h : m ∈ insert name value fields) :
    m = (name, value) ∨ m ∈ fields := by
  induction fields with
  | nil => exact .inl (List.mem_singleton.1 h)
  | cons n rest ih =>
      obtain ⟨k, v⟩ := n
      rw [insert] at h
      split at h
      · exact (List.mem_cons.1 h).imp id (List.mem_cons_of_mem _)
      · split at h
        · exact List.mem_cons.1 h
        · rcases List.mem_cons.1 h with first | later
          · exact .inr (first ▸ List.mem_cons_self)
          · exact (ih later).imp id (List.mem_cons_of_mem _)

theorem Ordered.insert (h : Ordered fields) (name : String) (value : Json) :
    Ordered (insert name value fields) := by
  induction fields with
  | nil => exact List.pairwise_singleton _ _
  | cons n rest ih =>
      obtain ⟨k, v⟩ := n
      obtain ⟨first, later⟩ := List.pairwise_cons.1 h
      rw [Fields.insert]
      split
      · next same => exact List.pairwise_cons.2 ⟨same ▸ first, later⟩
      · next other =>
        split
        · next less =>
          refine List.pairwise_cons.2 ⟨fun m hm => ?_, h⟩
          rcases List.mem_cons.1 hm with rfl | hm
          · exact less
          · exact String.lt_trans less (first m hm)
        · next more =>
          refine List.pairwise_cons.2 ⟨fun m hm => ?_, ih later⟩
          rcases mem_insert hm with rfl | hm
          · exact String.not_le.1 fun below => other (String.le_antisymm below (String.not_lt.1 more))
          · exact first m hm

theorem Ordered.insertAll (h : Ordered fields) (added : Fields) : Ordered (insertAll added fields) := by
  induction added generalizing fields with
  | nil => exact h
  | cons m rest ih => exact ih (h.insert m.1 m.2)

/-! ### Look-ups -/

theorem find?_insert_eq (name : String) (value : Json) (fields : Fields) (key : String) :
    (fields.insert name value).find? key = if name = key then some value else fields.find? key := by
  split
  · next same => rw [same, find?_insert]
  · next other => rw [find?_insert_of_ne value fields (Ne.symm other)]

theorem find?_append (fields others : Fields) (key : String) :
    find? key (fields ++ others) = (find? key fields).or (find? key others) := by
  induction fields with
  | nil => rfl
  | cons m rest ih =>
      rw [List.cons_append, find?, find?]
      split
      · rfl
      · exact ih

theorem find?_insertAll (added fields : Fields) (key : String) :
    find? key (insertAll added fields) = (find? key added.reverse).or (find? key fields) := by
  induction added generalizing fields with
  | nil => rfl
  | cons m rest ih =>
      rw [insertAll, List.foldl_cons]
      change find? key (insertAll rest _) = _
      rw [ih, find?_insert_eq, List.reverse_cons, find?_append, Option.or_assoc, find?]
      split
      · rfl
      · rfl

theorem insertAll_append (added added' fields : Fields) :
    insertAll (added ++ added') fields = insertAll added' (insertAll added fields) :=
  List.foldl_append

/-- With each name once, a look-up finds exactly what is there. -/
theorem Distinct.find?_eq_some_iff (h : Distinct fields) :
    find? name fields = some value ↔ (name, value) ∈ fields := by
  induction fields with
  | nil => exact iff_of_false (fun h => by cases h) List.not_mem_nil
  | cons m rest ih =>
      obtain ⟨k, v⟩ := m
      obtain ⟨fresh, later⟩ := List.nodup_cons.1 h
      rw [find?, List.mem_cons, Prod.mk.injEq]
      split
      · next same =>
        subst same
        have absent : (k, value) ∉ rest := fun hm => fresh (List.mem_map.2 ⟨_, hm, rfl⟩)
        rw [Option.some.injEq, or_iff_left absent, and_iff_right rfl, eq_comm]
      · next other =>
        rw [ih later, or_iff_right fun same => other same.1.symm]

theorem Distinct.find?_perm (h : Distinct fields) (perm : others.Perm fields) (key : String) :
    find? key others = find? key fields := by
  have distinct : Distinct others := (perm.map Prod.fst).nodup_iff.2 h
  ext value
  rw [distinct.find?_eq_some_iff, h.find?_eq_some_iff, perm.mem_iff]

/-- Members with each name once are a rearrangement of all others with the same values. -/
theorem Distinct.perm_of_find? (hf : Distinct fields) (ho : Distinct others)
    (same : ∀ key, find? key others = find? key fields) : others.Perm fields := by
  refine (List.perm_ext_iff_of_nodup ho.of_map hf.of_map).2 fun m => ?_
  rw [← hf.find?_eq_some_iff, ← ho.find?_eq_some_iff, same]

theorem Ordered.ext (hf : Ordered fields) (ho : Ordered others)
    (same : ∀ key, find? key fields = find? key others) : fields = others := by
  refine List.Perm.eq_of_pairwise ?_ hf ho (ho.distinct.perm_of_find? hf.distinct same)
  exact fun m n _ _ less more => absurd (String.lt_trans less more) (String.lt_irrefl _)

/-- Members with different names may be inserted in any order. -/
theorem insertAll_perm (hf : Ordered fields) (ha : Distinct added) {added' : Fields}
    (perm : added'.Perm added) : insertAll added' fields = insertAll added fields := by
  refine (hf.insertAll added').ext (hf.insertAll added) fun key => ?_
  have forward : Distinct added.reverse :=
    ((List.reverse_perm added).map Prod.fst).nodup_iff.2 ha
  have backward := (List.reverse_perm added').trans (perm.trans (List.reverse_perm added).symm)
  rw [find?_insertAll, find?_insertAll, forward.find?_perm backward]

/-- Sorted members are what is left of their rearrangements. -/
theorem ofList_perm (h : Ordered fields) (perm : others.Perm fields) : ofList others = fields := by
  refine (ordered_nil.insertAll others).ext h fun key => ?_
  rw [find?_insertAll, h.distinct.find?_perm ((List.reverse_perm others).trans perm)]
  exact Option.or_none

end LinkTrials.Json.Fields
