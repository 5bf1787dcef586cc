import LinkTrials.Proofs.Settings.Content

/-!
Settings under the variables of an environment.

The variables are looked at one after the other. Up to the first text that breaks the rule of its
variable, every text that is set replaces the content of its variable and nothing else; there the
merging stops with the fault of that rule. No text passes the rule and then fails to be stored, and
settings that were valid stay so, wherever the merging stops.
-/
namespace LinkTrials

/-- The variable is not set, or its text keeps the rule. -/
def Variable.Passes (lookup : String → Option String) (v : Variable) : Prop :=
  ∀ raw, lookup v.name = some raw → v.check raw = .ok ()

theorem Variable.apply_of_check {v : Variable} {raw : String} (h : v.check raw = .ok ()) :
    ∃ x, v.read? raw = some x ∧ ∀ s, v.apply raw s = .ok (s.put v x) := by
  obtain ⟨x, read, -⟩ := read?_of_check h
  refine ⟨x, read, fun s => ?_⟩
  rw [apply, h, store_of_read? read]

theorem Variable.apply_of_fault {v : Variable} {raw : String} {fault : Fault}
    (h : v.check raw = .error fault) (s : Settings) : v.apply raw s = .error fault := by
  rw [apply, h]

namespace Settings

variable {lookup : String → Option String} {vs : List Variable} {s after : Settings}

/-- What was set of some variables is in the settings after, and all else is as before. -/
structure Takes (lookup : String → Option String) (vs : List Variable) (s after : Settings) :
    Prop where
  taken : ∀ v ∈ vs, ∀ raw, lookup v.name = some raw → v.read? raw = some (after.content v)
  kept : ∀ v, v ∉ vs ∨ lookup v.name = none → after.content v = s.content v

theorem Takes.nil (lookup : String → Option String) (s : Settings) : Takes lookup [] s s where
  taken := fun _ h => nomatch h
  kept := fun _ _ => rfl

theorem Takes.cons_unset {v : Variable} (unset : lookup v.name = none)
    (h : Takes lookup vs s after) : Takes lookup (v :: vs) s after where
  taken := by
    intro u hu raw set
    rcases List.mem_cons.1 hu with rfl | later
    · rw [unset] at set
      cases set
    · exact h.taken u later raw set
  kept := by
    rintro u (fresh | unset')
    · exact h.kept u (.inl fun later => fresh (List.mem_cons_of_mem v later))
    · exact h.kept u (.inr unset')

theorem Takes.cons_set {v : Variable} {raw : String} {x : v.Content}
    (set : lookup v.name = some raw) (read : v.read? raw = some x)
    (h : Takes lookup vs (s.put v x) after) : Takes lookup (v :: vs) s after where
  taken := by
    intro u hu raw' set'
    rcases List.mem_cons.1 hu with rfl | later
    · -- Should the variable come again it is set to the same text.
      by_cases again : u ∈ vs
      · exact h.taken u again raw' set'
      · rw [set] at set'
        cases set'
        rw [read, h.kept u (.inl again), content_put]
    · exact h.taken u later raw' set'
  kept := by
    intro u hu
    have other : u ≠ v := by
      rintro rfl
      rcases hu with fresh | unset
      · exact fresh List.mem_cons_self
      · rw [set] at unset
        cases unset
    have outside : u ∉ vs ∨ lookup u.name = none :=
      hu.imp_left fun fresh later => fresh (List.mem_cons_of_mem v later)
    rw [h.kept u outside, content_put_of_ne s x other]

/-- Texts that keep their rules bring in nothing that is not admitted. -/
theorem Takes.admits (h : Takes lookup vs s after) (passes : ∀ v ∈ vs, v.Passes lookup)
    (valid : ∀ v : Variable, v.Admits (s.content v)) (v : Variable) :
    v.Admits (after.content v) := by
  by_cases hv : v ∈ vs
  · cases set : lookup v.name with
    | none =>
        rw [h.kept v (.inr set)]
        exact valid v
    | some raw =>
        obtain ⟨x, read, admitted⟩ := Variable.read?_of_check (passes v hv raw set)
        rw [h.taken v hv raw set] at read
        cases read
        exact admitted
  · rw [h.kept v (.inl hv)]
    exact valid v

/-- How the merging of some variables ends: behind the last of them, or at the first that does not
pass. -/
inductive Merged (lookup : String → Option String) (vs : List Variable) (s after : Settings) :
    Except Variable.Fault Unit → Prop where
  | whole (passes : ∀ v ∈ vs, v.Passes lookup) (takes : Takes lookup vs s after) :
      Merged lookup vs s after (.ok ())
  | stopped {before : List Variable} {v : Variable} {later : List Variable} {raw : String}
      {fault : Variable.Fault} (split : vs = before ++ v :: later)
      (passes : ∀ u ∈ before, u.Passes lookup) (set : lookup v.name = some raw)
      (broken : v.check raw = .error fault) (takes : Takes lookup before s after) :
      Merged lookup vs s after (.error fault)

theorem Merged.cons {v : Variable} {outcome : Except Variable.Fault Unit} {t : Settings}
    (passes : v.Passes lookup)
    (takes : ∀ {vs after}, Takes lookup vs t after → Takes lookup (v :: vs) s after)
    (h : Merged lookup vs t after outcome) : Merged lookup (v :: vs) s after outcome := by
  cases h with
  | whole passes' takes' => exact .whole (List.forall_mem_cons.2 ⟨passes, passes'⟩) (takes takes')
  | stopped split passes' set broken takes' =>
      exact .stopped (by rw [split, List.cons_append]) (List.forall_mem_cons.2 ⟨passes, passes'⟩)
        set broken (takes takes')

theorem merged_mergeFrom (lookup : String → Option String) (vs : List Variable) (s : Settings) :
    Merged lookup vs s (mergeFrom lookup vs s).1 (mergeFrom lookup vs s).2 := by
  induction vs generalizing s with
  | nil => exact .whole (fun _ h => nomatch h) (.nil lookup s)
  | cons v rest ih =>
      rw [mergeFrom]
      cases set : lookup v.name with
      | none =>
          have passes : v.Passes lookup := fun raw set' => by rw [set] at set'; cases set'
          exact .cons passes (.cons_unset set) (ih s)
      | some raw =>
          dsimp only
          cases verdict : v.check raw with
          | error fault =>
              rw [Variable.apply_of_fault verdict]
              have split : v :: rest = [] ++ v :: rest := rfl
              exact .stopped split (fun _ h => nomatch h) set verdict (.nil lookup s)
          | ok _ =>
              obtain ⟨x, read, apply⟩ := Variable.apply_of_check verdict
              have passes : v.Passes lookup := fun raw' set' => by
                rw [set] at set'
                cases set'
                exact verdict
              rw [apply s]
              exact .cons passes (.cons_set set read) (ih (s.put v x))

theorem merged_merge (lookup : String → Option String) (s : Settings) :
    Merged lookup Variable.all s (s.merge lookup).1 (s.merge lookup).2 :=
  merged_mergeFrom lookup _ s

theorem merge_eq_ok_iff_passes :
    (s.merge lookup).2 = .ok () ↔ ∀ v : Variable, v.Passes lookup := by
  have merged := merged_merge lookup s
  generalize (s.merge lookup).2 = outcome at *
  cases merged with
  | whole passes takes => exact iff_of_true rfl fun v => passes v (Variable.mem_all v)
  | stopped split passes set broken takes =>
      refine iff_of_false (fun h => (nomatch h)) fun all => ?_
      rw [all _ _ set] at broken
      cases broken

theorem takes_of_merge (h : (s.merge lookup).2 = .ok ()) :
    Takes lookup Variable.all s (s.merge lookup).1 := by
  have merged := merged_merge lookup s
  rw [h] at merged
  cases merged with
  | whole _ takes => exact takes

theorem stopped_of_merge {fault : Variable.Fault} (h : (s.merge lookup).2 = .error fault) :
    ∃ before v later raw,
      Variable.all = before ++ v :: later ∧ (∀ u ∈ before, u.Passes lookup) ∧
      lookup v.name = some raw ∧ v.check raw = .error fault ∧
      Takes lookup before s (s.merge lookup).1 ∧
      ∀ u ∈ v :: later, (s.merge lookup).1.content u = s.content u := by
  have merged := merged_merge lookup s
  rw [h] at merged
  cases merged with
  | @stopped before v later raw _ split passes set broken takes =>
      refine ⟨before, v, later, raw, split, passes, set, broken, takes, fun u hu => ?_⟩
      -- No variable comes twice, so none of these has been taken before.
      have nodup := Variable.nodup_all
      rw [split, List.nodup_append] at nodup
      exact takes.kept u (.inl fun earlier => nodup.2.2 u earlier u hu rfl)

/-- Wherever the merging ends, it has taken the texts of some variables that pass. -/
theorem exists_takes_merge (lookup : String → Option String) (s : Settings) :
    ∃ vs : List Variable, (∀ v ∈ vs, v.Passes lookup) ∧ Takes lookup vs s (s.merge lookup).1 := by
  have merged := merged_merge lookup s
  generalize (s.merge lookup).2 = outcome at merged
  cases merged with
  | whole passes takes => exact ⟨_, passes, takes⟩
  | stopped _ passes _ _ takes => exact ⟨_, passes, takes⟩

/-- Merging succeeds exactly if every text that is set keeps the rule of its variable, and then takes
them all. Otherwise it gives the fault of the first variable in the fixed order that does not pass,
having taken the texts before that one and left the other contents alone. What is not set never
changes, valid settings stay valid, and what passes its rule can be stored. -/
theorem merge_takes_until_fault (lookup : String → Option String) (s : Settings) :
    let after := (s.merge lookup).1
    let outcome := (s.merge lookup).2
    (outcome = .ok () ↔ ∀ v : Variable, v.Passes lookup) ∧
    (outcome = .ok () → Takes lookup Variable.all s after) ∧
    (∀ fault, outcome = .error fault → ∃ before v later raw,
      Variable.all = before ++ v :: later ∧ (∀ u ∈ before, u.Passes lookup) ∧
      lookup v.name = some raw ∧ v.check raw = .error fault ∧
      Takes lookup before s after ∧ ∀ u ∈ v :: later, after.content u = s.content u) ∧
    (∀ v : Variable, lookup v.name = none → after.content v = s.content v) ∧
    (s.validate = .ok () → after.validate = .ok ()) ∧
    ∀ (v : Variable) raw (t : Settings), v.check raw = .ok () →
      ∃ changed, v.store raw t = .ok changed := by
  intro after outcome
  obtain ⟨vs, passes, takes⟩ := exists_takes_merge lookup s
  refine ⟨merge_eq_ok_iff_passes, takes_of_merge, fun fault failed => stopped_of_merge failed,
    fun v unset => takes.kept v (.inr unset), ?_, ?_⟩
  · rw [validate_eq_ok_iff_admits, validate_eq_ok_iff_admits]
    exact takes.admits passes
  · intro v raw t checked
    obtain ⟨x, read, -⟩ := Variable.read?_of_check checked
    exact ⟨_, Variable.store_of_read? read t⟩

/-- A percentile out of range stops the merging behind the name of the run. -/
theorem merge_takes_until_fault_of_percentile :
    let lookup (name : String) : Option String :=
      if name = Variable.label.name then some " lab "
      else if name = Variable.btPercentile.name then some "101"
      else none
    let merged := ({} : Settings).merge lookup
    merged.2 = .error (.percentile .btPercentile 101) ∧ merged.1.label = "lab" ∧
      merged.1.validate = .ok () := by
  intro lookup merged
  have stopped : merged.2 = .error (.percentile .btPercentile 101) := rfl
  have label : merged.1.label = "lab" := by decide +kernel
  have valid : ({} : Settings).validate = .ok () := by
    rw [validate_eq_ok_iff]
    decide +kernel
  exact ⟨stopped, label, (merge_takes_until_fault lookup {}).2.2.2.2.1 valid⟩

end Settings

end LinkTrials
