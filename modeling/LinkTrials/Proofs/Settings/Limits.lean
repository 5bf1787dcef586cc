import LinkTrials.Proofs.Settings.Spelling

/-!
The limits of settings.

Limits are set in three places: by the rules of variables, by the options and by the validation of whole
settings. They are the same limits. A text keeps the rule of its variable if it stands for a content that
valid settings may take without becoming invalid, and an option for a share takes the same numbers. Only a
country code is judged by its variable alone.
-/
namespace LinkTrials

open Binary64

namespace Variable

/-- Valid settings stay valid with the content in place of theirs. -/
def Keeps (v : Variable) (x : v.Content) : Prop :=
  ∀ s : Settings, s.validate = .ok () → (s.put v x).validate = .ok ()

variable {v : Variable} {raw : String}

theorem keeps_iff_admits {x : v.Content} : v.Keeps x ↔ v.Admits x := by
  simp only [Keeps, Settings.validate_eq_ok_iff_admits]
  constructor
  · intro keeps
    have admitted := keeps {} ((Settings.validate_eq_ok_iff_admits _).1 Settings.validate_default) v
    rwa [Settings.content_put] at admitted
  · intro admits s valid u
    by_cases same : u = v
    · subst same
      rwa [Settings.content_put]
    · rw [Settings.content_put_of_ne s x same]
      exact valid u

theorem sayable_of_read? {x : v.Content} (h : v ≠ .countryCode) (read : v.read? raw = some x) :
    v.Sayable x := by
  cases v with
  | label =>
      cases read
      exact Text.trim_trim raw
  | countryCode => exact absurd rfl h
  | _ => trivial

/-- The rule of a variable against the validation of settings. -/
theorem check_eq_ok_iff_keeps (h : v ≠ .countryCode) :
    v.check raw = .ok () ↔ ∃ x, v.read? raw = some x ∧ v.Keeps x := by
  simp only [keeps_iff_admits]
  constructor
  · exact read?_of_check
  · rintro ⟨x, read, admits⟩
    exact check_of_read? read admits (sayable_of_read? h read)

end Variable

namespace ValueOption

theorem readShare_eq_ok_iff {text : String} {x : Binary64} :
    readShare text = .ok x ↔ Text.readNumber text = .ok x ∧ x.isShare = true := by
  rw [readShare]
  cases Text.readNumber text with
  | error fault => simp
  | ok y =>
      dsimp only
      rw [Except.ok.injEq]
      split
      · next share =>
        rw [Except.ok.injEq, iff_self_and]
        rintro rfl
        exact share
      · next outside =>
        refine iff_of_false (fun h => by cases h) ?_
        rintro ⟨rfl, share⟩
        exact outside share

end ValueOption

open Variable in
/-- The limits of the settings are the same wherever they are checked. But for the country code, the rule
of a variable accepts just the texts that stand for a content with which all valid settings stay valid. The
option for a share accepts just the numbers with which they stay valid as either target, without leaving
blanks aside. These contents are the finite numbers from zero on as benchmarks, the percentiles up to 100,
and the numbers from zero to one as targets, where the negative zero counts as zero. -/
theorem limits_agree (raw : String) :
    (∀ v : Variable, v ≠ .countryCode →
      (v.check raw = .ok () ↔ ∃ x, v.read? raw = some x ∧ v.Keeps x)) ∧
    (∀ x : Binary64,
      (ValueOption.readShare raw = .ok x ↔ Text.readNumber raw = .ok x ∧ successTarget.Keeps x) ∧
      (ValueOption.readShare raw = .ok x ↔ Text.readNumber raw = .ok x ∧ reachTarget.Keeps x)) ∧
    (∀ x : Binary64, (btBenchmark.Keeps x ↔ IsAmount x) ∧ (wifiBenchmark.Keeps x ↔ IsAmount x)) ∧
    (∀ p : Nat, (btPercentile.Keeps p ↔ p ≤ 100) ∧ (wifiPercentile.Keeps p ↔ p ≤ 100)) ∧
    ∀ x : Binary64,
      (successTarget.Keeps x ↔ UpTo oneUnits x) ∧ (reachTarget.Keeps x ↔ UpTo oneUnits x) := by
  have share {v : Variable} {x : v.Content} {y : Binary64} (h : v.Admits x ↔ y.isShare = true) :
      ValueOption.readShare raw = .ok y ↔ Text.readNumber raw = .ok y ∧ v.Keeps x := by
    rw [keeps_iff_admits, h]
    exact ValueOption.readShare_eq_ok_iff
  refine ⟨fun _ => check_eq_ok_iff_keeps, fun x => ⟨share Iff.rfl, share Iff.rfl⟩, fun x => ?_,
    fun p => ⟨keeps_iff_admits, keeps_iff_admits⟩, fun x => ?_⟩
  · exact ⟨keeps_iff_admits.trans isBound_iff_isAmount, keeps_iff_admits.trans isBound_iff_isAmount⟩
  · exact ⟨keeps_iff_admits.trans isShare_iff_upTo, keeps_iff_admits.trans isShare_iff_upTo⟩

open Variable in
/-- The negative zero behind a blank, and the next number above one. -/
theorem limits_agree_of_edges :
    let zero : Binary64 := -0
    reachTarget ≠ .countryCode ∧ reachTarget.Keeps zero ∧ reachTarget.check "\u3000-0" = .ok () ∧
      reachTarget.check "1.0000000000000002" ≠ .ok () := by
  intro zero
  obtain ⟨rules, -, -, -, targets⟩ := limits_agree "\u3000-0"
  have other : reachTarget ≠ .countryCode := by decide
  have nothing : UpTo oneUnits zero := ⟨0, by decide +kernel, Nat.zero_le _⟩
  have keeps := (targets zero).2.2 nothing
  have read : (Text.readNumber (Text.trim "\u3000-0")).toOption = some zero := by decide +kernel
  have beyond : reachTarget.check "1.0000000000000002" ≠ .ok () := by decide +kernel
  exact ⟨other, keeps, (rules reachTarget other).2 ⟨zero, read, keeps⟩, beyond⟩

end LinkTrials
