import LinkTrials.Proofs.Settings.Layers
import LinkTrials.Settings.Concern

/-!
Settings under a veil.

All that is said about a password is whether there is one. So the rules, the concerns and the summary
of settings are those of the settings with a fixed text in place of the password. Two environments
that differ in the text of its variable alone go through the same merging, which stops at the same
fault or comes to settings that are the same under the veil.
-/
namespace LinkTrials

/-- A password as it may be shown: whether there is one. -/
def veil (password : String) : String := if password.isEmpty then password else "********"

theorem isEmpty_veil (password : String) : (veil password).isEmpty = password.isEmpty := by
  rw [veil]
  split
  · rfl
  · next there =>
      rw [eq_false_of_ne_true there]
      rfl

theorem veil_of_there {password : String} (h : password.isEmpty = false) :
    veil password = "********" := by
  rw [veil, h, if_neg Bool.false_ne_true]

theorem mapError_map {ε δ α β : Type} (e : Except ε α) (f : ε → δ) (g : α → β) :
    (e.map g).mapError f = (e.mapError f).map g := by
  cases e <;> rfl

namespace Settings

/-- The settings with the password veiled. -/
def veiled (s : Settings) : Settings := { s with password := veil s.password }

variable {s t : Settings}

theorem violations_veiled (s : Settings) : s.veiled.violations = s.violations := by
  rw [violations, violations]
  rfl

theorem validate_veiled (s : Settings) : s.veiled.validate = s.validate := by
  rw [validate, validate, violations_veiled]

theorem concerns_veiled (s : Settings) : s.veiled.concerns = s.concerns := by
  have there : s.veiled.password.isEmpty = s.password.isEmpty := isEmpty_veil s.password
  rw [concerns, concerns, there]
  rfl

theorem review_veiled (s : Settings) : s.veiled.review = s.review := by
  rw [review, review, concerns_veiled, validate_veiled]

theorem networkText_veiled (s : Settings) : s.veiled.networkText = s.networkText := by
  have there : s.veiled.password.isEmpty = s.password.isEmpty := isEmpty_veil s.password
  rw [networkText, networkText, there]
  rfl

theorem summary_veiled (s : Settings) : s.veiled.summary = s.summary := by
  rw [summary, summary, networkText_veiled]
  rfl

theorem finish_veiled (options : Options) (s : Settings) :
    (finish options s).map veiled = finish options s.veiled := by
  have same : options.override s.veiled = (options.override s).veiled := rfl
  rw [finish, finish, same, validate_veiled]
  cases (options.override s).validate <;> rfl

/-! ### Merging -/

/-- Settings that agree in all but the password. -/
def AgreesInRest (s t : Settings) : Prop :=
  ∀ v : Variable, v ≠ .password → s.content v = t.content v

theorem AgreesInRest.refl (s : Settings) : s.AgreesInRest s := fun _ _ => rfl

theorem AgreesInRest.put (h : s.AgreesInRest t) (v : Variable) (x : v.Content) :
    (s.put v x).AgreesInRest (t.put v x) := by
  intro u hu
  by_cases same : u = v
  · subst same
    rw [content_put, content_put]
  · rw [content_put_of_ne s (v := v) x same, content_put_of_ne t (v := v) x same, h u hu]

theorem AgreesInRest.putPasswords (h : s.AgreesInRest t) (x y : String) :
    (s.put .password x).AgreesInRest (t.put .password y) := by
  intro u hu
  rw [content_put_of_ne s (v := .password) x hu, content_put_of_ne t (v := .password) y hu, h u hu]

theorem AgreesInRest.veiled_eq (h : s.AgreesInRest t) (hs : s.password.isEmpty = false)
    (ht : t.password.isEmpty = false) : s.veiled = t.veiled := by
  refine ext_content fun v => ?_
  by_cases same : v = .password
  · subst same
    exact (veil_of_there hs).trans (veil_of_there ht).symm
  · have kept (r : Settings) : r.veiled.content v = r.content v :=
      content_put_of_ne r (v := .password) (veil r.password) same
    rw [kept, kept, h v same]

/-- Texts of variables that differ only in that of the password, which is there both times. -/
structure SharesRest (lookup lookup' : String → Option String) : Prop where
  others : ∀ name ≠ Variable.password.name, lookup name = lookup' name
  there : ∃ text, lookup Variable.password.name = some text ∧ text.isEmpty = false
  there' : ∃ text, lookup' Variable.password.name = some text ∧ text.isEmpty = false

variable {lookup lookup' : String → Option String}

theorem name_ne_password {v : Variable} (h : v ≠ .password) : v.name ≠ Variable.password.name := by
  cases v with
  | password => exact absurd rfl h
  | _ => decide

theorem apply_password (raw : String) (s : Settings) :
    Variable.apply .password raw s = .ok (s.put .password raw) := rfl

theorem mergeFrom_agrees (h : SharesRest lookup lookup') (vs : List Variable)
    (same : s.AgreesInRest t) :
    (mergeFrom lookup vs s).2 = (mergeFrom lookup' vs t).2 ∧
      (mergeFrom lookup vs s).1.AgreesInRest (mergeFrom lookup' vs t).1 := by
  induction vs generalizing s t with
  | nil => exact ⟨rfl, same⟩
  | cons v rest ih =>
      rw [mergeFrom, mergeFrom]
      -- Any password is taken, so that only the other texts can end the merging.
      by_cases secret : v = .password
      · subst secret
        obtain ⟨text, set, -⟩ := h.there
        obtain ⟨text', set', -⟩ := h.there'
        rw [set, set']
        dsimp only
        rw [apply_password, apply_password]
        exact ih (same.putPasswords text text')
      · rw [← h.others _ (name_ne_password secret)]
        cases lookup v.name with
        | none => exact ih same
        | some raw =>
            dsimp only
            cases verdict : v.check raw with
            | error fault =>
                rw [Variable.apply_of_fault verdict, Variable.apply_of_fault verdict]
                exact ⟨rfl, same⟩
            | ok _ =>
                obtain ⟨x, -, apply⟩ := Variable.apply_of_check verdict
                rw [apply s, apply t]
                exact ih (same.put v x)

/-- A merging that ends well has taken the text of the password. -/
theorem password_of_merge {text : String} (set : lookup Variable.password.name = some text)
    (h : (s.merge lookup).2 = .ok ()) : (s.merge lookup).1.password = text := by
  have taken := (takes_of_merge h).taken .password (Variable.mem_all _) text set
  exact (Option.some.inj taken).symm

/-- The password makes no difference to how the merging ends, and none under the veil to what it comes
to. -/
theorem merge_veiled (h : SharesRest lookup lookup') (s : Settings) :
    (s.merge lookup).2 = (s.merge lookup').2 ∧
      ((s.merge lookup).2 = .ok () →
        (s.merge lookup).1.veiled = (s.merge lookup').1.veiled) := by
  obtain ⟨ends, agrees⟩ := mergeFrom_agrees h Variable.all (.refl s)
  refine ⟨ends, fun whole => ?_⟩
  obtain ⟨text, set, filled⟩ := h.there
  obtain ⟨text', set', filled'⟩ := h.there'
  have whole' : (s.merge lookup').2 = .ok () := ends.symm.trans whole
  refine AgreesInRest.veiled_eq agrees ?_ ?_
  · exact (congrArg String.isEmpty (password_of_merge set whole)).trans filled
  · exact (congrArg String.isEmpty (password_of_merge set' whole')).trans filled'

/-! ### Loading -/

variable {options : Options} {folder : Folder} {env env' : Environment}

/-- Without a dotfile the variables are those of the environment. -/
theorem load_of_missing (h : folder.contains dotfilePath = false) (options : Options)
    (env : Environment) :
    load options folder env =
      (env, ((ofParams folder options.params).bind (settle options env.text?)).mapError .fault) := by
  have undotted : Dotfile.load folder dotfilePath env = (env, .ok false) := by
    rw [Dotfile.load, h]
    rfl
  cases file : ofParams folder options.params with
  | error fault =>
      rw [load, file]
      rfl
  | ok base => exact load_of_read file undotted

theorem settle_veiled (h : SharesRest lookup lookup') (options : Options) (base : Settings) :
    (settle options lookup base).map veiled = (settle options lookup' base).map veiled := by
  rw [settle, settle]
  obtain ⟨ends, same⟩ := merge_veiled h base
  generalize base.merge lookup = merged at ends same
  generalize base.merge lookup' = merged' at ends same
  obtain ⟨t, outcome⟩ := merged
  obtain ⟨t', outcome'⟩ := merged'
  dsimp only at ends same
  subst ends
  cases outcome with
  | error fault => rfl
  | ok _ =>
      dsimp only
      rw [finish_veiled, finish_veiled, same rfl]

/-- The password makes no difference to why settings cannot be loaded, and none under the veil to the
settings that are. -/
theorem load_veiled (missing : folder.contains dotfilePath = false)
    (h : SharesRest env.text? env'.text?) (options : Options) :
    (load options folder env).2.map veiled = (load options folder env').2.map veiled := by
  rw [load_of_missing missing, load_of_missing missing]
  cases ofParams folder options.params with
  | error fault => rfl
  | ok base =>
      dsimp only [Except.bind]
      rw [← mapError_map, ← mapError_map, settle_veiled h options base]

end Settings

end LinkTrials
