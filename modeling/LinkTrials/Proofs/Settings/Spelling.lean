import LinkTrials.Environment.Basic
import LinkTrials.Proofs.Coded.Reading
import LinkTrials.Proofs.Decimal.Notation
import LinkTrials.Proofs.Settings.Amounts

/-!
Settings spelled out in an environment.

Each content of a variable has its spellings: a text stands for itself, truth values and numbers are
written out, a coded thing is written by its name or by its code. A spelling of an admitted content keeps
the rule of its variable and is read as that content. So an environment with a spelling for every
variable turns any settings into the ones spelled.
-/
namespace LinkTrials

namespace Text

theorem isBlank_positional (d : Decimal) : ∀ c ∈ d.positional, isBlank c = false := by
  intro c hc
  rcases d.positional_cases with ⟨_, text⟩ | ⟨_, whole, fraction, split, text⟩
  · rw [text] at hc
    exact isBlank_of_isDigit ((allDigits_toDigits _).append (allDigits_zeros _) c hc)
  · rw [text, List.mem_append, List.mem_cons] at hc
    rcases hc with digit | rfl | digit
    · exact isBlank_of_isDigit (split.whole_digits c digit)
    · decide
    · exact isBlank_of_isDigit (split.fraction_digits c digit)

theorem trim_text {x : Binary64} (h : x.isFinite = true) : trim x.text = x.text := by
  apply trim_eq_self
  cases x with
  | nan => cases h
  | infinite s => cases h
  | finite s n fits =>
      rw [Binary64.text, String.toList_ofList]
      intro c hc
      rcases List.mem_append.1 hc with sign | digits
      · cases s with
        | false => cases sign
        | true =>
            rw [List.mem_singleton.1 sign]
            decide
      · split at digits
        · rw [List.mem_singleton.1 digits]
          decide
        · exact isBlank_positional _ c digits

end Text

namespace Coded

/-- The texts for a coded thing: its name and its code. -/
def spellings {α : Type} [Coded α] (a : α) : List String := [name a, toString (code a)]

/-- Every coded thing is read from its texts, which have no blanks around them. -/
def Legible (α : Type) [Coded α] : Prop :=
  ∀ a : α, ∀ text ∈ spellings a, Text.trim text = text ∧ Coded.ofText text = .ok a

theorem Kind.legible : (k : Kind) → Legible k.Thing
  | .payload => show Legible Payload from fun a => by cases a <;> decide +kernel
  | .medium => show Legible Medium from fun a => by cases a <;> decide +kernel
  | .carrier => show Legible Carrier from fun a => by cases a <;> decide +kernel
  | .manner => show Legible UpgradeManner from fun a => by cases a <;> decide +kernel

end Coded

namespace Variable

/-- The texts for a content. -/
def spellings : (v : Variable) → v.Content → List String
  | .label, text | .countryCode, text | .ssid, text | .password, text => [text]
  | .failFast, b | .toggleAirplaneMode, b | .disconnectWifi, b => [toString (α := Bool) b]
  | .btBenchmark, x | .wifiBenchmark, x | .successTarget, x | .reachTarget, x => [Binary64.text x]
  | .btPercentile, p | .wifiPercentile, p => [toString (α := Nat) p]
  | .payload, p => Coded.spellings (α := Payload) p
  | .medium, m => Coded.spellings (α := Medium) m
  | .manner, m => Coded.spellings (α := UpgradeManner) m

theorem spellings_ne_nil (v : Variable) (x : v.Content) : v.spellings x ≠ [] := by
  cases v <;> exact List.cons_ne_nil _ _

/-- What an environment can say beyond what valid settings may hold: a name of the run without blanks
around it, and a country code that is one. -/
def Sayable : (v : Variable) → v.Content → Prop
  | .label, text => Text.trim text = text
  | .countryCode, text => isCountryCode (String.toList text) = true
  | _, _ => True

theorem trim_of_isCountryCode {text : String} (h : isCountryCode text.toList = true) :
    Text.trim text = text := by
  apply Text.trim_eq_self
  intro c hc
  rw [isCountryCode, Bool.or_eq_true, Bool.and_eq_true, List.all_eq_true] at h
  rcases h with empty | ⟨_, letters⟩
  · rw [List.isEmpty_iff.1 empty] at hc
    cases hc
  · exact Text.isBlank_of_isAlpha (letters c hc)

theorem readBool_toString (b : Bool) :
    Text.trim (toString b) = toString b ∧ Text.readBool (toString b) = .ok b := by
  cases b <;> decide +kernel

theorem read?_of_mem_spellings {v : Variable} {x : v.Content} {text : String}
    (admits : v.Admits x) (sayable : v.Sayable x) (h : text ∈ v.spellings x) :
    v.read? text = some x := by
  have coded {α : Type} [Coded α] (legible : Coded.Legible α) {a : α}
      (h : text ∈ Coded.spellings a) :
      (Coded.ofText (Text.trim text) : Except Coded.Fault α).toOption = some a := by
    obtain ⟨trimmed, read⟩ := legible a text h
    rw [trimmed, read]
    rfl
  have number {y : Binary64} (finite : y.isFinite = true) (h : text ∈ [y.text]) :
      (Text.readNumber (Text.trim text)).toOption = some y := by
    rw [List.mem_singleton.1 h, Text.trim_text finite, Text.readNumber_text finite]
    rfl
  have whole {n : Nat} (small : n ≤ 100) (h : text ∈ [toString n]) :
      (Text.readNat 255 (Text.trim text)).toOption = some n := by
    have room := Nat.le_trans small (by decide : 100 ≤ 255)
    rw [List.mem_singleton.1 h, Text.trim_toString_nat, Text.readNat_toString room]
    rfl
  have truth {b : Bool} (h : text ∈ [toString b]) :
      (Text.readBool (Text.trim text)).toOption = some b := by
    obtain ⟨trimmed, read⟩ := readBool_toString b
    rw [List.mem_singleton.1 h, trimmed, read]
    rfl
  cases v with
  | label =>
      rw [List.mem_singleton.1 h]
      exact congrArg some sayable
  | countryCode =>
      rw [List.mem_singleton.1 h]
      exact congrArg some (trim_of_isCountryCode sayable)
  | ssid | password => exact congrArg some (List.mem_singleton.1 h)
  | failFast | toggleAirplaneMode | disconnectWifi => exact truth h
  | btBenchmark | wifiBenchmark => exact number (isAmount_of_isBound admits).isFinite h
  | successTarget | reachTarget => exact number (isAmount_of_isShare admits).isFinite h
  | btPercentile | wifiPercentile => exact whole admits h
  | payload => exact coded (Coded.Kind.legible .payload) h
  | medium => exact coded (Coded.Kind.legible .medium) h
  | manner => exact coded (Coded.Kind.legible .manner) h

section Rules

variable {v : Variable} {text : String}

theorem checkBool_of_read {b : Bool} (h : (Text.readBool text).toOption = some b) :
    v.checkBool text = .ok () := by
  rw [checkBool, toOption_eq_some h]

theorem checkBenchmark_of_read {x : Binary64} (h : (Text.readNumber text).toOption = some x)
    (bound : x.isBound = true) : v.checkBenchmark text = .ok () := by
  rw [checkBenchmark, toOption_eq_some h]
  exact if_pos bound

theorem checkPercentile_of_read {p : Nat} (h : (Text.readNat 255 text).toOption = some p)
    (bound : p ≤ 100) : v.checkPercentile text = .ok () := by
  rw [checkPercentile, toOption_eq_some h]
  exact if_pos bound

theorem checkRate_of_read {x : Binary64} (h : (Text.readNumber text).toOption = some x)
    (bound : x.isShare = true) : v.checkRate text = .ok () := by
  rw [checkRate, toOption_eq_some h]
  exact if_pos bound

theorem checkCoded_of_read {α : Type} [Coded α] {a : α}
    (h : (Coded.ofText text : Except Coded.Fault α).toOption = some a) :
    checkCoded α text = .ok () := by
  rw [checkCoded, toOption_eq_some h]

end Rules

/-- A text that stands for an admitted content keeps the rule of its variable. -/
theorem check_of_read? {v : Variable} {x : v.Content} {raw : String} (read : v.read? raw = some x)
    (admits : v.Admits x) (sayable : v.Sayable x) : v.check raw = .ok () := by
  cases v with
  | label =>
      obtain rfl := Option.some.inj read
      have some : (Text.trim (Text.trim raw)).isEmpty = false := admits
      rw [Text.trim_trim] at some
      exact if_neg (by simp [some])
  | countryCode =>
      obtain rfl := Option.some.inj read
      rw [check]
      exact if_pos sayable
  | ssid | password => rfl
  | failFast | toggleAirplaneMode | disconnectWifi =>
      rw [read?] at read
      rw [check]
      exact checkBool_of_read read
  | btBenchmark | wifiBenchmark =>
      rw [read?] at read
      rw [check]
      exact checkBenchmark_of_read read admits
  | btPercentile | wifiPercentile =>
      rw [read?] at read
      rw [check]
      exact checkPercentile_of_read read admits
  | successTarget | reachTarget =>
      rw [read?] at read
      rw [check]
      exact checkRate_of_read read admits
  | payload | medium | manner =>
      rw [read?] at read
      rw [check]
      exact checkCoded_of_read read

end Variable

namespace Environment

/-- The variables with all those of the settings set. -/
def setAll (env : Environment) (texts : Variable → String) : Environment :=
  Variable.all.foldl (fun env v => env.set v.name (texts v)) env

theorem text?_foldl_set_of_notMem (texts : Variable → String) {vs : List Variable}
    (env : Environment) {name : String} (h : name ∉ vs.map Variable.name) :
    (vs.foldl (fun env v => env.set v.name (texts v)) env).text? name = env.text? name := by
  induction vs generalizing env with
  | nil => rfl
  | cons v vs ih =>
      rw [List.map_cons, List.mem_cons, not_or] at h
      rw [List.foldl_cons, ih _ h.2, text?_set_of_ne env _ h.1]

theorem text?_foldl_set (texts : Variable → String) {vs : List Variable} (env : Environment)
    {v : Variable} (distinct : (vs.map Variable.name).Nodup) (hv : v ∈ vs) :
    (vs.foldl (fun env v => env.set v.name (texts v)) env).text? v.name = some (texts v) := by
  induction vs generalizing env with
  | nil => cases hv
  | cons u vs ih =>
      rw [List.map_cons, List.nodup_cons] at distinct
      rw [List.foldl_cons]
      rcases List.mem_cons.1 hv with rfl | later
      · rw [text?_foldl_set_of_notMem texts _ distinct.1, text?_set]
      · exact ih _ distinct.2 later

theorem text?_setAll (env : Environment) (texts : Variable → String) (v : Variable) :
    (env.setAll texts).text? v.name = some (texts v) :=
  text?_foldl_set texts env (by decide +kernel) (Variable.mem_all v)

end Environment

namespace Settings

/-- Settings that take in a spelling of every content of others are those others. -/
theorem merge_of_read? {P Q : Settings} {lookup : String → Option String}
    {texts : Variable → String} (set : ∀ v : Variable, lookup v.name = some (texts v))
    (passes : ∀ v : Variable, v.check (texts v) = .ok ())
    (read : ∀ v : Variable, v.read? (texts v) = some (P.content v)) :
    Q.merge lookup = (P, .ok ()) := by
  have whole : (Q.merge lookup).2 = .ok () := by
    refine merge_eq_ok_iff_passes.2 fun v raw set' => ?_
    rw [set] at set'
    cases set'
    exact passes v
  have same : (Q.merge lookup).1 = P := ext_content fun v => by
    have taken := (takes_of_merge whole).taken v (Variable.mem_all v) _ (set v)
    rw [read v] at taken
    exact (Option.some.inj taken).symm
  exact Prod.ext same whole

/-- An environment can express all valid settings whose name has no blanks around it and whose country
code is one. Whatever it held before and whatever settings it is merged into, once every variable is
set to a spelling of its content the result is those settings. -/
theorem merge_setAll_spellings (P Q : Settings) (env : Environment) (texts : Variable → String)
    (valid : P.validate = .ok ()) (label : Text.trim P.label = P.label)
    (country : Variable.isCountryCode P.countryCode.toList = true)
    (spelled : ∀ v : Variable, texts v ∈ v.spellings (P.content v)) :
    Q.merge (env.setAll texts).text? = (P, .ok ()) := by
  have admits := (validate_eq_ok_iff_admits P).1 valid
  have sayable (v : Variable) : v.Sayable (P.content v) := by
    cases v with
    | label => exact label
    | countryCode => exact country
    | _ => trivial
  have read (v : Variable) := Variable.read?_of_mem_spellings (admits v) (sayable v) (spelled v)
  exact merge_of_read? (Environment.text?_setAll env texts)
    (fun v => Variable.check_of_read? (read v) (admits v) (sayable v)) read

/-- Coded things by their codes. -/
theorem merge_setAll_spellings_by_code :
    let P : Settings :=
      { label := "lab", countryCode := "US", failFast := true, medium := .wifiLanOnly,
        btBenchmark := .ofDecimal false 5 (-1), reachTarget := -0 }
    let texts (v : Variable) : String := (v.spellings (P.content v)).getLast (v.spellings_ne_nil _)
    P.validate = .ok () ∧ Text.trim P.label = P.label ∧
      Variable.isCountryCode P.countryCode.toList = true ∧
      (∀ v : Variable, texts v ∈ v.spellings (P.content v)) ∧ texts .medium = "3" ∧
      ({} : Settings).merge (({} : Environment).setAll texts).text? = (P, .ok ()) := by
  intro P texts
  have valid : P.validate = .ok () := by
    rw [validate_eq_ok_iff]
    decide +kernel
  have label : Text.trim P.label = P.label := by decide +kernel
  have country : Variable.isCountryCode P.countryCode.toList = true := by decide
  have spelled (v : Variable) : texts v ∈ v.spellings (P.content v) := List.getLast_mem _
  have medium : texts .medium = "3" := by decide +kernel
  exact ⟨valid, label, country, spelled, medium,
    merge_setAll_spellings P {} {} texts valid label country spelled⟩

end Settings

end LinkTrials
