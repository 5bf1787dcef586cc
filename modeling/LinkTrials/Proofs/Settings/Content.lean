import LinkTrials.CommandLine.Options
import LinkTrials.Settings.Variable

/-!
Settings variable by variable.

Every setting belongs to one variable, so settings are a family of contents, one for each variable:
`Settings.content` looks a content up and `Settings.put` replaces it. What variables, options and
files do to settings is said by these two. A text stands for a content or for none, and settings are
valid if every content is admitted; a text that keeps the rule of its variable stands for a content
that is.
-/
namespace LinkTrials

namespace Variable

/-- The values that the setting of a variable may have. -/
def Content : Variable → Type
  | .label | .countryCode | .ssid | .password => String
  | .failFast | .toggleAirplaneMode | .disconnectWifi => Bool
  | .btBenchmark | .wifiBenchmark | .successTarget | .reachTarget => Binary64
  | .btPercentile | .wifiPercentile => Nat
  | .payload => Payload
  | .medium => Medium
  | .manner => UpgradeManner

/-- What a text stands for. Blanks around it do not count, but for the network and its password. -/
def read? : (v : Variable) → String → Option v.Content
  | .label, raw | .countryCode, raw => some (Text.trim raw)
  | .ssid, raw | .password, raw => some raw
  | .failFast, raw | .toggleAirplaneMode, raw | .disconnectWifi, raw =>
    (Text.readBool (Text.trim raw)).toOption
  | .btBenchmark, raw | .wifiBenchmark, raw | .successTarget, raw | .reachTarget, raw =>
    (Text.readNumber (Text.trim raw)).toOption
  | .btPercentile, raw | .wifiPercentile, raw => (Text.readNat 255 (Text.trim raw)).toOption
  | .payload, raw => (Coded.ofText (Text.trim raw) : Except Coded.Fault Payload).toOption
  | .medium, raw => (Coded.ofText (Text.trim raw) : Except Coded.Fault Medium).toOption
  | .manner, raw => (Coded.ofText (Text.trim raw) : Except Coded.Fault UpgradeManner).toOption

/-- What valid settings may hold. -/
def Admits : (v : Variable) → v.Content → Prop
  | .label, x => (Text.trim x).isEmpty = false
  | .btPercentile, p | .wifiPercentile, p => Nat.le p 100
  | .btBenchmark, x | .wifiBenchmark, x => Binary64.isBound x = true
  | .successTarget, x | .reachTarget, x => Binary64.isShare x = true
  | _, _ => True

theorem mem_all (v : Variable) : v ∈ all := by
  cases v <;> decide

theorem nodup_all : all.Nodup := by
  decide

end Variable

namespace Settings

/-- The setting of a variable. -/
def content (s : Settings) : (v : Variable) → v.Content
  | .label => s.label
  | .failFast => s.failFast
  | .countryCode => s.countryCode
  | .ssid => s.ssid
  | .password => s.password
  | .toggleAirplaneMode => s.toggleAirplaneMode
  | .disconnectWifi => s.disconnectWifi
  | .btBenchmark => s.btBenchmark
  | .btPercentile => s.btPercentile
  | .wifiBenchmark => s.wifiBenchmark
  | .wifiPercentile => s.wifiPercentile
  | .payload => s.payload
  | .medium => s.medium
  | .manner => s.manner
  | .successTarget => s.successTarget
  | .reachTarget => s.reachTarget

/-- The settings with that of one variable replaced. -/
def put (s : Settings) : (v : Variable) → v.Content → Settings
  | .label, x => { s with label := x }
  | .failFast, x => { s with failFast := x }
  | .countryCode, x => { s with countryCode := x }
  | .ssid, x => { s with ssid := x }
  | .password, x => { s with password := x }
  | .toggleAirplaneMode, x => { s with toggleAirplaneMode := x }
  | .disconnectWifi, x => { s with disconnectWifi := x }
  | .btBenchmark, x => { s with btBenchmark := x }
  | .btPercentile, x => { s with btPercentile := x }
  | .wifiBenchmark, x => { s with wifiBenchmark := x }
  | .wifiPercentile, x => { s with wifiPercentile := x }
  | .payload, x => { s with payload := x }
  | .medium, x => { s with medium := x }
  | .manner, x => { s with manner := x }
  | .successTarget, x => { s with successTarget := x }
  | .reachTarget, x => { s with reachTarget := x }

@[simp] theorem content_put (s : Settings) (v : Variable) (x : v.Content) :
    (s.put v x).content v = x := by
  cases v <;> rfl

theorem content_put_of_ne (s : Settings) {u v : Variable} (x : v.Content) (h : u ≠ v) :
    (s.put v x).content u = s.content u := by
  cases v <;> cases u <;> first | rfl | exact absurd rfl h

theorem ext_content {s t : Settings} (h : ∀ v, s.content v = t.content v) : s = t := by
  cases s
  cases t
  simp only [mk.injEq]
  exact ⟨h .label, h .failFast, h .countryCode, h .ssid, h .password, h .toggleAirplaneMode,
    h .disconnectWifi, h .btBenchmark, h .btPercentile, h .wifiBenchmark, h .wifiPercentile,
    h .payload, h .medium, h .manner, h .successTarget, h .reachTarget⟩

/-- Settings are valid if they hold only what is admitted. -/
theorem validate_eq_ok_iff_admits (s : Settings) :
    s.validate = .ok () ↔ ∀ v : Variable, v.Admits (s.content v) := by
  simp only [validate_eq_ok_iff, violations, List.append_eq_nil_iff, violationIf_eq_nil_iff,
    percentileViolations, benchmarkViolations, rateViolations, decide_eq_false_iff_not,
    Nat.not_lt, Bool.not_eq_false']
  constructor
  · rintro ⟨⟨⟨⟨⟨⟨hlabel, hbt⟩, hwifi⟩, hbt'⟩, hwifi'⟩, hsuccess⟩, hreach⟩ v
    cases v with
    | label => exact hlabel
    | btPercentile => exact hbt
    | wifiPercentile => exact hwifi
    | btBenchmark => exact hbt'
    | wifiBenchmark => exact hwifi'
    | successTarget => exact hsuccess
    | reachTarget => exact hreach
    | _ => trivial
  · intro h
    exact ⟨⟨⟨⟨⟨⟨h .label, h .btPercentile⟩, h .wifiPercentile⟩, h .btBenchmark⟩, h .wifiBenchmark⟩,
      h .successTarget⟩, h .reachTarget⟩

theorem validate_default : ({} : Settings).validate = .ok () := by
  rw [validate_eq_ok_iff]
  decide +kernel

end Settings

namespace Variable

section Rules

variable {v : Variable} {text : String}

theorem readBool_of_checkBool (h : v.checkBool text = .ok ()) :
    ∃ b, Text.readBool text = .ok b := by
  rw [checkBool] at h
  split at h
  · next b read => exact ⟨b, read⟩
  · cases h

theorem readNumber_of_checkBenchmark (h : v.checkBenchmark text = .ok ()) :
    ∃ x, Text.readNumber text = .ok x ∧ x.isBound = true := by
  rw [checkBenchmark] at h
  split at h
  · next x read => exact ⟨x, read, by simpa using h⟩
  · cases h

theorem readNat_of_checkPercentile (h : v.checkPercentile text = .ok ()) :
    ∃ p, Text.readNat 255 text = .ok p ∧ p ≤ 100 := by
  rw [checkPercentile] at h
  split at h
  · next p read => exact ⟨p, read, by simpa using h⟩
  · cases h

theorem readNumber_of_checkRate (h : v.checkRate text = .ok ()) :
    ∃ x, Text.readNumber text = .ok x ∧ x.isShare = true := by
  rw [checkRate] at h
  split at h
  · next x read => exact ⟨x, read, by simpa using h⟩
  · cases h

theorem ofText_of_checkCoded (α : Type) [Coded α] (h : checkCoded α text = .ok ()) :
    ∃ a : α, Coded.ofText text = .ok a := by
  rw [checkCoded] at h
  split at h
  · next a read => exact ⟨a, read⟩
  · cases h

end Rules

theorem toOption_eq_some {ε α : Type} {e : Except ε α} {a : α} (h : e.toOption = some a) :
    e = .ok a := by
  cases e with
  | error fault => cases h
  | ok b => exact congrArg Except.ok (Option.some.inj h)

/-- A text that keeps the rule of its variable stands for a content, which is admitted. -/
theorem read?_of_check {v : Variable} {raw : String} (h : v.check raw = .ok ()) :
    ∃ x, v.read? raw = some x ∧ v.Admits x := by
  cases v with
  | label =>
      refine ⟨Text.trim raw, rfl, ?_⟩
      rw [check] at h
      simpa [Admits, Text.trim_trim] using h
  | countryCode | ssid | password => exact ⟨_, rfl, trivial⟩
  | failFast | toggleAirplaneMode | disconnectWifi =>
      rw [check] at h
      obtain ⟨b, read⟩ := readBool_of_checkBool h
      exact ⟨b, by rw [read?, read]; rfl, trivial⟩
  | btBenchmark | wifiBenchmark =>
      rw [check] at h
      obtain ⟨x, read, bound⟩ := readNumber_of_checkBenchmark h
      exact ⟨x, by rw [read?, read]; rfl, bound⟩
  | btPercentile | wifiPercentile =>
      rw [check] at h
      obtain ⟨p, read, bound⟩ := readNat_of_checkPercentile h
      exact ⟨p, by rw [read?, read]; rfl, bound⟩
  | successTarget | reachTarget =>
      rw [check] at h
      obtain ⟨x, read, share⟩ := readNumber_of_checkRate h
      exact ⟨x, by rw [read?, read]; rfl, share⟩
  | payload | medium | manner =>
      rw [check] at h
      obtain ⟨a, read⟩ := ofText_of_checkCoded _ h
      exact ⟨a, by rw [read?, read]; rfl, trivial⟩

theorem mapError_of_toOption {ε δ α : Type} {e : Except ε α} {message : ε → δ} {a : α}
    (h : e.toOption = some a) : e.mapError message = .ok a := by
  rw [toOption_eq_some h]
  rfl

theorem storeAs_of_ok {α : Type} {v : Variable} {raw : String} {read : String → Except String α}
    {set : α → Settings} {a : α} (h : read (Text.trim raw) = .ok a) :
    v.storeAs raw read set = .ok (set a) := by
  rw [storeAs, h]

theorem store_of_read? {v : Variable} {raw : String} {x : v.Content} (h : v.read? raw = some x)
    (s : Settings) : v.store raw s = .ok (s.put v x) := by
  cases v with
  | label | countryCode | ssid | password =>
      cases h
      rfl
  | _ =>
      rw [store]
      exact storeAs_of_ok (mapError_of_toOption h)

end Variable

namespace Options

/-- What the options set, the name of the run without blanks around it. -/
def content? (o : Options) : (v : Variable) → Option v.Content
  | .label => o.label.map Text.trim
  | .medium => o.medium
  | .btBenchmark => o.btBenchmark
  | .wifiBenchmark => o.wifiBenchmark
  | .btPercentile => o.btPercentile
  | .wifiPercentile => o.wifiPercentile
  | .successTarget => o.successTarget
  | .reachTarget => o.reachTarget
  | _ => none

end Options

end LinkTrials
