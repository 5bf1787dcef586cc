import Mathlib.Data.List.Basic
import LinkTrials.Proofs.Environment.Plain
import LinkTrials.Proofs.Json.Members
import LinkTrials.Proofs.Settings.Merge
import LinkTrials.Settings.Sources

/-!
Settings layer by layer.

A setting is taken from the first of five layers that has it: the options, the variables of the
environment, the assignments of the dotfile, the file of settings, the defaults. Loading ends in a
fault if a layer cannot be read, if a variable breaks its rule, even one that an option replaces, or
if the settings put together are not valid. What a lower layer has is not looked at where a higher
layer replaces it, except that texts of variables keep their rules. Where the dotfile ends the program,
there are neither settings nor a fault.
-/
namespace LinkTrials

namespace Variable

/-- The member of a file of settings. -/
def member : Variable → String
  | .label => "test_report_alias_name"
  | .failFast => "fast_fail_on_any_error"
  | .countryCode => "wifi_country_code"
  | .ssid => "wifi_ssid"
  | .password => "wifi_password"
  | .toggleAirplaneMode => "toggle_airplane_mode_target_side"
  | .disconnectWifi => "disconnect_wifi_after_test"
  | .btBenchmark => "bt_transfer_throughput_benchmark_kbs"
  | .btPercentile => "bt_transfer_throughput_kbs_percentile"
  | .wifiBenchmark => "wifi_transfer_throughput_benchmark_kbs"
  | .wifiPercentile => "wifi_transfer_throughput_kbs_percentile"
  | .payload => "payload_type"
  | .medium => "upgrade_medium"
  | .manner => "medium_upgrade_type"
  | .successTarget => "success_rate_target"
  | .reachTarget => "reach_rate_target"

/-- How the member is read. -/
def decoder : (v : Variable) → Json.Decoder v.Content
  | .label | .countryCode | .ssid | .password => Json.Decoder.string
  | .failFast | .toggleAirplaneMode | .disconnectWifi => Json.Decoder.bool
  | .btBenchmark | .wifiBenchmark | .successTarget | .reachTarget => Json.Decoder.real
  | .btPercentile | .wifiPercentile => Json.Decoder.natural 255 "u8"
  | .payload => (Coded.decoder : Json.Decoder Payload)
  | .medium => (Coded.decoder : Json.Decoder Medium)
  | .manner => (Coded.decoder : Json.Decoder UpgradeManner)

/-- The value that a file of settings has for a variable, by name or, in a list, by place. -/
def item? (v : Variable) (r : Json.Reading) : Option Json.Reading :=
  r.member? v.member (all.idxOf v)

end Variable

namespace Settings

/-- What settings are put together from. -/
structure Layers where
  options : Options
  env : Environment
  /-- The assignments of the dotfile. -/
  assigned : List (String × String)
  /-- What the file of settings reads as, if there is one. -/
  file : Option Json.Reading

/-- Where the setting of a variable comes from: the first layer that has it. -/
inductive Sourced (l : Layers) (v : Variable) : v.Content → Prop where
  | option {x : v.Content} (set : l.options.content? v = some x) : Sourced l v x
  | environment {raw : String} {x : v.Content} (free : l.options.content? v = none)
      (set : l.env.text? v.name = some raw) (read : v.read? raw = some x) : Sourced l v x
  | dotfile {raw : String} {x : v.Content} (free : l.options.content? v = none)
      (unset : l.env.text? v.name = none) (set : l.assigned.lookup v.name = some raw)
      (read : v.read? raw = some x) : Sourced l v x
  | file {item : Json.Reading} {x : v.Content} (free : l.options.content? v = none)
      (unset : l.env.text? v.name = none) (unassigned : l.assigned.lookup v.name = none)
      (there : l.file.bind v.item? = some item)
      (read : v.decoder (Json.maxDepth - 1) item = .ok x) : Sourced l v x
  | default (free : l.options.content? v = none) (unset : l.env.text? v.name = none)
      (unassigned : l.assigned.lookup v.name = none) (absent : l.file.bind v.item? = none) :
      Sourced l v (({} : Settings).content v)

theorem Sourced.unique {l : Layers} {v : Variable} {x y : v.Content} (hx : Sourced l v x)
    (hy : Sourced l v y) : x = y := by
  cases hx <;> cases hy <;> simp_all

section File

end File

section Loading

variable {options : Options} {folder : Folder} {env : Environment} {base merged : Settings}

/-- What the variables and the options make of the settings below them. -/
def settle (options : Options) (lookup : String → Option String) (base : Settings) :
    Except SourceFault Settings :=
  match base.merge lookup with
  | (_, .error fault) => .error (.variable fault)
  | (merged, .ok _) => finish options merged

/-- Behind the files only the variables and the options matter. -/
theorem load_of_read {after : Environment} {found : Bool}
    (file : ofParams folder options.params = .ok base)
    (dotfile : Dotfile.load folder dotfilePath env = (after, .ok found)) :
    load options folder env = (after, (settle options after.text? base).mapError .fault) := by
  have read : loadDotfile folder dotfilePath env = (after, .ok found) := by
    rw [loadDotfile, dotfile]
    rfl
  rw [load, file]
  dsimp only
  rw [read, settle]
  dsimp only
  cases base.merge after.text? with
  | mk merged outcome => cases outcome <;> rfl

variable {outcome : Except (Halt SourceFault) Settings}

/-- An option stands in for a percentile of the file that is out of range. -/
example :
    let text := "\x7b\"bt_transfer_throughput_kbs_percentile\": 200\x7d"
    let folder : Folder := ({} : Folder).place "params.json" (.file text.toUTF8)
    let loaded := load { params := some "params.json", btPercentile := some 50 } folder {}
    loaded.2.toOption.map (fun s => s.btPercentile) = some 50 := by
  decide +kernel

end Loading

end Settings

end LinkTrials
