import LinkTrials.Json.Schema
import LinkTrials.Medium

/-!
The settings of a run: how the devices are prepared, which medium they change to, and the targets
that the samples have to meet.

`Settings.validate` reports the first violation of what settings must fulfil, and
`validate_eq_ok_iff` says that settings without one are valid.
-/
namespace LinkTrials

/-- The two kinds of link whose throughput is measured. -/
inductive Link where
  | bt
  | wifi
deriving DecidableEq, Repr

def Link.name : Link → String
  | .bt => "BT"
  | .wifi => "WiFi"

/-- The two targets that are shares. -/
inductive RateTarget where
  /-- The share of latencies below their timeout. -/
  | success
  /-- The share of expected samples that there are. -/
  | reach
deriving DecidableEq, Repr

def RateTarget.name : RateTarget → String
  | .success => "Success rate target"
  | .reach => "Reach rate target"

/-- What a throughput is compared with. -/
structure Benchmark where
  /-- The least acceptable throughput in KB/s. -/
  kbs : Binary64
  /-- The percentile of the samples that has to reach it. -/
  percentile : Nat
deriving DecidableEq

/-- A share between nothing and all. -/
def Binary64.isShare (x : Binary64) : Bool := le 0 x && le x 1

/-- A number that a throughput can be compared with: finite and not below zero. -/
def Binary64.isBound (x : Binary64) : Bool := x.isFinite && !lt x 0

/-- The settings of a run. -/
structure Settings where
  /-- The name of the run in reports. -/
  label : String := "unspecified"
  /-- End the run at the first failed trial. -/
  failFast : Bool := false
  countryCode : String := ""
  /-- The wireless network; if empty, none is joined. -/
  ssid : String := ""
  password : String := ""
  /-- Switch the target to airplane mode and back before each trial. -/
  toggleAirplaneMode : Bool := true
  /-- Leave the wireless network after the run. -/
  disconnectWifi : Bool := false
  btBenchmark : Binary64 := 10
  btPercentile : Nat := 95
  wifiBenchmark : Binary64 := 10240
  wifiPercentile : Nat := 95
  payload : Payload := .stream
  medium : Medium := .upgradeToAllWifi
  manner : UpgradeManner := .standard
  successTarget : Binary64 := .ofDecimal false 98 (-2)
  reachTarget : Binary64 := .ofDecimal false 95 (-2)
deriving DecidableEq

namespace Settings

instance : Inhabited Settings := ⟨{}⟩

/-- A wireless network is to be joined. -/
def hasNetwork (s : Settings) : Bool := !s.ssid.isEmpty

def benchmark (s : Settings) : Link → Benchmark
  | .bt => ⟨s.btBenchmark, s.btPercentile⟩
  | .wifi => ⟨s.wifiBenchmark, s.wifiPercentile⟩

def linkOf (medium : Medium) : Link := if medium.isHighQuality then .wifi else .bt

def mediumBenchmark (s : Settings) (medium : Medium) : Benchmark := s.benchmark (linkOf medium)

/-- The benchmark of transfers over the second connection. -/
def upgradedBenchmark (s : Settings) : Benchmark := s.mediumBenchmark s.medium

def rateTarget (s : Settings) : RateTarget → Binary64
  | .success => s.successTarget
  | .reach => s.reachTarget

/-- What is wrong with settings. -/
inductive Violation where
  | blankLabel
  | percentile (link : Link) (percentile : Nat)
  | benchmark (link : Link) (kbs : Binary64)
  | rate (target : RateTarget) (rate : Binary64)
deriving DecidableEq

def Violation.message : Violation → String
  | .blankLabel => "Test report alias name cannot be empty"
  | .percentile link p => s!"{link.name} throughput percentile must be between 0 and 100, got: {p}"
  | .benchmark link x =>
    s!"{link.name} throughput benchmark must be a non-negative number of KB/s, got: {x.text}"
  | .rate target x => s!"{target.name} must be between 0.0 and 1.0, got: {x.text}"

/-- A violation where `bad` holds. -/
def violationIf (bad : Bool) (v : Violation) : List Violation := if bad then [v] else []

def percentileViolations (s : Settings) (link : Link) : List Violation :=
  let p := (s.benchmark link).percentile
  violationIf (decide (100 < p)) (.percentile link p)

def benchmarkViolations (s : Settings) (link : Link) : List Violation :=
  let x := (s.benchmark link).kbs
  violationIf (!x.isBound) (.benchmark link x)

def rateViolations (s : Settings) (target : RateTarget) : List Violation :=
  let x := s.rateTarget target
  violationIf (!x.isShare) (.rate target x)

def violations (s : Settings) : List Violation :=
  violationIf (Text.trim s.label).isEmpty .blankLabel ++
    s.percentileViolations .bt ++ s.percentileViolations .wifi ++
    s.benchmarkViolations .bt ++ s.benchmarkViolations .wifi ++
    s.rateViolations .success ++ s.rateViolations .reach

/-- Reports the first violation. -/
def validate (s : Settings) : Except Violation Unit :=
  match s.violations with
  | [] => .ok ()
  | v :: _ => .error v

def Violation.toFault (v : Violation) : Fault := .config v.message

theorem violationIf_eq_nil_iff (bad : Bool) (v : Violation) :
    violationIf bad v = [] ↔ bad = false := by
  cases bad <;> simp [violationIf]

theorem validate_eq_ok_iff (s : Settings) : s.validate = .ok () ↔ s.violations = [] := by
  unfold validate
  split <;> simp_all

end Settings

end LinkTrials
