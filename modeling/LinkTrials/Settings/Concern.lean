import LinkTrials.Settings.Basic
import LinkTrials.Terminal

/-!
Settings that are valid but hardly meant, and a summary of settings for people. The password is not
shown, only whether there is one.
-/
namespace LinkTrials

/-- How much a concern matters. -/
inductive Severity where
  | info
  | warning
deriving DecidableEq, Repr

namespace Severity

def name : Severity → String
  | .info => "INFO"
  | .warning => "WARNING"

def colour : Severity → Terminal.Colour
  | .info => .blue
  | .warning => .yellow

/-- A message behind its severity as a line for the terminal. -/
def consoleText (coloured : Bool) (severity : Severity) (message : String) : String :=
  Terminal.paint coloured false severity.colour ("[" ++ severity.name ++ "]") ++ " " ++ message

end Severity

/-- Settings that deserve a second look. -/
inductive Concern where
  | passwordWithoutNetwork
  | networkWithoutCountry (ssid : String)
  | wifiBelowBt (wifi bt : Binary64)
  /-- A percentile that looks at one sample alone. -/
  | extremePercentile (link : Link) (percentile : Nat)
  | lowQualityMedium (medium : Medium)
deriving DecidableEq

namespace Concern

def severity : Concern → Severity
  | .passwordWithoutNetwork | .wifiBelowBt .. | .lowQualityMedium _ => .warning
  | .networkWithoutCountry _ | .extremePercentile .. => .info

def message : Concern → String
  | .passwordWithoutNetwork =>
    "WiFi password is set but no SSID is configured; the password will be ignored"
  | .networkWithoutCountry ssid => s!"WiFi SSID '{ssid}' is configured without a country code"
  | .wifiBelowBt wifi bt =>
    s!"WiFi throughput benchmark ({wifi.text} KB/s) is below the BT benchmark ({bt.text} KB/s)"
  | .extremePercentile link p =>
    s!"{link.name} throughput percentile {p} compares only the " ++
      (if p = 0 then "slowest" else "fastest") ++ " sample"
  | .lowQualityMedium medium =>
    "Upgrade medium " ++ Coded.name medium ++
      " is not high quality; WiFi throughput is held to the BT benchmark"

end Concern

namespace Settings

def concernIf (present : Bool) (c : Concern) : List Concern := if present then [c] else []

def percentileConcerns (s : Settings) (link : Link) : List Concern :=
  let p := (s.benchmark link).percentile
  concernIf (p == 0 || p == 100) (.extremePercentile link p)

def concerns (s : Settings) : List Concern :=
  concernIf (!s.password.isEmpty && s.ssid.isEmpty) .passwordWithoutNetwork ++
    concernIf (s.hasNetwork && s.countryCode.isEmpty) (.networkWithoutCountry s.ssid) ++
    concernIf (Binary64.lt s.wifiBenchmark s.btBenchmark)
      (.wifiBelowBt s.wifiBenchmark s.btBenchmark) ++
    s.percentileConcerns .bt ++ s.percentileConcerns .wifi ++
    concernIf (!s.medium.isHighQuality) (.lowQualityMedium s.medium)

/-- The concerns about settings that are valid. -/
def review (s : Settings) : Except Violation (List Concern) :=
  s.validate.map fun _ => s.concerns

def benchmarkText (b : Benchmark) : String := s!"p{b.percentile} >= {b.kbs.text} KB/s"

def networkText (s : Settings) : String :=
  if s.hasNetwork then
    s!"WiFi: {s.ssid} [{s.countryCode}] password " ++
      if s.password.isEmpty then "(none)" else "********"
  else "WiFi: not configured"

/-- The settings that bear on the verdict, one a line. -/
def summary (s : Settings) : String :=
  "\n".intercalate
    ["Report alias: " ++ s.label,
     "Upgrade medium: " ++ Coded.name s.medium ++ " (" ++ Coded.name s.manner ++ ")",
     "Payload type: " ++ Coded.name s.payload,
     "BT benchmark: " ++ benchmarkText (s.benchmark .bt),
     "WiFi benchmark: " ++ benchmarkText s.upgradedBenchmark,
     "Success rate target: " ++ s.successTarget.text,
     "Reach rate target: " ++ s.reachTarget.text,
     s.networkText,
     s!"Fast fail: {s.failFast}"]

end Settings

end LinkTrials
