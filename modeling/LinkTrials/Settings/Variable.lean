import LinkTrials.Settings.Basic

/-!
Settings taken from environment variables.

Each setting has one variable. The text of a variable is first held against the rules of its
setting and then stored; `Settings.merge` goes through the variables in a fixed order and stops at
the first text that breaks a rule, with the settings before it already stored.
-/
namespace LinkTrials

/-- The variables of the settings. -/
inductive Variable where
  | label
  | failFast
  | countryCode
  | ssid
  | password
  | toggleAirplaneMode
  | disconnectWifi
  | btBenchmark
  | btPercentile
  | wifiBenchmark
  | wifiPercentile
  | payload
  | medium
  | manner
  | successTarget
  | reachTarget
deriving DecidableEq, Repr

namespace Variable

/-- Every variable in the order in which they are looked at. -/
def all : List Variable :=
  [.label, .failFast, .countryCode, .ssid, .password, .toggleAirplaneMode, .disconnectWifi,
   .btBenchmark, .btPercentile, .wifiBenchmark, .wifiPercentile, .payload, .medium, .manner,
   .successTarget, .reachTarget]

def name : Variable → String
  | .label => "NC_TEST_REPORT_ALIAS_NAME"
  | .failFast => "NC_FAST_FAIL_ON_ANY_ERROR"
  | .countryCode => "NC_WIFI_COUNTRY_CODE"
  | .ssid => "NC_WIFI_SSID"
  | .password => "NC_WIFI_PASSWORD"
  | .toggleAirplaneMode => "NC_TOGGLE_AIRPLANE_MODE_TARGET_SIDE"
  | .disconnectWifi => "NC_DISCONNECT_WIFI_AFTER_TEST"
  | .btBenchmark => "NC_BT_THROUGHPUT_BENCHMARK_KBS"
  | .btPercentile => "NC_BT_THROUGHPUT_PERCENTILE"
  | .wifiBenchmark => "NC_WIFI_THROUGHPUT_BENCHMARK_KBS"
  | .wifiPercentile => "NC_WIFI_THROUGHPUT_PERCENTILE"
  | .payload => "NC_PAYLOAD_TYPE"
  | .medium => "NC_UPGRADE_MEDIUM"
  | .manner => "NC_MEDIUM_UPGRADE_TYPE"
  | .successTarget => "NC_SUCCESS_RATE_TARGET"
  | .reachTarget => "NC_REACH_RATE_TARGET"

/-- What the variable sets, in a few words. -/
def description : Variable → String
  | .label => "Name used to tag the run in reports"
  | .failFast => "Abort on the first failed trial"
  | .countryCode => "Two-letter WiFi country code"
  | .ssid => "WiFi network name"
  | .password => "WiFi network password"
  | .toggleAirplaneMode => "Toggle airplane mode before each trial"
  | .disconnectWifi => "Disconnect WiFi after the run"
  | .btBenchmark => "Minimum BT throughput in KB/s"
  | .btPercentile => "Percentile compared against the BT benchmark (0-100)"
  | .wifiBenchmark => "Minimum WiFi throughput in KB/s"
  | .wifiPercentile => "Percentile compared against the WiFi benchmark (0-100)"
  | .payload => "Payload used for throughput (FILE, STREAM)"
  | .medium => "Medium requested for the upgraded connection"
  | .manner => "How the upgrade is carried out"
  | .successTarget => "Required share of latencies under timeout (0-1)"
  | .reachTarget => "Required share of expected events observed (0-1)"

/-- A text that the variable may have. -/
def sample : Variable → String
  | .label => "lab-a"
  | .failFast => "false"
  | .countryCode => "US"
  | .ssid => "lab-network"
  | .password => "secret"
  | .toggleAirplaneMode => "true"
  | .disconnectWifi => "false"
  | .btBenchmark => "10.0"
  | .btPercentile => "95"
  | .wifiBenchmark => "10240.0"
  | .wifiPercentile => "95"
  | .payload => "STREAM"
  | .medium => "UPGRADE_TO_ALL_WIFI"
  | .manner => "DEFAULT"
  | .successTarget => "0.98"
  | .reachTarget => "0.95"

def ofName? (name : String) : Option Variable := all.find? fun v => v.name == name

/-- What is wrong with the text of a variable. -/
inductive Fault where
  | blankLabel
  /-- No value of the kind of the setting. -/
  | unreadable (v : Variable) (text reason : String)
  | countryCode (text : String)
  | notBound (v : Variable) (text : String)
  | percentile (v : Variable) (percentile : Nat)
  | notShare (v : Variable) (text : String)
  /-- Neither a code nor a name of the kind of the setting. -/
  | coded (fault : Coded.Fault)
deriving DecidableEq, Repr

def Fault.message : Fault → String
  | .blankLabel => Variable.label.name ++ " cannot be empty"
  | .unreadable v text reason => s!"Invalid {v.name} value '{text}': {reason}"
  | .countryCode text =>
    Variable.countryCode.name ++ s!" must be a two-letter code, got: {text}"
  | .notBound v text => s!"{v.name} must be a non-negative number, got: {text}"
  | .percentile v p => s!"{v.name} must be between 0 and 100, got: {p}"
  | .notShare v text => s!"{v.name} must be between 0.0 and 1.0, got: {text}"
  | .coded fault => fault.toFault.text

def Fault.toFault (fault : Fault) : LinkTrials.Fault := .config fault.message

/-! ### Rules -/

/-- Two letters, or nothing at all. -/
def isCountryCode (cs : List Char) : Bool :=
  cs.isEmpty || (cs.length == 2 && cs.all Char.isAlpha)

def checkBool (v : Variable) (text : String) : Except Fault Unit :=
  match Text.readBool text with
  | .ok _ => .ok ()
  | .error fault => .error (.unreadable v text fault.message)

def checkBenchmark (v : Variable) (text : String) : Except Fault Unit :=
  match Text.readNumber text with
  | .ok x => if x.isBound then .ok () else .error (.notBound v text)
  | .error fault => .error (.unreadable v text fault.message)

def checkPercentile (v : Variable) (text : String) : Except Fault Unit :=
  match Text.readNat 255 text with
  | .ok p => if p ≤ 100 then .ok () else .error (.percentile v p)
  | .error fault => .error (.unreadable v text fault.message)

def checkRate (v : Variable) (text : String) : Except Fault Unit :=
  match Text.readNumber text with
  | .ok x => if x.isShare then .ok () else .error (.notShare v text)
  | .error fault => .error (.unreadable v text fault.message)

def checkCoded (α : Type) [Coded α] (text : String) : Except Fault Unit :=
  match (Coded.ofText text : Except Coded.Fault α) with
  | .ok _ => .ok ()
  | .error fault => .error (.coded fault)

/-- The rule of a variable for its text, blanks around it left aside. -/
def check (v : Variable) (raw : String) : Except Fault Unit :=
  let text := Text.trim raw
  match v with
  | .label => if text.isEmpty then .error .blankLabel else .ok ()
  | .failFast | .toggleAirplaneMode | .disconnectWifi => v.checkBool text
  | .countryCode => if isCountryCode text.toList then .ok () else .error (.countryCode text)
  | .ssid | .password => .ok ()
  | .btBenchmark | .wifiBenchmark => v.checkBenchmark text
  | .btPercentile | .wifiPercentile => v.checkPercentile text
  | .payload => checkCoded Payload text
  | .medium => checkCoded Medium text
  | .manner => checkCoded UpgradeManner text
  | .successTarget | .reachTarget => v.checkRate text

/-! ### Storing -/

/-- A text stored as what `read` makes of it. -/
def storeAs {α : Type} (v : Variable) (raw : String) (read : String → Except String α)
    (set : α → Settings) : Except Fault Settings :=
  match read (Text.trim raw) with
  | .ok a => .ok (set a)
  | .error reason => .error (.unreadable v raw reason)

def readBool (text : String) : Except String Bool :=
  (Text.readBool text).mapError Text.BoolFault.message

def readNumber (text : String) : Except String Binary64 :=
  (Text.readNumber text).mapError Text.NumberFault.message

def readPercentile (text : String) : Except String Nat :=
  (Text.readNat 255 text).mapError Text.IntegerFault.message

def readCoded {α : Type} [Coded α] (text : String) : Except String α :=
  (Coded.ofText text).mapError fun fault => fault.toFault.text

/-- The settings with the one of a variable replaced by its text. The name of the network and its
password are taken as they are. -/
def store (v : Variable) (raw : String) (s : Settings) : Except Fault Settings :=
  match v with
  | .label => .ok { s with label := Text.trim raw }
  | .failFast => v.storeAs raw readBool fun b => { s with failFast := b }
  | .countryCode => .ok { s with countryCode := Text.trim raw }
  | .ssid => .ok { s with ssid := raw }
  | .password => .ok { s with password := raw }
  | .toggleAirplaneMode => v.storeAs raw readBool fun b => { s with toggleAirplaneMode := b }
  | .disconnectWifi => v.storeAs raw readBool fun b => { s with disconnectWifi := b }
  | .btBenchmark => v.storeAs raw readNumber fun x => { s with btBenchmark := x }
  | .btPercentile => v.storeAs raw readPercentile fun p => { s with btPercentile := p }
  | .wifiBenchmark => v.storeAs raw readNumber fun x => { s with wifiBenchmark := x }
  | .wifiPercentile => v.storeAs raw readPercentile fun p => { s with wifiPercentile := p }
  | .payload => v.storeAs raw readCoded fun p => { s with payload := p }
  | .medium => v.storeAs raw readCoded fun m => { s with medium := m }
  | .manner => v.storeAs raw readCoded fun m => { s with manner := m }
  | .successTarget => v.storeAs raw readNumber fun x => { s with successTarget := x }
  | .reachTarget => v.storeAs raw readNumber fun x => { s with reachTarget := x }

/-- The settings with the one of a variable replaced, if its text keeps the rule. -/
def apply (v : Variable) (raw : String) (s : Settings) : Except Fault Settings :=
  match v.check raw with
  | .ok _ => v.store raw s
  | .error fault => .error fault

end Variable

namespace Settings

/-- Some variables stored one after the other, up to the first fault. `lookup` gives the text of a
variable that is set. -/
def mergeFrom (lookup : String → Option String) :
    List Variable → Settings → Settings × Except Variable.Fault Unit
  | [], s => (s, .ok ())
  | v :: rest, s =>
    match lookup v.name with
    | none => mergeFrom lookup rest s
    | some raw =>
      match v.apply raw s with
      | .ok changed => mergeFrom lookup rest changed
      | .error fault => (s, .error fault)

/-- The settings with every variable stored that is set. -/
def merge (lookup : String → Option String) (s : Settings) :
    Settings × Except Variable.Fault Unit :=
  mergeFrom lookup Variable.all s

end Settings

end LinkTrials
