import LinkTrials.Json.Decode

/-!
The nine series of samples that a run of trials gives, in the order in which reports list them.
-/
namespace LinkTrials

/-- A series of samples. -/
inductive Series where
  | firstDiscovery
  | firstConnection
  | discovererWlan
  | btThroughput
  | secondDiscovery
  | secondConnection
  | mediumUpgrade
  | advertiserWlan
  | wifiThroughput
deriving DecidableEq, Repr

namespace Series

/-- Every series in the order of reports. -/
def all : List Series :=
  [.firstDiscovery, .firstConnection, .discovererWlan, .btThroughput, .secondDiscovery,
   .secondConnection, .mediumUpgrade, .advertiserWlan, .wifiThroughput]

def name : Series → String
  | .firstDiscovery => "first_discovery_latencies"
  | .firstConnection => "first_connection_latencies"
  | .discovererWlan => "discoverer_wifi_wlan_latencies"
  | .btThroughput => "bt_transfer_throughputs_kbs"
  | .secondDiscovery => "second_discovery_latencies"
  | .secondConnection => "second_connection_latencies"
  | .mediumUpgrade => "second_medium_upgrade_latencies"
  | .advertiserWlan => "advertiser_wifi_wlan_latencies"
  | .wifiThroughput => "wifi_transfer_throughputs_kbs"

/-- Samples are throughputs in KB/s; those of the other series are latencies. -/
def isThroughput : Series → Bool
  | .btThroughput | .wifiThroughput => true
  | _ => false

/-- Each trial says by a flag of its own whether a sample is expected. -/
def isGated : Series → Bool
  | .discovererWlan | .mediumUpgrade | .advertiserWlan => true
  | _ => false

def toJson (s : Series) : Json := .string s.name

def decoder : Json.Decoder Series := .variant (all.map fun s => (s.name, s))

end Series

end LinkTrials
