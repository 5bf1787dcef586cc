import LinkTrials.Series
import LinkTrials.Trial

/-!
The samples of a run of trials, one array for each series, and how many samples were expected.

A trial appends at most one sample to a series. What it did not measure is left out, so that an
array holds only real samples, in the order of the trials.
-/
namespace LinkTrials

/-- The samples of the trials of a run. -/
structure Samples where
  firstDiscovery : Array Span := #[]
  firstConnection : Array Span := #[]
  discovererWlan : Array Span := #[]
  btThroughput : Array Binary64 := #[]
  secondDiscovery : Array Span := #[]
  secondConnection : Array Span := #[]
  mediumUpgrade : Array Span := #[]
  advertiserWlan : Array Span := #[]
  wifiThroughput : Array Binary64 := #[]
  trialCount : Nat := 0
  discovererWlanExpected : Nat := 0
  mediumUpgradeExpected : Nat := 0
  advertiserWlanExpected : Nat := 0
deriving DecidableEq

namespace Samples

def empty : Samples := {}

/-- A sample at the end of a series, if there is one. -/
def append {α : Type} (series : Array α) : Option α → Array α
  | some a => series.push a
  | none => series

/-- A sample of a series that the trial may not expect to have one. -/
def appendIf {α : Type} (expected : Bool) (series : Array α) (sample : Option α) : Array α :=
  if expected then append series sample else series

def record (m : Samples) (t : Trial) : Samples where
  firstDiscovery := append m.firstDiscovery t.first.discovery
  firstConnection := append m.firstConnection t.first.connection
  discovererWlan := appendIf t.discovererWlanExpected m.discovererWlan t.discovererWlan
  btThroughput := append m.btThroughput t.btThroughput
  secondDiscovery := append m.secondDiscovery t.second.discovery
  secondConnection := append m.secondConnection t.second.connection
  mediumUpgrade := appendIf t.second.upgradeExpected m.mediumUpgrade t.second.upgrade
  advertiserWlan := appendIf t.advertiserWlanExpected m.advertiserWlan t.advertiserWlan
  wifiThroughput := append m.wifiThroughput t.wifiThroughput
  trialCount := m.trialCount + 1
  discovererWlanExpected := m.discovererWlanExpected + t.discovererWlanExpected.toNat
  mediumUpgradeExpected := m.mediumUpgradeExpected + t.second.upgradeExpected.toNat
  advertiserWlanExpected := m.advertiserWlanExpected + t.advertiserWlanExpected.toNat

def extend (m : Samples) (trials : List Trial) : Samples := trials.foldl record m

def ofTrials (trials : List Trial) : Samples := empty.extend trials

/-- Ready for another run. -/
def clear (_ : Samples) : Samples := empty

def isEmpty (m : Samples) : Bool := m.trialCount == 0

/-- How many trials should have given a sample of a series. -/
def expectedCount (m : Samples) : Series → Nat
  | .discovererWlan => m.discovererWlanExpected
  | .mediumUpgrade => m.mediumUpgradeExpected
  | .advertiserWlan => m.advertiserWlanExpected
  | _ => m.trialCount

/-- The samples of a series of latencies; a series of throughputs has none. -/
def latencies (m : Samples) : Series → Array Span
  | .firstDiscovery => m.firstDiscovery
  | .firstConnection => m.firstConnection
  | .discovererWlan => m.discovererWlan
  | .secondDiscovery => m.secondDiscovery
  | .secondConnection => m.secondConnection
  | .mediumUpgrade => m.mediumUpgrade
  | .advertiserWlan => m.advertiserWlan
  | .btThroughput | .wifiThroughput => #[]

def sampleCount (m : Samples) : Series → Nat
  | .btThroughput => m.btThroughput.size
  | .wifiThroughput => m.wifiThroughput.size
  | latency => (m.latencies latency).size

/-- The samples of a series as numbers: latencies in seconds, throughputs in KB/s. -/
def values (m : Samples) : Series → Array Binary64
  | .btThroughput => m.btThroughput
  | .wifiThroughput => m.wifiThroughput
  | latency => (m.latencies latency).map Span.toSeconds

def valuesToJson (m : Samples) (s : Series) : Json := .list ((m.values s).toList.map Json.ofReal)

def toJson (m : Samples) : Json :=
  .object
    ((Series.all.map fun s => (s.name, m.valuesToJson s)) ++
      [("trial_count", .ofNat m.trialCount),
       ("discoverer_wifi_wlan_expected_count", .ofNat m.discovererWlanExpected),
       ("medium_upgrade_expected_count", .ofNat m.mediumUpgradeExpected),
       ("advertiser_wifi_wlan_expected_count", .ofNat m.advertiserWlanExpected)])

end Samples

end LinkTrials
