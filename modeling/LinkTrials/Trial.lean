import LinkTrials.Setup

/-!
The record of one trial: two devices find each other, connect, transfer data, connect again over a
better medium and transfer data again.
-/
namespace LinkTrials

/-- Everything measured in one trial. -/
structure Trial where
  first : Setup := {}
  /-- Throughput of the first connection in KB/s. -/
  btThroughput : Option Binary64 := none
  /-- Time in which the discovering device joined a wireless network. -/
  discovererWlan : Option Span := none
  second : Setup := {}
  /-- Throughput of the second connection in KB/s. -/
  wifiThroughput : Option Binary64 := none
  /-- Time in which the advertising device joined a wireless network. -/
  advertiserWlan : Option Span := none
  discovererWlanExpected : Bool := false
  advertiserWlanExpected : Bool := false
deriving DecidableEq

namespace Trial

/-- A throughput behind its label, only if there is one. -/
def throughputText (label : String) : Option Binary64 → String
  | some x => ", " ++ label ++ ": " ++ x.fixed 1 ++ "KB/s"
  | none => ""

def toText (t : Trial) : String :=
  "1st connection: " ++ t.first.toText ++ throughputText "bt" t.btThroughput ++
    "; 2nd connection: " ++ t.second.toText ++ throughputText "wifi" t.wifiThroughput

def schema : Json.Schema Trial where
  title := "struct SingleTestResult"
  lengthTitle := Json.Schema.elementsTitle "struct SingleTestResult" 8
  blank := {}
  members :=
    [.of "first_connection_setup_quality_info" .defaulted Setup.decoder
       fun s t => { t with first := s },
     .of "first_bt_transfer_throughput_kbs" .defaulted Measured.throughputDecoder
       fun x t => { t with btThroughput := x },
     .of "discoverer_wifi_wlan_latency" .defaulted Measured.latencyDecoder
       fun d t => { t with discovererWlan := d },
     .of "second_connection_setup_quality_info" .defaulted Setup.decoder
       fun s t => { t with second := s },
     .of "second_wifi_transfer_throughput_kbs" .defaulted Measured.throughputDecoder
       fun x t => { t with wifiThroughput := x },
     .of "advertiser_wifi_wlan_latency" .defaulted Measured.latencyDecoder
       fun d t => { t with advertiserWlan := d },
     .of "discoverer_wifi_wlan_expected" .defaulted .bool
       fun b t => { t with discovererWlanExpected := b },
     .of "advertiser_wifi_wlan_expected" .defaulted .bool
       fun b t => { t with advertiserWlanExpected := b }]

def decoder : Json.Decoder Trial := schema.decode

def toJson (t : Trial) : Json :=
  .object
    [("first_connection_setup_quality_info", t.first.toJson),
     ("first_bt_transfer_throughput_kbs", Measured.throughputToJson t.btThroughput),
     ("discoverer_wifi_wlan_latency", Measured.latencyToJson t.discovererWlan),
     ("second_connection_setup_quality_info", t.second.toJson),
     ("second_wifi_transfer_throughput_kbs", Measured.throughputToJson t.wifiThroughput),
     ("advertiser_wifi_wlan_latency", Measured.latencyToJson t.advertiserWlan),
     ("discoverer_wifi_wlan_expected", .bool t.discovererWlanExpected),
     ("advertiser_wifi_wlan_expected", .bool t.advertiserWlanExpected)]

end Trial

end LinkTrials
