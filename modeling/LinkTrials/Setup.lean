import LinkTrials.Json.Schema
import LinkTrials.Measured
import LinkTrials.Medium

/-!
How one connection was set up: the latencies of its phases and the medium on which it ended.
-/
namespace LinkTrials

/-- What was observed while a connection was set up. -/
structure Setup where
  /-- Time until the other device was found. -/
  discovery : Option Span := none
  /-- Time from the request to the result of the connection. -/
  connection : Option Span := none
  /-- Time until the change of medium was complete. -/
  upgrade : Option Span := none
  /-- The trial was to change the medium. -/
  upgradeExpected : Bool := false
  /-- The medium after the change. -/
  carrier : Option Carrier := none
deriving DecidableEq

namespace Setup

/-- A change of medium was expected and took place. -/
def upgradeReached (s : Setup) : Bool := s.upgradeExpected && s.upgrade.isSome

/-- A latency in seconds with one digit behind the point. -/
def secondsText (d : Span) : String := d.toSeconds.fixed 1 ++ "s"

/-- A latency of which a reader wants to see that it is missing. -/
def latencyText : Option Span → String
  | some d => secondsText d
  | none => "n/a"

/-- The latency of a change of medium, only if there is one. -/
def upgradeText : Option Span → String
  | some d => ", upgrade:" ++ secondsText d
  | none => ""

/-- The medium, if it is known. -/
def carrierText : Option Carrier → String
  | none | some .unknown => ""
  | some carrier => ", medium: " ++ Coded.name carrier

def toText (s : Setup) : String :=
  "discovery: " ++ latencyText s.discovery ++ ", connection: " ++ latencyText s.connection ++
    upgradeText s.upgrade ++ carrierText s.carrier

def schema : Json.Schema Setup where
  title := "struct ConnectionSetupQualityInfo"
  lengthTitle := Json.Schema.elementsTitle "struct ConnectionSetupQualityInfo" 5
  blank := {}
  members :=
    [.of "discovery_latency" .defaulted Measured.latencyDecoder
       fun d s => { s with discovery := d },
     .of "connection_latency" .defaulted Measured.latencyDecoder
       fun d s => { s with connection := d },
     .of "medium_upgrade_latency" .defaulted Measured.latencyDecoder
       fun d s => { s with upgrade := d },
     .of "medium_upgrade_expected" .defaulted .bool fun b s => { s with upgradeExpected := b },
     .of "upgrade_medium" .defaulted (.optional Coded.decoder) fun c s => { s with carrier := c }]

def decoder : Json.Decoder Setup := schema.decode

def toJson (s : Setup) : Json :=
  .object
    [("discovery_latency", Measured.latencyToJson s.discovery),
     ("connection_latency", Measured.latencyToJson s.connection),
     ("medium_upgrade_latency", Measured.latencyToJson s.upgrade),
     ("medium_upgrade_expected", .bool s.upgradeExpected),
     ("upgrade_medium", .ofOption Coded.toJson s.carrier)]

end Setup

end LinkTrials
