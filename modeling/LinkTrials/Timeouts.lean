import LinkTrials.Json.Schema
import LinkTrials.Span

/-!
How long each phase of setting up a connection may take.

A trial connects twice. A phase without a timeout of its own has the default of its round, which
is neither zero nor unbounded.
-/
namespace LinkTrials

/-- The first or the second connection of a trial. -/
inductive Round where
  /-- The initial connection. -/
  | first
  /-- The reconnection, which changes the medium. -/
  | second
deriving DecidableEq, Repr

namespace Round

def defaultDiscovery : Round → Span
  | .first => .ofSecs 15
  | .second => .ofSecs 25

def defaultInit : Round → Span
  | .first => .ofSecs 30
  | .second => .ofSecs 10

def defaultResult : Round → Span
  | .first => .ofSecs 35
  | .second => .ofSecs 25

def decoder : Json.Decoder Round := .variant [("first", .first), ("second", .second)]

end Round

/-- Time allowed for a change of medium. -/
def mediumUpgradeTimeout : Span := .ofSecs 25

/-- Time allowed for joining a wireless network. -/
def wlanTimeout : Span := .ofSecs 25

/-- Timeouts of one connection setup; a missing one is the default of the round. -/
structure PhaseTimeouts where
  discovery : Option Span := none
  init : Option Span := none
  result : Option Span := none
deriving DecidableEq

namespace PhaseTimeouts

/-- The defaults of a round, all of them written out. -/
def ofRound (r : Round) : PhaseTimeouts :=
  ⟨some r.defaultDiscovery, some r.defaultInit, some r.defaultResult⟩

def withDiscovery (d : Span) (t : PhaseTimeouts) : PhaseTimeouts := { t with discovery := some d }

def withInit (d : Span) (t : PhaseTimeouts) : PhaseTimeouts := { t with init := some d }

def withResult (d : Span) (t : PhaseTimeouts) : PhaseTimeouts := { t with result := some d }

def resolvedDiscovery (t : PhaseTimeouts) (r : Round) : Span := t.discovery.getD r.defaultDiscovery

def resolvedInit (t : PhaseTimeouts) (r : Round) : Span := t.init.getD r.defaultInit

def resolvedResult (t : PhaseTimeouts) (r : Round) : Span := t.result.getD r.defaultResult

/-- The longest time that a connection may take: the wait for its start and then that for its
result. -/
def connectionBudget (t : PhaseTimeouts) (r : Round) : Span :=
  (t.resolvedInit r).addOrMax (t.resolvedResult r)

end PhaseTimeouts

namespace Span

/-- A span as it is read: parts that may still have to be carried over. -/
structure Parts where
  secs : Nat := 0
  nanos : Nat := 0

/-- A span as an object of seconds and nanoseconds. -/
def schema : Json.Schema Parts where
  title := "struct Duration"
  lengthTitle := "struct Duration"
  blank := {}
  strict := true
  members :=
    [.of "secs" .required (.natural (UInt64.size - 1) "u64") fun n p => { p with secs := n },
     .of "nanos" .required (.natural (UInt32.size - 1) "u32") fun n p => { p with nanos := n }]
  check p :=
    if (ofParts? p.secs p.nanos).isSome then .ok ()
    else .error (.refused "overflow deserializing Duration")

def decoder : Json.Decoder Span := fun depth r =>
  (schema.decode depth r).map fun p => (ofParts? p.secs p.nanos).getD max

def toJson (d : Span) : Json := .object [("secs", .ofNat d.secs), ("nanos", .ofNat d.nanos)]

end Span

namespace PhaseTimeouts

def schema : Json.Schema PhaseTimeouts where
  title := "struct ConnectionSetupTimeouts"
  lengthTitle := Json.Schema.elementsTitle "struct ConnectionSetupTimeouts" 3
  blank := {}
  members :=
    [.of "discovery_timeout" .nullable (.optional Span.decoder)
       fun d t => { t with discovery := d },
     .of "connection_init_timeout" .nullable (.optional Span.decoder)
       fun d t => { t with init := d },
     .of "connection_result_timeout" .nullable (.optional Span.decoder)
       fun d t => { t with result := d }]

def decoder : Json.Decoder PhaseTimeouts := schema.decode

def toJson (t : PhaseTimeouts) : Json :=
  .object
    [("discovery_timeout", .ofOption Span.toJson t.discovery),
     ("connection_init_timeout", .ofOption Span.toJson t.init),
     ("connection_result_timeout", .ofOption Span.toJson t.result)]

end PhaseTimeouts

end LinkTrials
