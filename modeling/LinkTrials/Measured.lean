import LinkTrials.Json.Decode
import LinkTrials.Span

/-!
Measured values in JSON texts: latencies in seconds and throughputs in KB/s.

A value that was not measured is `null`. Older files mark it by a number that no measurement gives:
a latency of 999999999 days or more, or a throughput below zero.
-/
namespace LinkTrials.Measured

/-- The latency from which on a number marks a missing measurement: 999999999 days in seconds. -/
def unsetSeconds : Binary64 := .ofNat (999999999 * 86400)

/-- What a number of seconds says about a latency. -/
def latencyOfSeconds (x : Binary64) : Except String (Option Span) :=
  if Binary64.le unsetSeconds x then .ok none
  else
    match Span.ofSeconds x with
    | .ok d => .ok (some d)
    | .error fault => .error s!"invalid latency {x.text}s: {fault.message}"

/-- What a number of KB/s says about a throughput. -/
def throughputOfNumber (x : Binary64) : Except String (Option Binary64) :=
  if x.isNaN then .error "throughput cannot be NaN"
  else .ok (if Binary64.lt x 0 then none else some x)

def latencyDecoder : Json.Decoder (Option Span) :=
  Json.Decoder.checked (.optional .real) fun
    | none => .ok none
    | some x => latencyOfSeconds x

def throughputDecoder : Json.Decoder (Option Binary64) :=
  Json.Decoder.checked (.optional .real) fun
    | none => .ok none
    | some x => throughputOfNumber x

def latencyToJson (latency : Option Span) : Json :=
  .ofOption (fun d : Span => .ofReal d.toSeconds) latency

def throughputToJson (throughput : Option Binary64) : Json := .ofOption .ofReal throughput

end LinkTrials.Measured
