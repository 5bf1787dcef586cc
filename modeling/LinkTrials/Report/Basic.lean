import LinkTrials.Instant
import LinkTrials.Json.Schema
import LinkTrials.Series

/-!
The verdict on a run: every target that was checked, those that were missed, and the totals.
-/
namespace LinkTrials

/-- What a check is about. -/
inductive Aspect where
  /-- The share of expected samples that there are. -/
  | reach
  /-- The share of latencies below their timeout. -/
  | latency
  /-- A percentile of the throughputs. -/
  | throughput
deriving DecidableEq, Repr

/-- A target that was missed. -/
structure Miss where
  name : String
  rate : Binary64
  goal : Binary64
deriving DecidableEq

/-- One target held against the samples of a series. -/
structure Check where
  name : String
  series : Series
  aspect : Aspect
  sampleCount : Nat
  expectedCount : Nat
  rate : Binary64
  goal : Binary64
  passed : Bool
  /-- A figure that characterises the samples: a median latency or the throughput compared. -/
  figure : Option Binary64
deriving DecidableEq

/-- What all checks of a run amount to. -/
structure Totals where
  /-- Enough of all expected samples are there. -/
  reached : Bool := false
  reachRate : Binary64 := 0
  /-- The share of the checks of latencies and throughputs that passed. -/
  successRate : Binary64 := 0
deriving DecidableEq

/-- The verdict on a run. -/
structure Report where
  /-- The name of the run. -/
  label : String
  trialCount : Nat
  totals : Totals
  checks : List Check
  misses : List Miss
  /-- The series without a sample. -/
  unsampled : List Series
  generatedAt : Instant
deriving DecidableEq

/-- The target of a check that did not pass. -/
def Check.miss? (c : Check) : Option Miss :=
  if c.passed then none else some ⟨c.name, c.rate, c.goal⟩

/-- One line for people. -/
def Miss.toText (m : Miss) : String := s!"{m.name}: {m.rate.fixed 3} (goal {m.goal.fixed 3})"

namespace Report

/-- No target was missed, and enough of all samples are there. -/
def passed (r : Report) : Bool := r.misses.isEmpty && r.totals.reached

/-- The first check with a name. -/
def check? (r : Report) (name : String) : Option Check := r.checks.find? fun c => c.name == name

/-- What a program that ends with this report tells its caller. -/
def exitCode (r : Report) : Nat := if r.passed then 0 else 7

end Report

end LinkTrials
