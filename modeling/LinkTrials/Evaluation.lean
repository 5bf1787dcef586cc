import LinkTrials.Percentile
import LinkTrials.Report.Basic
import LinkTrials.Samples
import LinkTrials.Settings.Basic
import LinkTrials.Timeouts

/-!
Samples held against targets.

Every series with a sample is scored: latencies by the share that is below the timeout of their
phase, throughputs by a percentile. Every series that should have samples is checked for how many
there are; a series that no trial measured is left out of this, unless trials said that they expect
it.
-/
namespace LinkTrials

/-- What samples are held against. -/
structure Evaluator where
  settings : Settings
  firstRound : PhaseTimeouts := {}
  secondRound : PhaseTimeouts := {}
deriving DecidableEq

namespace Evaluator

def withRound (e : Evaluator) (round : Round) (timeouts : PhaseTimeouts) : Evaluator :=
  match round with
  | .first => { e with firstRound := timeouts }
  | .second => { e with secondRound := timeouts }

def timeout? (e : Evaluator) : Series → Option Span
  | .firstDiscovery => some (e.firstRound.resolvedDiscovery .first)
  | .firstConnection => some (e.firstRound.connectionBudget .first)
  | .secondDiscovery => some (e.secondRound.resolvedDiscovery .second)
  | .secondConnection => some (e.secondRound.connectionBudget .second)
  | .mediumUpgrade => some mediumUpgradeTimeout
  | .discovererWlan | .advertiserWlan => some wlanTimeout
  | .btThroughput | .wifiThroughput => none

def benchmark? (e : Evaluator) : Series → Option Benchmark
  | .btThroughput => some (e.settings.benchmark .bt)
  | .wifiThroughput => some e.settings.upgradedBenchmark
  | _ => none

/-- The share that `part` has in `whole`. -/
def share (part whole : Nat) : Binary64 := .ofNat part / .ofNat whole

/-- Whether enough of the expected samples of a series are there. -/
def reachCheck (e : Evaluator) (m : Samples) (s : Series) : Check :=
  let rate := share (m.sampleCount s) (m.expectedCount s)
  { name := s.name ++ "_reach"
    series := s
    aspect := .reach
    sampleCount := m.sampleCount s
    expectedCount := m.expectedCount s
    rate := rate
    goal := e.settings.reachTarget
    passed := Binary64.le e.settings.reachTarget rate
    figure := none }

/-- Whether enough of the latencies of a series are below a timeout. -/
def latencyCheck (e : Evaluator) (m : Samples) (s : Series) (timeout : Span) : Check :=
  let latencies := (m.latencies s).toList
  let rate := share (latencies.countP fun d => d.shorter timeout) latencies.length
  { name := s.name ++ "_success"
    series := s
    aspect := .latency
    sampleCount := latencies.length
    expectedCount := m.expectedCount s
    rate := rate
    goal := e.settings.successTarget
    passed := Binary64.le e.settings.successTarget rate
    figure := percentile (m.values s).toList 50 }

/-- Whether a percentile of the throughputs of a series reaches a benchmark; `observed` is that
percentile. -/
def throughputCheck (m : Samples) (s : Series) (b : Benchmark) (observed : Binary64) : Check :=
  { name := s.name ++ s!"_p{b.percentile}"
    series := s
    aspect := .throughput
    sampleCount := (m.values s).size
    expectedCount := m.expectedCount s
    rate := observed
    goal := b.kbs
    passed := Binary64.le b.kbs observed
    figure := some observed }

def latencyScore (e : Evaluator) (m : Samples) (s : Series) : Option Check :=
  match e.timeout? s with
  | none => none
  | some timeout => if (m.latencies s).isEmpty then none else some (e.latencyCheck m s timeout)

def throughputScore (e : Evaluator) (m : Samples) (s : Series) : Option Check :=
  match e.benchmark? s with
  | none => none
  | some b => (percentile (m.values s).toList (.ofNat b.percentile)).map (throughputCheck m s b)

def score (e : Evaluator) (m : Samples) (s : Series) : Option Check :=
  if s.isThroughput then e.throughputScore m s else e.latencyScore m s

/-- A series is checked for how many of its expected samples there are. -/
def isReachChecked (m : Samples) (s : Series) : Bool :=
  decide (0 < m.expectedCount s) && (s.isGated || decide (0 < m.sampleCount s))

/-- The checks of one series. -/
def seriesChecks (e : Evaluator) (m : Samples) (s : Series) : List Check :=
  (if isReachChecked m s then [e.reachCheck m s] else []) ++
    if m.sampleCount s = 0 then [] else (e.score m s).toList

/-- The checks of all series in the order of reports. -/
def checks (e : Evaluator) (m : Samples) : List Check := Series.all.flatMap (e.seriesChecks m)

/-- The sum of a count over the series that are checked for how many samples there are. -/
def reachTotal (m : Samples) (count : Series → Nat) : Nat :=
  (Series.all.filter (isReachChecked m)).foldr (fun s total => count s + total) 0

/-- What the checks amount to, given how many samples there are of how many that were expected. -/
def totals (e : Evaluator) (checks : List Check) (samples expected : Nat) : Totals :=
  let scored := checks.filter fun c => c.aspect != .reach
  -- Without any check the totals are those of an empty report.
  if expected = 0 ∧ scored = [] then {}
  else
    let reachRate := if expected = 0 then 0 else share samples expected
    let successRate :=
      if scored = [] then 0 else share (scored.countP fun c => c.passed) scored.length
    { reached := decide (0 < expected) && Binary64.le e.settings.reachTarget reachRate
      reachRate := reachRate
      successRate := successRate }

/-- The verdict on some samples. -/
def evaluate (e : Evaluator) (m : Samples) (now : Instant) : Report :=
  let checks := e.checks m
  { label := e.settings.label
    trialCount := m.trialCount
    totals := e.totals checks (reachTotal m m.sampleCount) (reachTotal m m.expectedCount)
    checks := checks
    misses := checks.filterMap Check.miss?
    unsampled := Series.all.filter fun s => m.sampleCount s == 0
    generatedAt := now }

end Evaluator

end LinkTrials
