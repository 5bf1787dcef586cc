import LinkTrials.Proofs.Evaluation.Reordering

/-!
What the checks of a series depend on.

They are made from the samples of that series, its expected count, the two shares that are targets and
the one limit that goes with its kind: a timeout or a benchmark. So evaluators and samples that agree on
these give the same checks of the series, whatever else differs. Settings that are no target, no
benchmark and no name leave no trace in a report, and the timeouts of a round show only in how many
latencies of that round were short enough.
-/
namespace LinkTrials

/-- The series whose timeouts a round has. -/
def Round.timed : Round → List Series
  | .first => [.firstDiscovery, .firstConnection]
  | .second => [.secondDiscovery, .secondConnection]

/-- The second check differs at most in how many of the latencies of a round were short enough. -/
def Check.Retimed (round : Round) (c d : Check) : Prop :=
  d = c ∨ c.aspect = .latency ∧ c.series ∈ round.timed ∧
    d = { c with rate := d.rate, passed := d.passed }

namespace Evaluator

open Samples

/-- All that the checks of a series are made from is the same for both evaluators and samples. -/
structure AgreesOn (s : Series) (e : Evaluator) (m : Samples) (e' : Evaluator) (n : Samples) :
    Prop where
  latencies : m.latencies s = n.latencies s
  values : m.values s = n.values s
  expectedCount : m.expectedCount s = n.expectedCount s
  rateTarget : ∀ target, e.settings.rateTarget target = e'.settings.rateTarget target
  timeout : e.timeout? s = e'.timeout? s
  benchmark : e.benchmark? s = e'.benchmark? s

section Agreement

variable {e e' : Evaluator} {m n : Samples} {s : Series} {c : Check}

theorem AgreesOn.sampleCount (h : AgreesOn s e m e' n) : m.sampleCount s = n.sampleCount s := by
  rw [sampleCount_eq_size_values, sampleCount_eq_size_values, h.values]

theorem AgreesOn.isReachChecked (h : AgreesOn s e m e' n) :
    isReachChecked m s = isReachChecked n s := by
  rw [Evaluator.isReachChecked, Evaluator.isReachChecked, h.sampleCount, h.expectedCount]

theorem AgreesOn.reachCheck (h : AgreesOn s e m e' n) : e.reachCheck m s = e'.reachCheck n s := by
  have goal : e.settings.reachTarget = e'.settings.reachTarget := h.rateTarget .reach
  rw [Evaluator.reachCheck, Evaluator.reachCheck, h.sampleCount, h.expectedCount, goal]

theorem AgreesOn.score (h : AgreesOn s e m e' n) : e.score m s = e'.score n s := by
  rw [Evaluator.score, Evaluator.score]
  split
  · rw [throughputScore, throughputScore, h.benchmark, h.values]
    have check : throughputCheck m s = throughputCheck n s := by
      funext b observed
      rw [throughputCheck, throughputCheck, h.values, h.expectedCount]
    rw [check]
  · have goal : e.settings.successTarget = e'.settings.successTarget := h.rateTarget .success
    have check : e.latencyCheck m s = e'.latencyCheck n s := by
      funext timeout
      rw [latencyCheck, latencyCheck, h.latencies, h.values, h.expectedCount, goal]
    rw [latencyScore, latencyScore, h.timeout, h.latencies, check]

theorem AgreesOn.seriesChecks (h : AgreesOn s e m e' n) :
    e.seriesChecks m s = e'.seriesChecks n s := by
  rw [Evaluator.seriesChecks, Evaluator.seriesChecks, h.isReachChecked, h.reachCheck, h.sampleCount,
    h.score]

theorem series_of_mem_seriesChecks (hc : c ∈ e.seriesChecks m s) : c.series = s := by
  rcases mem_seriesChecks.1 hc with ⟨-, rfl⟩ | ⟨-, scores⟩
  · rfl
  · exact congrArg Prod.fst scores.subject

/-- The checks that belong to a series are the ones made for it. -/
theorem filter_series_checks (e : Evaluator) (m : Samples) (s : Series) :
    (e.checks m).filter (fun c => c.series = s) = e.seriesChecks m s := by
  have own (u : Series) : (e.seriesChecks m u).filter (fun c => c.series = s) =
      if u = s then e.seriesChecks m s else [] := by
    split
    · next same =>
      subst same
      rw [List.filter_eq_self]
      intro c hc
      exact decide_eq_true (series_of_mem_seriesChecks hc)
    · next other =>
      rw [List.filter_eq_nil_iff]
      intro c hc
      rw [series_of_mem_seriesChecks hc, decide_eq_true_eq]
      exact other
  rw [checks, List.filter_flatMap, funext own]
  cases s <;> simp [Series.all]

/-- Evaluators that agree on every series give the same report. -/
theorem evaluate_congr (label : e.settings.label = e'.settings.label)
    (h : ∀ s, AgreesOn s e m e' m) (now : Instant) : e.evaluate m now = e'.evaluate m now := by
  have checks : e.checks m = e'.checks m := by
    rw [Evaluator.checks, Evaluator.checks, funext fun s => (h s).seriesChecks]
  have goal : e.settings.reachTarget = e'.settings.reachTarget :=
    (h .firstDiscovery).rateTarget .reach
  have totals : e.totals = e'.totals := by
    funext checks samples expected
    rw [Evaluator.totals, Evaluator.totals, goal]
  rw [evaluate, evaluate, checks, totals, label]

end Agreement

section Rounds

variable {e : Evaluator} {m : Samples} {s : Series} {round round' : Round} {t u : PhaseTimeouts}

@[simp] theorem settings_withRound (e : Evaluator) (round : Round) (t : PhaseTimeouts) :
    (e.withRound round t).settings = e.settings := by
  cases round <;> rfl

@[simp] theorem benchmark?_withRound (e : Evaluator) (round : Round) (t : PhaseTimeouts) :
    (e.withRound round t).benchmark? = e.benchmark? := by
  funext s
  cases round <;> cases s <;> rfl

theorem timeout?_withRound (e : Evaluator) (t : PhaseTimeouts) (h : s ∉ round.timed) :
    (e.withRound round t).timeout? s = e.timeout? s := by
  cases round <;> cases s <;> first | rfl | exact absurd (by decide) h

theorem agreesOn_withRound (e : Evaluator) (m : Samples) (t : PhaseTimeouts)
    (h : s ∉ round.timed) : AgreesOn s e m (e.withRound round t) m where
  latencies := rfl
  values := rfl
  expectedCount := rfl
  rateTarget target := by rw [settings_withRound]
  timeout := (e.timeout?_withRound t h).symm
  benchmark := by rw [benchmark?_withRound]

theorem withRound_comm (e : Evaluator) (h : round ≠ round') (t u : PhaseTimeouts) :
    (e.withRound round t).withRound round' u = (e.withRound round' u).withRound round t := by
  cases round <;> cases round' <;> first | rfl | exact absurd rfl h

theorem withRound_withRound (e : Evaluator) (round : Round) (t u : PhaseTimeouts) :
    (e.withRound round t).withRound round u = e.withRound round u := by
  cases round <;> rfl

theorem isThroughput_of_mem_timed (h : s ∈ round.timed) : s.isThroughput = false := by
  cases round <;> cases s <;> first | rfl | exact absurd h (by decide)

theorem score_withRound (e : Evaluator) (m : Samples) (t : PhaseTimeouts) (h : s ∈ round.timed)
    (hpos : 0 < m.sampleCount s) :
    Option.Rel (Check.Retimed round) (e.score m s) ((e.withRound round t).score m s) := by
  have latency := isThroughput_of_mem_timed h
  obtain ⟨timeout, limit⟩ := e.timeout?_eq_some latency
  obtain ⟨timeout', limit'⟩ := (e.withRound round t).timeout?_eq_some latency
  rw [score_eq_latencyCheck limit hpos, score_eq_latencyCheck limit' hpos]
  refine .some (.inr ⟨rfl, h, ?_⟩)
  rw [latencyCheck, latencyCheck, settings_withRound]

/-- Check by check, the timeouts of a round change only the shares of its short latencies. -/
theorem checks_withRound (e : Evaluator) (m : Samples) (round : Round) (t : PhaseTimeouts) :
    List.Forall₂ (Check.Retimed round) (e.checks m) ((e.withRound round t).checks m) := by
  refine forall₂_checks (fun _ => rfl) (fun _ => rfl) ?_ ?_
  · intro s _
    left
    rw [reachCheck, reachCheck, settings_withRound]
  · -- Outside the two series of the round, the score is made from the same numbers.
    intro s hpos
    by_cases timed : s ∈ round.timed
    · exact e.score_withRound m t timed hpos
    · rw [← (e.agreesOn_withRound m t timed).score]
      cases e.score m s with
      | none => exact .none
      | some c => exact .some (.inl rfl)

/-- Of the totals, the timeouts of a round can change the share of scores that passed. -/
theorem totals_withRound (e : Evaluator) (m : Samples) (round : Round) (t : PhaseTimeouts)
    (samples expected : Nat) :
    (e.withRound round t).totals ((e.withRound round t).checks m) samples expected =
      { e.totals (e.checks m) samples expected with
        successRate := ((e.withRound round t).totals ((e.withRound round t).checks m) samples
          expected).successRate } := by
  have reached := (e.withRound round t).reached_totals ((e.withRound round t).checks m) samples
    expected
  have rate := (e.withRound round t).reachRate_totals ((e.withRound round t).checks m) samples
    expected
  rw [settings_withRound, ← e.reached_totals (e.checks m)] at reached
  rw [← e.reachRate_totals (e.checks m)] at rate
  generalize (e.withRound round t).totals _ samples expected = after at reached rate
  cases after
  cases reached
  cases rate
  rfl

end Rounds

/-- The checks of a series are the same wherever its samples, its expected count, the two shares that
are targets and its own timeout or benchmark are. So other timeouts for a round change only what is said
about short latencies in its two series, the misses and the share of passed scores; rounds do not
interfere, and of two timeouts for one round the last counts. A benchmark for upgraded media counts only
if the medium is one, and the settings that prepare the devices and the network do not count at all. -/
theorem checks_local :
    (∀ (e e' : Evaluator) (m n : Samples) (s : Series), AgreesOn s e m e' n →
      (e.checks m).filter (fun c => c.series = s) =
        (e'.checks n).filter (fun c => c.series = s)) ∧
    (∀ (e : Evaluator) (m : Samples) (now : Instant) (round : Round) (t : PhaseTimeouts),
      let before := e.evaluate m now
      let after := (e.withRound round t).evaluate m now
      List.Forall₂ (Check.Retimed round) before.checks after.checks ∧
      after =
        { before with
          checks := after.checks
          misses := after.checks.filterMap Check.miss?
          totals := { before.totals with successRate := after.totals.successRate } }) ∧
    (∀ (e : Evaluator) (round round' : Round) (t u : PhaseTimeouts), round ≠ round' →
      (e.withRound round t).withRound round' u = (e.withRound round' u).withRound round t) ∧
    (∀ (e : Evaluator) (round : Round) (t u : PhaseTimeouts),
      (e.withRound round t).withRound round u = e.withRound round u) ∧
    (∀ (e : Evaluator) (m : Samples) (now : Instant) (kbs : Binary64) (percentile : Nat),
      e.settings.medium.isHighQuality = false →
      evaluate
        { e with
          settings := { e.settings with wifiBenchmark := kbs, wifiPercentile := percentile } } m now =
        e.evaluate m now) ∧
    ∀ (e : Evaluator) (m : Samples) (now : Instant) (failFast toggleAirplaneMode disconnectWifi : Bool)
      (countryCode ssid password : String) (payload : Payload) (manner : UpgradeManner),
      evaluate
        { e with
          settings :=
            { e.settings with
              failFast, toggleAirplaneMode, disconnectWifi, countryCode, ssid, password, payload,
              manner } } m now =
        e.evaluate m now := by
  refine ⟨?_, ?_, fun e _ _ t u h => e.withRound_comm h t u, withRound_withRound, ?_, ?_⟩
  · intro e e' m n s agree
    rw [filter_series_checks, filter_series_checks, agree.seriesChecks]
  · intro e m now round t before after
    refine ⟨e.checks_withRound m round t, ?_⟩
    have totals := e.totals_withRound m round t (reachTotal m m.sampleCount)
      (reachTotal m m.expectedCount)
    change (e.withRound round t).evaluate m now = _
    rw [evaluate, settings_withRound, totals]
    rfl
  · intro e m now kbs percentile low
    refine evaluate_congr ?_ (fun s => ?_) now
    · rfl
    refine ⟨rfl, rfl, rfl, fun target => by cases target <;> rfl, by cases s <;> rfl, ?_⟩
    cases s with
    | wifiThroughput =>
        simp only [benchmark?, Settings.upgradedBenchmark, Settings.mediumBenchmark, Settings.linkOf, low,
          Bool.false_eq_true, ite_false, Settings.benchmark]
    | _ => rfl
  · intro e m now failFast toggleAirplaneMode disconnectWifi countryCode ssid password payload manner
    refine evaluate_congr ?_ (fun s => ?_) now
    · rfl
    exact ⟨rfl, rfl, rfl, fun target => by cases target <;> rfl, by cases s <;> rfl,
      by cases s <;> rfl⟩

/-- Two runs with the same first latencies, but with other throughputs, another second round and another
benchmark, over a medium that is held to the benchmark of the first connection. -/
theorem checks_local_of_discovery :
    let e : Evaluator := { settings := {}, secondRound := { discovery := some (.ofSecs 1) } }
    let e' : Evaluator := { settings := { btBenchmark := 3, medium := .bleOnly } }
    let t : Trial := { first := { discovery := some (.ofSecs 3) } }
    let m := Samples.ofTrials [t]
    let n := Samples.ofTrials [{ t with btThroughput := some 7 }]
    AgreesOn .firstDiscovery e m e' n ∧
      ((e.checks m).filter fun c => c.series = .firstDiscovery).length = 2 ∧
      (e.checks m).filter (fun c => c.series = .firstDiscovery) =
        (e'.checks n).filter (fun c => c.series = .firstDiscovery) ∧
      (e.withRound .first {}).withRound .second {} = (e.withRound .second {}).withRound .first {} ∧
      evaluate { e' with settings := { e'.settings with wifiBenchmark := 1, wifiPercentile := 7 } } n
        .epoch = e'.evaluate n .epoch := by
  intro e e' t m n
  obtain ⟨local', -, comm, -, low, -⟩ := checks_local
  have agree : AgreesOn .firstDiscovery e m e' n := by
    refine ⟨rfl, rfl, rfl, fun target => ?_, ?_, ?_⟩
    · cases target <;> dsimp only [Settings.rateTarget, e, e']
    · dsimp only [timeout?, e, e']
    · dsimp only [benchmark?]
  have two : ((e.checks m).filter fun c => c.series = .firstDiscovery).length = 2 := by
    rw [filter_series_checks]
    rfl
  exact ⟨agree, two, local' e e' m n .firstDiscovery agree, comm e .first .second {} {} (by decide),
    low e' n .epoch 1 7 rfl⟩

end Evaluator

end LinkTrials
