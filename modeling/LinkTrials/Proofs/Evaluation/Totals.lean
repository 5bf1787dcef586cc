import LinkTrials.Proofs.Evaluation.Verdict

/-!
The totals of a report against its checks.

The totals are counted series by series while the checks are made. They can be recomputed from the
finished checks: the checks for how many samples there are give the reach, the others the success.
No quotient has nothing below it: what is checked was expected, what is scored has samples, and
where anything is scored something was expected. So all shares lie between nothing and all.
-/
namespace LinkTrials

namespace Check

/-- A count added up over some checks. -/
def total (count : Check → Nat) (checks : List Check) : Nat :=
  checks.foldr (fun c sum => count c + sum) 0

/-- The checks for how many samples there are. -/
def reaches (checks : List Check) : List Check := checks.filter fun c => c.aspect == .reach

/-- The checks of what the samples are. -/
def scores (checks : List Check) : List Check := checks.filter fun c => c.aspect != .reach

end Check

namespace Evaluator

open Samples

variable {e : Evaluator} {m : Samples} {s : Series} {c : Check}

theorem checks_evaluate (e : Evaluator) (m : Samples) (now : Instant) :
    (e.evaluate m now).checks = e.checks m := rfl

theorem scored_ne_reach (s : Series) : s.scored ≠ .reach := by
  rw [Series.scored]
  split <;> decide

theorem Scores.aspect_ne_reach (h : Scores e m s c) : c.aspect ≠ .reach := by
  have aspect : c.aspect = s.scored := congrArg Prod.snd h.subject
  rw [aspect]
  exact scored_ne_reach s

theorem reaches_seriesChecks (e : Evaluator) (m : Samples) (s : Series) :
    Check.reaches (e.seriesChecks m s) = if isReachChecked m s then [e.reachCheck m s] else [] := by
  have noScore : ∀ c ∈ if m.sampleCount s = 0 then [] else (e.score m s).toList,
      ¬ (c.aspect == .reach) = true := by
    intro c hc
    rw [beq_iff_eq]
    split at hc
    · cases hc
    · exact (scores_of_score (Option.mem_toList.1 hc)).aspect_ne_reach
  rw [Check.reaches, seriesChecks, List.filter_append, List.filter_eq_nil_iff.2 noScore,
    List.append_nil]
  split <;> rfl

/-- The series whose samples are counted have one such check each, in their order. -/
theorem reaches_checks (e : Evaluator) (m : Samples) :
    Check.reaches (e.checks m) = (reachChecked m).map (e.reachCheck m) := by
  rw [checks, reachChecked]
  induction Series.all with
  | nil => rfl
  | cons s rest ih =>
      have first := e.reaches_seriesChecks m s
      rw [Check.reaches] at first ih ⊢
      rw [List.flatMap_cons, List.filter_append, first, ih, List.filter_cons]
      split <;> rfl

theorem total_map_reachCheck (e : Evaluator) (m : Samples) {count : Check → Nat}
    {count' : Series → Nat} (h : ∀ s, count (e.reachCheck m s) = count' s) (series : List Series) :
    Check.total count (series.map (e.reachCheck m)) = total count' series := by
  induction series with
  | nil => rfl
  | cons s rest ih =>
      rw [Check.total, total] at ih ⊢
      rw [List.map_cons, List.foldr_cons, List.foldr_cons, ih, h]

theorem total_sampleCount_reaches (e : Evaluator) (m : Samples) :
    Check.total Check.sampleCount (Check.reaches (e.checks m)) = reachTotal m m.sampleCount := by
  rw [reaches_checks, reachTotal_eq_total]
  exact e.total_map_reachCheck m (fun _ => rfl) _

theorem total_expectedCount_reaches (e : Evaluator) (m : Samples) :
    Check.total Check.expectedCount (Check.reaches (e.checks m)) =
      reachTotal m m.expectedCount := by
  rw [reaches_checks, reachTotal_eq_total]
  exact e.total_map_reachCheck m (fun _ => rfl) _

/-- Something was expected exactly if samples are counted. -/
theorem reachTotal_eq_zero_iff (m : Samples) :
    reachTotal m m.expectedCount = 0 ↔ reachChecked m = [] := by
  rw [reachTotal_eq_total]
  constructor
  · intro none
    apply List.eq_nil_iff_forall_not_mem.2
    intro s hs
    have bound := le_total m.expectedCount hs
    have pos := expectedCount_pos hs
    omega
  · intro none
    rw [none]
    rfl

theorem reaches_eq_nil_iff (e : Evaluator) (m : Samples) :
    Check.reaches (e.checks m) = [] ↔ reachTotal m m.expectedCount = 0 := by
  rw [reaches_checks, List.map_eq_nil_iff, reachTotal_eq_zero_iff]

theorem reachRate_totals (e : Evaluator) (checks : List Check) (samples expected : Nat) :
    (e.totals checks samples expected).reachRate =
      if expected = 0 then 0 else share samples expected := by
  rw [totals]
  dsimp only
  split
  · next none => rw [if_pos none.1]
  · rfl

theorem successRate_totals (e : Evaluator) (checks : List Check) (samples expected : Nat) :
    (e.totals checks samples expected).successRate =
      if Check.scores checks = [] then 0
      else share ((Check.scores checks).countP Check.passed) (Check.scores checks).length := by
  rw [totals]
  dsimp only
  split
  · next none => rw [Check.scores, if_pos none.2]
  · rfl

theorem sampleCount_latencyCheck (latency : s.isThroughput = false) (timeout : Span) :
    (e.latencyCheck m s timeout).sampleCount = m.sampleCount s := by
  rw [sampleCount_eq_size_latencies m latency]
  exact Array.length_toList

theorem counts_of_mem_checks (hc : c ∈ e.checks m) :
    c.sampleCount = m.sampleCount c.series ∧ c.expectedCount = m.expectedCount c.series := by
  obtain ⟨s, hs⟩ := mem_checks.1 hc
  rcases mem_seriesChecks.1 hs with ⟨-, rfl⟩ | ⟨-, scores⟩
  · exact ⟨rfl, rfl⟩
  · cases scores with
    | latency limit =>
        exact ⟨sampleCount_latencyCheck (isThroughput_of_timeout? limit) _, rfl⟩
    | throughput limit value => exact ⟨(sampleCount_eq_size_values m s).symm, rfl⟩

theorem eq_reachCheck (hc : c ∈ e.checks m) (h : c.aspect = .reach) :
    ∃ s, isReachChecked m s = true ∧ c = e.reachCheck m s := by
  obtain ⟨s, hs⟩ := mem_checks.1 hc
  rcases mem_seriesChecks.1 hs with ⟨checked, rfl⟩ | ⟨-, scores⟩
  · exact ⟨s, checked, rfl⟩
  · exact absurd h scores.aspect_ne_reach

theorem eq_latencyCheck (hc : c ∈ e.checks m) (h : c.aspect = .latency) :
    ∃ s timeout, e.timeout? s = some timeout ∧ 0 < m.sampleCount s ∧
      c = e.latencyCheck m s timeout := by
  obtain ⟨s, hs⟩ := mem_checks.1 hc
  rcases mem_seriesChecks.1 hs with ⟨-, rfl⟩ | ⟨hpos, scores⟩
  · cases h
  · cases scores with
    | latency limit => exact ⟨s, _, limit, hpos, rfl⟩
    | throughput limit value => cases h

theorem rate_of_reach (hc : c ∈ e.checks m) (h : c.aspect = .reach) :
    0 < c.expectedCount ∧ c.rate = share c.sampleCount c.expectedCount := by
  obtain ⟨s, checked, rfl⟩ := eq_reachCheck hc h
  exact ⟨((isReachChecked_iff m s).1 checked).1, rfl⟩

theorem rate_of_latency (hc : c ∈ e.checks m) (h : c.aspect = .latency) :
    0 < c.sampleCount ∧ ∃ short ≤ c.sampleCount, c.rate = share short c.sampleCount := by
  obtain ⟨s, timeout, limit, hpos, rfl⟩ := eq_latencyCheck hc h
  refine ⟨?_, _, List.countP_le_length, rfl⟩
  rw [sampleCount_latencyCheck (isThroughput_of_timeout? limit)]
  exact hpos

theorem length_scores_le (e : Evaluator) (m : Samples) :
    (Check.scores (e.checks m)).length ≤ Nat.pow 2 53 := by
  have few := (e.map_subject_checks_sublist m).length_le
  rw [List.length_map] at few
  refine Nat.le_trans (List.length_filter_le _ _) (Nat.le_trans few ?_)
  decide

theorem bounds_of_isShare {x : Binary64} (h : x.isShare = true) :
    Binary64.le 0 x = true ∧ Binary64.le x 1 = true :=
  Bool.and_eq_true_iff.1 h

theorem isShare_zero : (0 : Binary64).isShare = true := by
  decide +kernel

/-- No check has more samples than were expected, or more expected than there are trials. -/
theorem counts_le_of_mem_checks {steps : List Step} (hc : c ∈ e.checks (run steps)) :
    c.sampleCount ≤ c.expectedCount ∧ c.expectedCount ≤ (run steps).trialCount := by
  obtain ⟨samples, expected⟩ := counts_of_mem_checks hc
  rw [samples, expected, run_eq_tally]
  exact ⟨sampleCount_le_expectedCount_tally c.series _, expectedCount_le_trialCount_tally c.series _⟩

theorem isShare_rate_of_mem_checks {steps : List Step} (hc : c ∈ e.checks (run steps))
    (hmax : reachTotal (run steps) (run steps).expectedCount ≤ Nat.pow 2 53)
    (h : c.aspect ≠ .throughput) : c.rate.isShare = true := by
  have sound := (counts_le_of_mem_checks hc).1
  have few : c.expectedCount ≤ Nat.pow 2 53 := by
    rw [(counts_of_mem_checks hc).2]
    exact Nat.le_trans (le_total _ (series_mem_reachChecked (sound_run steps) hc)) hmax
  cases aspect : c.aspect with
  | reach =>
      obtain ⟨hpos, hrate⟩ := rate_of_reach hc aspect
      rw [hrate]
      exact isShare_share sound few hpos
  | latency =>
      obtain ⟨hpos, short, hshort, hrate⟩ := rate_of_latency hc aspect
      rw [hrate]
      exact isShare_share hshort (Nat.le_trans sound few) hpos
  | throughput => exact absurd aspect h

section Evaluated

variable (e : Evaluator) (m : Samples) (now : Instant)

theorem samples_le_expected (hm : Sound m) :
    Check.total Check.sampleCount (Check.reaches (e.checks m)) ≤
      Check.total Check.expectedCount (Check.reaches (e.checks m)) := by
  rw [total_sampleCount_reaches, total_expectedCount_reaches]
  exact total_le_total fun s _ => hm s

theorem reachRate_evaluate :
    (e.evaluate m now).totals.reachRate =
      if Check.reaches (e.checks m) = [] then 0
      else share (Check.total Check.sampleCount (Check.reaches (e.checks m)))
        (Check.total Check.expectedCount (Check.reaches (e.checks m))) := by
  simp only [reaches_eq_nil_iff, total_sampleCount_reaches, total_expectedCount_reaches]
  exact e.reachRate_totals _ _ _

theorem reached_evaluate :
    (e.evaluate m now).totals.reached = true ↔
      Check.reaches (e.checks m) ≠ [] ∧
        Binary64.le e.settings.reachTarget (e.evaluate m now).totals.reachRate = true := by
  have reached : (e.evaluate m now).totals.reached = _ := e.reached_totals _ _ _
  have rate : (e.evaluate m now).totals.reachRate = _ := e.reachRate_totals _ _ _
  rw [reached, Bool.and_eq_true, decide_eq_true_eq, Nat.pos_iff_ne_zero, ne_eq, ne_eq,
    reaches_eq_nil_iff]
  refine and_congr_right fun some => ?_
  rw [rate, if_neg some]

theorem expected_pos (hm : Sound m) (checked : e.checks m ≠ []) :
    0 < Check.total Check.expectedCount (Check.reaches (e.checks m)) := by
  refine Nat.pos_of_ne_zero fun none => ?_
  rw [total_expectedCount_reaches, reachTotal_eq_zero_iff] at none
  exact reachChecked_ne_nil hm checked none

theorem totals_of_unchecked (unchecked : e.checks m = []) : (e.evaluate m now).totals = {} := by
  have total : reachTotal m m.expectedCount = 0 :=
    (e.reaches_eq_nil_iff m).1 (congrArg Check.reaches unchecked)
  change e.totals (e.checks m) _ _ = _
  rw [unchecked, total, totals]
  exact if_pos ⟨rfl, rfl⟩

theorem isShare_reachRate (hm : Sound m)
    (hmax : reachTotal m m.expectedCount ≤ Nat.pow 2 53) :
    (e.evaluate m now).totals.reachRate.isShare = true := by
  rw [reachRate_evaluate]
  split
  · exact isShare_zero
  · next some =>
    refine isShare_share (e.samples_le_expected m hm) ?_ ?_
    · rw [total_expectedCount_reaches]
      exact hmax
    · rw [reaches_eq_nil_iff, ← total_expectedCount_reaches] at some
      exact Nat.pos_of_ne_zero some

theorem isShare_successRate : (e.evaluate m now).totals.successRate.isShare = true := by
  have rate : (e.evaluate m now).totals.successRate = _ := e.successRate_totals _ _ _
  rw [rate]
  split
  · exact isShare_zero
  · next some =>
    exact isShare_share List.countP_le_length (e.length_scores_le m) (List.length_pos_iff.2 some)

end Evaluated

/-- The totals of a report on the samples of any run are those of its checks: the quotient of the counted
samples and the expected ones, whether it reaches the target, and the quotient of the scores that passed
and all scores, each of them zero where there is no such check. Whatever is divided by is positive, also
the sum of what was expected as soon as anything is scored. All of these lie between zero and one, and so
do the rates of the checks that are not percentiles. -/
theorem evaluate_totals (e : Evaluator) (steps : List Step) (now : Instant)
    (hmax : reachTotal (run steps) (run steps).expectedCount ≤ Nat.pow 2 53) :
    let r := e.evaluate (run steps) now
    let reaches := Check.reaches r.checks
    let scores := Check.scores r.checks
    let samples := Check.total Check.sampleCount reaches
    let expected := Check.total Check.expectedCount reaches
    let quotient (part whole : Nat) := Binary64.ofNat part / Binary64.ofNat whole
    let Bounded (x : Binary64) := Binary64.le 0 x = true ∧ Binary64.le x 1 = true
    (r.totals.reachRate = if reaches = [] then 0 else quotient samples expected) ∧
    (r.totals.reached = true ↔
      reaches ≠ [] ∧ Binary64.le e.settings.reachTarget r.totals.reachRate = true) ∧
    (r.totals.successRate =
      if scores = [] then 0 else quotient (scores.countP Check.passed) scores.length) ∧
    (expected = reachTotal (run steps) (run steps).expectedCount) ∧
    (r.checks ≠ [] → 0 < expected) ∧
    (r.checks = [] → r.totals = ⟨false, 0, 0⟩) ∧
    Bounded r.totals.reachRate ∧ Bounded r.totals.successRate ∧
    ∀ c ∈ r.checks,
      c.sampleCount ≤ c.expectedCount ∧ c.expectedCount ≤ r.trialCount ∧
      (c.aspect = .reach →
        0 < c.expectedCount ∧ c.rate = quotient c.sampleCount c.expectedCount) ∧
      (c.aspect = .latency →
        0 < c.sampleCount ∧ ∃ short ≤ c.sampleCount, c.rate = quotient short c.sampleCount) ∧
      (c.aspect ≠ .throughput → Bounded c.rate) := by
  intro r reaches scores samples expected quotient Bounded
  have sound := sound_run steps
  refine ⟨e.reachRate_evaluate _ now, e.reached_evaluate _ now, e.successRate_totals _ _ _,
    e.total_expectedCount_reaches _, e.expected_pos _ sound, e.totals_of_unchecked _ now,
    bounds_of_isShare (e.isShare_reachRate _ now sound hmax),
    bounds_of_isShare (e.isShare_successRate _ now), ?_⟩
  intro c hc
  obtain ⟨few, fewer⟩ := counts_le_of_mem_checks hc
  exact ⟨few, fewer, rate_of_reach hc, rate_of_latency hc,
    fun aspect => bounds_of_isShare (isShare_rate_of_mem_checks hc hmax aspect)⟩

/-- One of two expected samples is there. -/
theorem evaluate_totals_of_half :
    let steps : List Step :=
      [.record { first := { discovery := some (.ofSecs 3) }, second := { upgradeExpected := true } }]
    let r := (Evaluator.mk {} {} {}).evaluate (run steps) .epoch
    reachTotal (run steps) (run steps).expectedCount = 2 ∧
      r.totals.reachRate = Binary64.ofNat 1 / Binary64.ofNat 2 ∧
      Binary64.le r.totals.reachRate 1 = true := by
  intro steps r
  have expected : reachTotal (run steps) (run steps).expectedCount = 2 := by decide
  have few : reachTotal (run steps) (run steps).expectedCount ≤ Nat.pow 2 53 := by
    rw [expected]
    decide
  have samples : reachTotal (run steps) (run steps).sampleCount = 1 := by decide
  obtain ⟨rate, -, -, -, -, -, bounded, -⟩ := evaluate_totals (.mk {} {} {}) steps .epoch few
  refine ⟨expected, ?_, bounded.2⟩
  rw [checks_evaluate, total_sampleCount_reaches, total_expectedCount_reaches, samples,
    expected] at rate
  exact rate.trans (if_neg (by decide +kernel))

end Evaluator

end LinkTrials
