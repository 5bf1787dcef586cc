import LinkTrials.Proofs.Evaluation.Shape
import LinkTrials.Proofs.Evaluation.Share

/-!
The verdict of a report.

A run passes if no check missed its target and enough of all expected samples are there. The second
condition adds nothing to the first where anything was checked: samples that come from trials are
never more than were expected, so a series with a score also has its samples counted, and if every
count is high enough then so is the sum of all counts. Without any check there is nothing expected,
and the run does not pass.
-/
namespace LinkTrials.Evaluator

open Samples

/-- No series has more samples than were expected of it. -/
def Sound (m : Samples) : Prop := ∀ s, m.sampleCount s ≤ m.expectedCount s

theorem sound_run (steps : List Step) : Sound (run steps) := by
  intro s
  rw [run_eq_tally]
  exact sampleCount_le_expectedCount_tally s (given steps)

/-- The series that are checked for how many samples there are. -/
def reachChecked (m : Samples) : List Series := Series.all.filter (isReachChecked m)

theorem mem_reachChecked {m : Samples} {s : Series} : s ∈ reachChecked m ↔ isReachChecked m s = true := by
  simp [reachChecked, Series.mem_all]

theorem reachTotal_eq_total (m : Samples) (count : Series → Nat) :
    reachTotal m count = total count (reachChecked m) := rfl

theorem expectedCount_pos {m : Samples} {s : Series} (h : s ∈ reachChecked m) :
    0 < m.expectedCount s :=
  ((isReachChecked_iff m s).1 (mem_reachChecked.1 h)).1

theorem reachCheck_mem_checks (e : Evaluator) {m : Samples} {s : Series} (h : s ∈ reachChecked m) :
    e.reachCheck m s ∈ e.checks m :=
  mem_checks.2 ⟨s, mem_seriesChecks.2 (.inl ⟨mem_reachChecked.1 h, rfl⟩)⟩

/-- Where there are samples, they are counted. -/
theorem mem_reachChecked_of_pos {m : Samples} {s : Series} (hm : Sound m)
    (hpos : 0 < m.sampleCount s) : s ∈ reachChecked m :=
  mem_reachChecked.2 ((isReachChecked_iff m s).2 ⟨Nat.lt_of_lt_of_le hpos (hm s), .inr hpos⟩)

/-- A series with a check of any kind has its samples counted. -/
theorem series_mem_reachChecked {e : Evaluator} {m : Samples} {c : Check} (hm : Sound m)
    (hc : c ∈ e.checks m) : c.series ∈ reachChecked m := by
  obtain ⟨s, hs⟩ := mem_checks.1 hc
  rcases mem_seriesChecks.1 hs with ⟨hreach, rfl⟩ | ⟨hpos, scores⟩
  · exact mem_reachChecked.2 hreach
  · have same : c.series = s := congrArg Prod.fst scores.subject
    rw [same]
    exact mem_reachChecked_of_pos hm hpos

theorem reachChecked_ne_nil {e : Evaluator} {m : Samples} (hm : Sound m) (h : e.checks m ≠ []) :
    reachChecked m ≠ [] := by
  obtain ⟨c, hc⟩ := List.exists_mem_of_ne_nil _ h
  exact List.ne_nil_of_mem (series_mem_reachChecked hm hc)

theorem reached_totals (e : Evaluator) (checks : List Check) (samples expected : Nat) :
    (e.totals checks samples expected).reached =
      (decide (0 < expected) && Binary64.le e.settings.reachTarget (share samples expected)) := by
  rw [totals]
  dsimp only
  by_cases h : expected = 0
  · subst h
    simp only [Nat.lt_irrefl, decide_false, Bool.false_and]
    split <;> rfl
  · rw [if_neg fun both => h both.1, if_neg h]

/-- Enough samples in all means that some were expected, and counted. -/
theorem checks_ne_nil_of_reached {e : Evaluator} {m : Samples} {now : Instant}
    (h : (e.evaluate m now).totals.reached = true) : e.checks m ≠ [] := by
  change (e.totals _ _ _).reached = true at h
  rw [reached_totals, Bool.and_eq_true, decide_eq_true_eq, reachTotal_eq_total] at h
  intro unchecked
  have uncounted : reachChecked m = [] := by
    apply List.eq_nil_iff_forall_not_mem.2
    intro s hs
    have member := e.reachCheck_mem_checks hs
    rw [unchecked] at member
    cases member
  rw [uncounted] at h
  exact Nat.lt_irrefl 0 h.1

/-- Where every count reaches the target, so does their sum. -/
theorem reached_of_passed {e : Evaluator} {m : Samples} {now : Instant} (hm : Sound m)
    (hmax : reachTotal m m.expectedCount ≤ Nat.pow 2 53) (hne : e.checks m ≠ [])
    (h : ∀ c ∈ e.checks m, c.passed = true) : (e.evaluate m now).totals.reached = true := by
  change (e.totals _ _ _).reached = true
  rw [reached_totals, Bool.and_eq_true, decide_eq_true_eq]
  rw [reachTotal_eq_total, reachTotal_eq_total]
  rw [reachTotal_eq_total] at hmax
  -- A series with a check is counted, so that the sum is of something and reaches what each part does.
  have filled := reachChecked_ne_nil hm hne
  constructor
  · obtain ⟨s, hs⟩ := List.exists_mem_of_ne_nil _ filled
    exact Nat.lt_of_lt_of_le (expectedCount_pos hs) (le_total _ hs)
  · refine le_share_total filled (fun s _ => hm s) ?_ hmax ?_
    · intro s hs
      exact expectedCount_pos hs
    · intro s hs
      exact h _ (e.reachCheck_mem_checks hs)

theorem filterMap_miss?_eq_nil_iff (checks : List Check) :
    checks.filterMap Check.miss? = [] ↔ ∀ c ∈ checks, c.passed = true := by
  simp [List.filterMap_eq_nil_iff, Check.miss?]

/-- The verdict in terms of the checks and of how many samples there are in all. -/
theorem passed_evaluate (e : Evaluator) (m : Samples) (now : Instant) :
    (e.evaluate m now).passed = true ↔
      (∀ c ∈ e.checks m, c.passed = true) ∧ (e.evaluate m now).totals.reached = true := by
  have missed := filterMap_miss?_eq_nil_iff (e.checks m)
  rw [Report.passed, Bool.and_eq_true, List.isEmpty_iff]
  exact and_congr_left fun _ => missed

/-- After any steps that leave no more expected samples than are counted without rounding, a report
passes exactly if there is a check and every check passed: enough samples in all are there as soon
as no target is missed, unless nothing was checked. -/
theorem evaluate_passed_iff (e : Evaluator) (steps : List Step) (now : Instant)
    (hmax : reachTotal (run steps) (run steps).expectedCount ≤ Nat.pow 2 53) :
    let r := e.evaluate (run steps) now
    (r.passed = true ↔ r.checks ≠ [] ∧ ∀ c ∈ r.checks, c.passed = true) ∧
    (r.misses = [] → r.totals.reached = !r.checks.isEmpty) ∧
    (r.checks ≠ [] → r.passed = r.misses.isEmpty) := by
  intro r
  have missed : r.misses = [] ↔ ∀ c ∈ r.checks, c.passed = true :=
    filterMap_miss?_eq_nil_iff r.checks
  have enough (h : r.misses = []) : r.totals.reached = true ↔ r.checks ≠ [] :=
    ⟨checks_ne_nil_of_reached,
      fun hne => reached_of_passed (sound_run steps) hmax hne (missed.1 h)⟩
  have passed : r.passed = true ↔ r.misses = [] ∧ r.totals.reached = true := by
    simp [Report.passed]
  refine ⟨?_, ?_, ?_⟩
  · rw [passed, ← missed, and_comm]
    exact and_congr_left enough
  · intro h
    rw [Bool.eq_iff_iff, enough h]
    simp
  · intro hne
    rw [Bool.eq_iff_iff, passed, List.isEmpty_iff]
    exact ⟨fun both => both.1, fun h => ⟨h, (enough h).2 hne⟩⟩

/-- Two trials, the second of which changed the medium. -/
theorem evaluate_passed_iff_of_two :
    let steps : List Step :=
      [.record { first := { discovery := some (.ofSecs 3) } },
        .extend [{ second := { upgradeExpected := true, upgrade := some (.ofSecs 1) } }]]
    let r := (Evaluator.mk {} {} {}).evaluate (run steps) .epoch
    reachTotal (run steps) (run steps).expectedCount = 3 ∧
      (r.passed = true ↔ r.checks ≠ [] ∧ ∀ c ∈ r.checks, c.passed = true) := by
  intro steps r
  have expected : reachTotal (run steps) (run steps).expectedCount = 3 := by decide
  have few : reachTotal (run steps) (run steps).expectedCount ≤ Nat.pow 2 53 := by
    rw [expected]
    decide
  exact ⟨expected, (evaluate_passed_iff _ steps .epoch few).1⟩

end LinkTrials.Evaluator
