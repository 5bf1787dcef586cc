import LinkTrials.Proofs.Evaluation.Totals
import LinkTrials.Proofs.Percentile.Ordered
import LinkTrials.Proofs.Settings.Amounts
import LinkTrials.Proofs.Span.Seconds

/-!
Reports on the same trials in another order.

The order of trials is the order of samples, and nothing in a report shows it: counts are those of
any order, a share of latencies is one of counts, and percentiles are taken of sorted samples. Two
zeros of different signs may change places when samples are sorted, so figures are compared as
numbers are.
-/
namespace LinkTrials

open Binary64

/-- Checks of one target with one outcome, with equal figures. -/
structure Check.Same (c d : Check) : Prop where
  name : c.name = d.name
  series : c.series = d.series
  aspect : c.aspect = d.aspect
  sampleCount : c.sampleCount = d.sampleCount
  expectedCount : c.expectedCount = d.expectedCount
  rate : Binary64.Same c.rate d.rate
  goal : Binary64.Same c.goal d.goal
  passed : c.passed = d.passed
  figure : Option.Rel Binary64.Same c.figure d.figure

structure Miss.Same (c d : Miss) : Prop where
  name : c.name = d.name
  rate : Binary64.Same c.rate d.rate
  goal : Binary64.Same c.goal d.goal

structure Totals.Same (t u : Totals) : Prop where
  reached : t.reached = u.reached
  reachRate : Binary64.Same t.reachRate u.reachRate
  successRate : Binary64.Same t.successRate u.successRate

/-- Reports that differ at most in the time at which they were made. -/
structure Report.Same (r q : Report) : Prop where
  label : r.label = q.label
  trialCount : r.trialCount = q.trialCount
  totals : Totals.Same r.totals q.totals
  checks : List.Forall₂ Check.Same r.checks q.checks
  misses : List.Forall₂ Miss.Same r.misses q.misses
  unsampled : r.unsampled = q.unsampled

theorem Check.Same.miss {c d : Check} (h : Check.Same c d) :
    Option.Rel Miss.Same c.miss? d.miss? := by
  rw [Check.miss?, Check.miss?, h.passed]
  split
  · exact .none
  · exact .some ⟨h.name, h.rate, h.goal⟩

theorem Report.Same.passed {r q : Report} (h : Report.Same r q) : r.passed = q.passed := by
  have misses : r.misses.isEmpty = q.misses.isEmpty := by
    rw [Bool.eq_iff_iff, List.isEmpty_iff_length_eq_zero, List.isEmpty_iff_length_eq_zero,
      h.misses.length_eq]
  rw [Report.passed, Report.passed, h.totals.reached, misses]

/-- The throughputs of a trial are finite and not below zero. -/
def Trial.IsBounded (t : Trial) : Prop :=
  ∀ x, x ∈ t.btThroughput ∨ x ∈ t.wifiThroughput → x.isBound = true

namespace Samples

/-- The samples of one are those of the other, each series in any order. -/
structure Rearranged (m n : Samples) : Prop where
  trialCount : m.trialCount = n.trialCount
  expectedCount : ∀ s, m.expectedCount s = n.expectedCount s
  latencies : ∀ s, (m.latencies s).toList.Perm (n.latencies s).toList
  values : ∀ s, (m.values s).toList.Perm (n.values s).toList

theorem rearranged_ofTrials {trials others : List Trial} (h : trials.Perm others) :
    Rearranged (ofTrials trials) (ofTrials others) := by
  rw [ofTrials_eq_tally, ofTrials_eq_tally]
  refine ⟨h.length_eq, ?_, ?_, ?_⟩
  · intro s
    rw [← countP_expects, ← countP_expects]
    exact h.countP_eq _
  · intro s
    rw [latencies_tally, latencies_tally]
    exact (h.filter _).filterMap _
  · intro s
    rw [values_tally, values_tally]
    exact (h.filter _).filterMap _

theorem Rearranged.sampleCount {m n : Samples} (h : Rearranged m n) (s : Series) :
    m.sampleCount s = n.sampleCount s := by
  rw [sampleCount_eq_size_values, sampleCount_eq_size_values, ← Array.length_toList,
    ← Array.length_toList]
  exact (h.values s).length_eq

/-- All samples are finite and not below zero. -/
def IsBounded (m : Samples) : Prop := ∀ s, ∀ x ∈ (m.values s).toList, IsAmount x

theorem isBounded_ofTrials {trials : List Trial} (h : ∀ t ∈ trials, t.IsBounded) :
    (ofTrials trials).IsBounded := by
  intro s x hx
  rw [ofTrials_eq_tally, values_tally, List.mem_filterMap] at hx
  obtain ⟨t, ht, hsample⟩ := hx
  have bounded := h t (List.mem_of_mem_filter ht)
  cases s with
  | btThroughput => exact isAmount_of_isBound (bounded x (.inl hsample))
  | wifiThroughput => exact isAmount_of_isBound (bounded x (.inr hsample))
  | _ =>
      obtain ⟨d, -, rfl⟩ := Option.map_eq_some_iff.1 hsample
      exact d.isAmount_toSeconds

end Samples

namespace Evaluator

open Samples

/-- Every target and every benchmark is a number that can be compared. -/
structure IsComparable (e : Evaluator) : Prop where
  rateTarget : ∀ target, e.settings.rateTarget target ≠ nan
  benchmark : ∀ link, (e.settings.benchmark link).kbs ≠ nan

theorem kbs_ne_nan {e : Evaluator} (h : e.IsComparable) {s : Series} {b : Benchmark}
    (hb : e.benchmark? s = some b) : b.kbs ≠ nan := by
  cases s with
  | btThroughput =>
      cases hb
      exact h.benchmark .bt
  | wifiThroughput =>
      cases hb
      exact h.benchmark _
  | _ => cases hb

/-- Sums over the series of counts that fit into an index are numbers, too. -/
theorem reachTotal_le {m : Samples} {count : Series → Nat} (h : ∀ s, count s ≤ Nat.pow 2 64) :
    reachTotal m count ≤ Nat.pow 2 128 := by
  have series : (reachChecked m).length ≤ Series.all.length := List.length_filter_le _ _
  calc reachTotal m count
      ≤ (reachChecked m).length * Nat.pow 2 64 := total_le_mul h _
    _ ≤ Series.all.length * Nat.pow 2 64 := Nat.mul_le_mul_right _ series
    _ ≤ Nat.pow 2 128 := by decide

theorem forall₂_toList {α : Type} {R : α → α → Prop} {x y : Option α} (h : Option.Rel R x y) :
    List.Forall₂ R x.toList y.toList := by
  cases h with
  | none => exact .nil
  | some same => exact .cons same .nil

/-- Two lists of checks are related throughout if the same series have samples and are counted, and each
series has its checks related. -/
theorem forall₂_checks {R : Check → Check → Prop} {e e' : Evaluator} {m n : Samples}
    (checked : ∀ s, isReachChecked m s = isReachChecked n s)
    (counts : ∀ s, m.sampleCount s = n.sampleCount s)
    (reach : ∀ s, isReachChecked m s = true → R (e.reachCheck m s) (e'.reachCheck n s))
    (score : ∀ s, 0 < m.sampleCount s → Option.Rel R (e.score m s) (e'.score n s)) :
    List.Forall₂ R (e.checks m) (e'.checks n) := by
  have one (s : Series) : List.Forall₂ R (e.seriesChecks m s) (e'.seriesChecks n s) := by
    rw [seriesChecks, seriesChecks, ← checked, ← counts]
    refine List.rel_append ?_ ?_
    · split
      · next some => exact .cons (reach s some) .nil
      · exact .nil
    · split
      · exact .nil
      · next some => exact forall₂_toList (score s (Nat.pos_of_ne_zero some))
  rw [checks, checks]
  induction Series.all with
  | nil => exact .nil
  | cons s rest ih =>
      rw [List.flatMap_cons, List.flatMap_cons]
      exact List.rel_append (one s) ih

section Rearranged

variable {e : Evaluator} {m n : Samples}

/-- No count exceeds what an index can be. -/
def IsCounted (m : Samples) : Prop :=
  ∀ s, m.sampleCount s ≤ Nat.pow 2 64 ∧ m.expectedCount s ≤ Nat.pow 2 64

theorem isCounted_ofTrials {trials : List Trial} (h : trials.length < UInt64.size) :
    IsCounted (ofTrials trials) := by
  intro s
  rw [ofTrials_eq_tally]
  have samples := sampleCount_le_expectedCount_tally s trials
  have expected := expectedCount_le_trialCount_tally s trials
  have few : (tally trials).trialCount ≤ Nat.pow 2 64 := Nat.le_of_lt h
  exact ⟨Nat.le_trans samples (Nat.le_trans expected few), Nat.le_trans expected few⟩

theorem isReachChecked_eq (h : Rearranged m n) (s : Series) :
    isReachChecked m s = isReachChecked n s := by
  rw [isReachChecked, isReachChecked, h.sampleCount, h.expectedCount]

theorem reachCheck_same (h : Rearranged m n) (he : e.IsComparable) (hm : IsCounted m) {s : Series}
    (checked : isReachChecked m s = true) : Check.Same (e.reachCheck m s) (e.reachCheck n s) := by
  have pos := ((isReachChecked_iff m s).1 checked).1
  have number : share (m.sampleCount s) (m.expectedCount s) ≠ nan :=
    share_ne_nan (Nat.le_trans (hm s).1 (by decide)) (Nat.le_trans (hm s).2 (by decide)) pos
  have equal : e.reachCheck m s = e.reachCheck n s := by
    rw [reachCheck, reachCheck, h.sampleCount, h.expectedCount]
  rw [← equal]
  exact ⟨rfl, rfl, rfl, rfl, rfl, .refl number, .refl (he.rateTarget .reach), rfl, .none⟩

theorem latencyCheck_same (h : Rearranged m n) (he : e.IsComparable) (hb : m.IsBounded)
    {s : Series} (few : (m.latencies s).size ≤ Nat.pow 2 64) (filled : 0 < (m.latencies s).size)
    (timeout : Span) : Check.Same (e.latencyCheck m s timeout) (e.latencyCheck n s timeout) := by
  have latencies := h.latencies s
  have size : (m.latencies s).toList.length = (n.latencies s).toList.length := latencies.length_eq
  have below : (m.latencies s).toList.countP (fun d => d.shorter timeout) =
      (n.latencies s).toList.countP fun d => d.shorter timeout := latencies.countP_eq _
  have number : (e.latencyCheck m s timeout).rate ≠ nan := by
    have few : (m.latencies s).toList.length ≤ Nat.pow 2 128 := Nat.le_trans few (by decide)
    exact share_ne_nan (Nat.le_trans List.countP_le_length few) few filled
  have rate : (e.latencyCheck m s timeout).rate = (e.latencyCheck n s timeout).rate := by
    simp only [latencyCheck, size, below]
  refine ⟨rfl, rfl, rfl, size, h.expectedCount s, ?_, .refl (he.rateTarget .success), ?_, ?_⟩
  · rw [← rate]
    exact .refl number
  · exact congrArg (Binary64.le e.settings.successTarget) rate
  · exact percentile_same_of_perm (h.values s) (hb s) 50

theorem throughputCheck_same (h : Rearranged m n) {s : Series} {b : Benchmark}
    (hb : b.kbs ≠ nan) {observed observed' : Binary64} (same : Binary64.Same observed observed') :
    Check.Same (throughputCheck m s b observed) (throughputCheck n s b observed') :=
  ⟨rfl, rfl, rfl, (h.values s).length_eq, h.expectedCount s, same, .refl hb, same.le_eq b.kbs,
    .some same⟩

theorem score_same (h : Rearranged m n) (he : e.IsComparable) (hb : m.IsBounded)
    (hm : IsCounted m) (s : Series) : Option.Rel Check.Same (e.score m s) (e.score n s) := by
  rw [score, score]
  cases kind : s.isThroughput with
  | true =>
      rw [if_pos rfl, if_pos rfl, throughputScore, throughputScore]
      cases hbench : e.benchmark? s with
      | none => exact .none
      | some b =>
          have observed := percentile_same_of_perm (h.values s) (hb s) (.ofNat b.percentile)
          dsimp only
          generalize percentile (m.values s).toList _ = x, percentile (n.values s).toList _ = y
            at observed
          cases observed with
          | none => exact .none
          | some same => exact .some (throughputCheck_same h (kbs_ne_nan he hbench) same)
  | false =>
      rw [if_neg Bool.false_ne_true, if_neg Bool.false_ne_true, latencyScore, latencyScore]
      cases e.timeout? s with
      | none => exact .none
      | some timeout =>
          have size : (m.latencies s).size = (n.latencies s).size := (h.latencies s).length_eq
          have few : (m.latencies s).size ≤ Nat.pow 2 64 := by
            rw [← sampleCount_eq_size_latencies m kind]
            exact (hm s).1
          simp only [Array.isEmpty, ← size, decide_eq_true_eq]
          split
          · exact .none
          · next filled =>
            exact .some (latencyCheck_same h he hb few (Nat.pos_of_ne_zero filled) timeout)

theorem checks_same (h : Rearranged m n) (he : e.IsComparable) (hb : m.IsBounded)
    (hm : IsCounted m) : List.Forall₂ Check.Same (e.checks m) (e.checks n) :=
  forall₂_checks (isReachChecked_eq h) h.sampleCount (fun _ => reachCheck_same h he hm)
    fun s _ => score_same h he hb hm s

theorem scores_same {checks checks' : List Check} (h : List.Forall₂ Check.Same checks checks') :
    List.Forall₂ Check.Same (Check.scores checks) (Check.scores checks') := by
  refine List.rel_filter ?_ h
  intro c d same
  simp only [same.aspect]

theorem countP_passed_eq {checks checks' : List Check}
    (h : List.Forall₂ Check.Same checks checks') :
    checks.countP Check.passed = checks'.countP Check.passed := by
  induction h with
  | nil => rfl
  | cons same _ ih => rw [List.countP_cons, List.countP_cons, ih, same.passed]

/-- The totals only count checks. -/
theorem totals_same {checks checks' : List Check} (h : List.Forall₂ Check.Same checks checks')
    {samples expected : Nat} (hs : samples ≤ Nat.pow 2 128) (hx : expected ≤ Nat.pow 2 128)
    (hlen : (Check.scores checks).length ≤ Nat.pow 2 128) :
    Totals.Same (e.totals checks samples expected) (e.totals checks' samples expected) := by
  have scores := scores_same h
  have zero : (0 : Binary64) ≠ nan := ne_nan_of_isFinite (by decide +kernel)
  have none : Check.scores checks = [] ↔ Check.scores checks' = [] := by
    rw [← List.length_eq_zero_iff, ← List.length_eq_zero_iff, scores.length_eq]
  refine ⟨?_, ?_, ?_⟩
  · rw [reached_totals, reached_totals]
  · rw [reachRate_totals, reachRate_totals]
    split
    · exact .refl zero
    · next some => exact .refl (share_ne_nan hs hx (Nat.pos_of_ne_zero some))
  · rw [successRate_totals, successRate_totals, ← countP_passed_eq scores, ← scores.length_eq]
    simp only [← none]
    split
    · exact .refl zero
    · next some =>
      exact .refl (share_ne_nan (Nat.le_trans List.countP_le_length hlen) hlen
        (List.length_pos_iff.2 some))

theorem reachTotal_eq (h : Rearranged m n) {count count' : Series → Nat}
    (hc : ∀ s, count s = count' s) : reachTotal m count = reachTotal n count' := by
  rw [reachTotal, reachTotal, funext hc, funext (isReachChecked_eq h)]

/-- Reports on the same samples differ at most in their times. -/
theorem evaluate_same (h : Rearranged m n) (he : e.IsComparable) (hb : m.IsBounded)
    (hm : IsCounted m) (now later : Instant) :
    Report.Same (e.evaluate m now) (e.evaluate n later) := by
  have checks := checks_same h he hb hm
  refine ⟨rfl, h.trialCount, ?_, checks, ?_, ?_⟩
  · change Totals.Same (e.totals _ _ _) (e.totals _ _ _)
    rw [← reachTotal_eq h h.sampleCount, ← reachTotal_eq h h.expectedCount]
    exact totals_same checks (reachTotal_le fun s => (hm s).1) (reachTotal_le fun s => (hm s).2)
      (Nat.le_trans (e.length_scores_le m) (by decide))
  · exact List.rel_filterMap (fun _ _ same => same.miss) checks
  · have unsampled : m.sampleCount = n.sampleCount := funext h.sampleCount
    rw [evaluate, evaluate, unsampled]

end Rearranged

/-- The order of trials has no influence on a report: whatever is measured, as long as throughputs
are finite and not below zero, the same trials in another order give the same checks with the same
rates and figures, the same misses, the same totals and the same series without a sample, and so the
same verdict. Zeros of both signs count as equal. The trials are as many as an index can count. -/
theorem evaluate_ofTrials_perm (e : Evaluator) {trials others : List Trial}
    (h : trials.Perm others) (he : e.IsComparable) (hb : ∀ t ∈ trials, t.IsBounded)
    (hlen : trials.length < UInt64.size) (now later : Instant) :
    Report.Same (e.evaluate (ofTrials trials) now) (e.evaluate (ofTrials others) later) ∧
    (e.evaluate (ofTrials trials) now).passed = (e.evaluate (ofTrials others) later).passed := by
  have same : Report.Same (e.evaluate (ofTrials trials) now) (e.evaluate (ofTrials others) later) :=
    evaluate_same (rearranged_ofTrials h) he (isBounded_ofTrials hb) (isCounted_ofTrials hlen) now
      later
  exact ⟨same, same.passed⟩

theorem isComparable_default : (Evaluator.mk {} {} {}).IsComparable := by
  refine ⟨?_, ?_⟩
  · intro target
    cases target <;> exact ne_nan_of_isFinite (by decide +kernel)
  · intro link
    cases link <;> exact ne_nan_of_isFinite (by decide +kernel)

/-- Throughputs of zero, one of them negative, and a latency in the second trial. -/
theorem evaluate_ofTrials_perm_of_zeros :
    let slow : Trial := { btThroughput := some 0 }
    let other : Trial := { first := { discovery := some (.ofSecs 3) }, btThroughput := some (-0) }
    let r := (Evaluator.mk {} {} {}).evaluate (ofTrials [slow, other]) .epoch
    let q := (Evaluator.mk {} {} {}).evaluate (ofTrials [other, slow]) .epoch
    Report.Same r q ∧ r.passed = q.passed := by
  intro slow other r q
  have zeros : (0 : Binary64).isBound = true ∧ (-0 : Binary64).isBound = true := by decide +kernel
  have bounded : ∀ t ∈ [slow, other], t.IsBounded := by
    intro t ht x hx
    rcases List.mem_pair.1 ht with rfl | rfl
    · rcases hx with h | h
      · exact Option.some.inj h ▸ zeros.1
      · exact nomatch h
    · rcases hx with h | h
      · exact Option.some.inj h ▸ zeros.2
      · exact nomatch h
  exact evaluate_ofTrials_perm _ (.swap other slow []) isComparable_default bounded (by decide)
    .epoch .epoch

end Evaluator

end LinkTrials
