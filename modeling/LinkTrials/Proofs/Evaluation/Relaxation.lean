import LinkTrials.Proofs.Evaluation.Reordering
import LinkTrials.Proofs.Percentile.Monotone

/-!
Reports under targets that ask for less.

Which checks a report has is a matter of counts, and no target has an influence on it. So two
evaluators over the same samples have checks of the same subjects, and where every target of one is at
most as hard to meet as that of the other, what passes under the harder targets passes under the
easier ones.
-/
namespace LinkTrials

open Binary64

/-- A check of the same subject that passes wherever the first one does. -/
structure Check.Eased (c d : Check) : Prop where
  subject : c.subject = d.subject
  passed : c.passed = true → d.passed = true

namespace Evaluator

open Samples

/-- The second evaluator asks for no more than the first: its shares and benchmarks are not greater,
the percentiles that have to reach the benchmarks not smaller, and no round has less time. -/
structure Relaxes (e e' : Evaluator) : Prop where
  medium : e'.settings.medium = e.settings.medium
  rateTarget : ∀ target, le (e'.settings.rateTarget target) (e.settings.rateTarget target) = true
  benchmark : ∀ link,
    le (e'.settings.benchmark link).kbs (e.settings.benchmark link).kbs = true
  percentile : ∀ link,
    (e.settings.benchmark link).percentile ≤ (e'.settings.benchmark link).percentile
  firstDiscovery : (e.firstRound.resolvedDiscovery .first).toNanos ≤
    (e'.firstRound.resolvedDiscovery .first).toNanos
  firstConnection : (e.firstRound.connectionBudget .first).toNanos ≤
    (e'.firstRound.connectionBudget .first).toNanos
  secondDiscovery : (e.secondRound.resolvedDiscovery .second).toNanos ≤
    (e'.secondRound.resolvedDiscovery .second).toNanos
  secondConnection : (e.secondRound.connectionBudget .second).toNanos ≤
    (e'.secondRound.connectionBudget .second).toNanos

variable {e e' : Evaluator} {m : Samples} {s : Series}

theorem Relaxes.timeout_le (h : e.Relaxes e') {timeout timeout' : Span}
    (ht : e.timeout? s = some timeout) (ht' : e'.timeout? s = some timeout') :
    timeout.toNanos ≤ timeout'.toNanos := by
  cases s with
  | btThroughput | wifiThroughput => cases ht
  | discovererWlan | mediumUpgrade | advertiserWlan =>
      cases ht
      cases ht'
      exact Nat.le_refl _
  | firstDiscovery =>
      cases ht
      cases ht'
      exact h.firstDiscovery
  | firstConnection =>
      cases ht
      cases ht'
      exact h.firstConnection
  | secondDiscovery =>
      cases ht
      cases ht'
      exact h.secondDiscovery
  | secondConnection =>
      cases ht
      cases ht'
      exact h.secondConnection

theorem Relaxes.benchmark_le (h : e.Relaxes e') {b b' : Benchmark} (hb : e.benchmark? s = some b)
    (hb' : e'.benchmark? s = some b') :
    le b'.kbs b.kbs = true ∧ b.percentile ≤ b'.percentile := by
  cases s with
  | btThroughput =>
      cases hb
      cases hb'
      exact ⟨h.benchmark .bt, h.percentile .bt⟩
  | wifiThroughput =>
      cases hb
      cases hb'
      rw [Settings.upgradedBenchmark, Settings.upgradedBenchmark, Settings.mediumBenchmark,
        Settings.mediumBenchmark, h.medium]
      exact ⟨h.benchmark _, h.percentile _⟩
  | _ => cases hb

theorem countP_shorter_le {timeout timeout' : Span} (h : timeout.toNanos ≤ timeout'.toNanos)
    (latencies : List Span) :
    latencies.countP (fun d => d.shorter timeout) ≤
      latencies.countP fun d => d.shorter timeout' := by
  refine List.countP_mono_left fun d _ short => ?_
  rw [Span.shorter_iff] at short ⊢
  exact Nat.lt_of_lt_of_le short h

theorem ofNat_le_ofNat {n n' : Nat} (h : n ≤ n') : le (ofNat n) (ofNat n') = true :=
  ofUnits_le_ofUnits Nat.one_pos Nat.one_pos (Nat.mul_le_mul_right 1 (Nat.mul_le_mul_right _ h))

theorem reachCheck_eased (h : e.Relaxes e') (m : Samples) (s : Series) :
    Check.Eased (e.reachCheck m s) (e'.reachCheck m s) :=
  ⟨rfl, fun passed => Binary64.le_trans (h.rateTarget .reach) passed⟩

theorem subject_latencyCheck (e : Evaluator) (m : Samples) (s : Series) (timeout : Span) :
    (e.latencyCheck m s timeout).subject = (s, .latency) := rfl

theorem latencyCheck_eased (h : e.Relaxes e') {timeout timeout' : Span}
    (longer : timeout.toNanos ≤ timeout'.toNanos) (filled : 0 < (m.latencies s).size)
    (few : (m.latencies s).size ≤ Nat.pow 2 128) :
    Check.Eased (e.latencyCheck m s timeout) (e'.latencyCheck m s timeout') := by
  have target : le e'.settings.successTarget e.settings.successTarget = true :=
    h.rateTarget .success
  have rate : le (e.latencyCheck m s timeout).rate (e'.latencyCheck m s timeout').rate = true :=
    share_mono (countP_shorter_le longer _) (Nat.le_trans List.countP_le_length few) few filled
  refine ⟨(subject_latencyCheck e m s _).trans (subject_latencyCheck e' m s _).symm, ?_⟩
  intro passed
  have reached : le e.settings.successTarget (e.latencyCheck m s timeout).rate = true := passed
  exact Binary64.le_trans target (Binary64.le_trans reached rate)

theorem throughputCheck_eased {b b' : Benchmark} (lower : le b'.kbs b.kbs = true)
    {observed observed' : Binary64} (higher : le observed observed' = true) :
    Check.Eased (throughputCheck m s b observed) (throughputCheck m s b' observed') :=
  ⟨rfl, fun passed => Binary64.le_trans lower (Binary64.le_trans passed higher)⟩

theorem score_eased (h : e.Relaxes e') (hm : m.Storable) (hb : m.IsBounded) (hc : IsCounted m)
    (hpos : 0 < m.sampleCount s) : Option.Rel Check.Eased (e.score m s) (e'.score m s) := by
  cases kind : s.isThroughput with
  | false =>
      obtain ⟨timeout, ht⟩ := e.timeout?_eq_some kind
      obtain ⟨timeout', ht'⟩ := e'.timeout?_eq_some kind
      have few := (hc s).1
      rw [score_eq_latencyCheck ht hpos, score_eq_latencyCheck ht' hpos]
      rw [sampleCount_eq_size_latencies m kind] at hpos few
      exact .some (latencyCheck_eased h (h.timeout_le ht ht') hpos (Nat.le_trans few (by decide)))
  | true =>
      obtain ⟨b, hbench⟩ := e.benchmark?_eq_some kind
      obtain ⟨b', hbench'⟩ := e'.benchmark?_eq_some kind
      obtain ⟨lower, higher⟩ := h.benchmark_le hbench hbench'
      have few := hm s kind
      rw [sampleCount_eq_size_values, ← Array.length_toList] at hpos few
      have filled := List.length_pos_iff.1 hpos
      obtain ⟨v, hv⟩ := Option.isSome_iff_exists.1
        (percentile_isSome (.ofNat b.percentile) filled few)
      obtain ⟨v', hv'⟩ := Option.isSome_iff_exists.1
        (percentile_isSome (.ofNat b'.percentile) filled few)
      have observed := percentile_mono (hb s) few (ofNat_le_ofNat higher) hv hv'
      rw [score_eq_throughputCheck hbench hv, score_eq_throughputCheck hbench' hv']
      exact .some (throughputCheck_eased lower observed)

theorem checks_eased (h : e.Relaxes e') (hm : m.Storable) (hb : m.IsBounded) (hc : IsCounted m) :
    List.Forall₂ Check.Eased (e.checks m) (e'.checks m) :=
  forall₂_checks (fun _ => rfl) (fun _ => rfl) (fun s _ => reachCheck_eased h m s)
    fun _ => score_eased h hm hb hc

theorem all_passed_of_eased {checks checks' : List Check}
    (h : List.Forall₂ Check.Eased checks checks') (passed : ∀ c ∈ checks, c.passed = true) :
    ∀ c ∈ checks', c.passed = true := by
  induction h with
  | nil => exact passed
  | cons eased _ ih =>
      obtain ⟨first, later⟩ := List.forall_mem_cons.1 passed
      exact List.forall_mem_cons.2 ⟨eased.passed first, ih later⟩

/-- Targets that ask for less never turn a pass into a miss. Whatever the trials were whose samples
are evaluated, as long as throughputs are finite and not below zero, both evaluators check the same
subjects in the same order, a check that passes under the first passes under the second, and so does
the whole run. -/
theorem evaluate_relaxed (h : e.Relaxes e') {steps : List Step}
    (hb : ∀ t ∈ given steps, t.IsBounded) (hlen : (given steps).length < UInt64.size)
    (hm : (run steps).Storable) (now later : Instant) :
    let r := e.evaluate (run steps) now
    let r' := e'.evaluate (run steps) later
    List.Forall₂ Check.Eased r.checks r'.checks ∧ (r.passed = true → r'.passed = true) := by
  intro r r'
  have given_eq : run steps = ofTrials (given steps) := by rw [run_eq_tally, ofTrials_eq_tally]
  have bounded : (run steps).IsBounded := by
    rw [given_eq]
    exact isBounded_ofTrials hb
  have counted : IsCounted (run steps) := by
    rw [given_eq]
    exact isCounted_ofTrials hlen
  have eased : List.Forall₂ Check.Eased r.checks r'.checks := checks_eased h hm bounded counted
  refine ⟨eased, fun passed => ?_⟩
  obtain ⟨all, enough⟩ := (passed_evaluate e (run steps) now).1 passed
  refine (passed_evaluate e' (run steps) later).2 ⟨all_passed_of_eased eased all, ?_⟩
  -- The samples in all are the same, and of them no larger share is asked for.
  change (e.totals _ _ _).reached = true at enough
  change (e'.totals _ _ _).reached = true
  rw [reached_totals, Bool.and_eq_true] at enough ⊢
  exact ⟨enough.1, Binary64.le_trans (h.rateTarget .reach) enough.2⟩

/-- A lower share, a higher percentile and a longer timeout. -/
theorem evaluate_relaxed_of_percentile :
    let easier : Evaluator :=
      { settings := { btPercentile := 100, successTarget := .ofDecimal false 9 (-1) }
        firstRound := { discovery := some (.ofSecs 60) } }
    let steps : List Step :=
      [.extend [{ first := { discovery := some (.ofSecs 3) }, btThroughput := some 40 },
        { first := { discovery := some (.ofSecs 5) }, btThroughput := some 60 }]]
    ((Evaluator.mk {} {} {}).evaluate (run steps) .epoch).passed = true ∧
      (easier.evaluate (run steps) .epoch).passed = true := by
  intro easier steps
  have relaxes : (Evaluator.mk {} {} {}).Relaxes easier := by
    refine ⟨rfl, ?_, ?_, ?_, by decide, by decide, by decide, by decide⟩
    · intro target
      cases target <;> decide +kernel
    · intro link
      cases link <;> decide +kernel
    · intro link
      cases link <;> decide
  have bounds : (40 : Binary64).isBound = true ∧ (60 : Binary64).isBound = true := by
    decide +kernel
  have bounded : ∀ t ∈ given steps, t.IsBounded := by
    intro t ht x hx
    rcases List.mem_pair.1 ht with rfl | rfl
    · rcases hx with h | h
      · exact Option.some.inj h ▸ bounds.1
      · exact nomatch h
    · rcases hx with h | h
      · exact Option.some.inj h ▸ bounds.2
      · exact nomatch h
  have storable : (run steps).Storable := by
    intro s _
    cases s <;> decide
  have passed : ((Evaluator.mk {} {} {}).evaluate (run steps) .epoch).passed = true := by
    decide +kernel
  exact ⟨passed, (evaluate_relaxed relaxes bounded (by decide) storable .epoch .epoch).2 passed⟩

end Evaluator

end LinkTrials
