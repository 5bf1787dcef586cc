import Mathlib.Data.List.Forall2
import LinkTrials.Proofs.Evaluation.Totals

/-!
Reports on trials of which some went better.

A shorter latency is below every timeout that the longer one was below. A latency that was missing adds
a sample to its series, and if it is below the timeout then the share of such latencies does not fall.
Only a series without any sample needs care: with the first one it may be checked for how many of its
samples there are, unless it was checked for that already because trials said that they expect them.
-/
namespace LinkTrials

namespace Trial

variable {t : Trial} {s u : Series} {d : Span}

/-- The trial with another latency for a series; throughputs have none. -/
def withLatency (t : Trial) (s : Series) (d : Span) : Trial :=
  match s with
  | .firstDiscovery => { t with first := { t.first with discovery := some d } }
  | .firstConnection => { t with first := { t.first with connection := some d } }
  | .discovererWlan => { t with discovererWlan := some d }
  | .secondDiscovery => { t with second := { t.second with discovery := some d } }
  | .secondConnection => { t with second := { t.second with connection := some d } }
  | .mediumUpgrade => { t with second := { t.second with upgrade := some d } }
  | .advertiserWlan => { t with advertiserWlan := some d }
  | .btThroughput | .wifiThroughput => t

theorem latency?_withLatency (h : s.isThroughput = false) :
    (t.withLatency s d).latency? s = some d := by
  cases s with
  | btThroughput | wifiThroughput => cases h
  | _ => rfl

theorem latency?_withLatency_of_ne (h : u ≠ s) :
    (t.withLatency s d).latency? u = t.latency? u := by
  cases s <;> cases u <;> first | rfl | exact absurd rfl h

theorem expects_withLatency : (t.withLatency s d).expects u = t.expects u := by
  cases s <;> cases u <;> rfl

theorem value?_withLatency (h : u.isThroughput = true) :
    (t.withLatency s d).value? u = t.value? u := by
  cases u with
  | btThroughput | wifiThroughput => cases s <;> rfl
  | _ => cases h

theorem isThroughput_of_latency? (h : t.latency? s = some d) : s.isThroughput = false := by
  cases s with
  | btThroughput | wifiThroughput => cases h
  | _ => rfl

/-- What a trial adds to the latencies of a series. -/
def sample? (s : Series) (t : Trial) : Option Span := if t.expects s then t.latency? s else none

end Trial

namespace Evaluator

open Binary64 Samples

variable {e : Evaluator} {m n : Samples} {s : Series} {t t' : Trial} {trials trials' : List Trial}

/-- What may become of a latency of a trial if nothing gets worse: it stays, it gets shorter, or it is
found to be below the timeout where it was missing. The last is only safe for a series that is checked
in any case. -/
inductive Improves (e : Evaluator) (m : Samples) (s : Series) : Option Span → Option Span → Prop
  | same (latency : Option Span) : Improves e m s latency latency
  | shorter {d d' : Span} (h : d'.shorter d = true) : Improves e m s (some d) (some d')
  | supplied {d timeout : Span} (limit : e.timeout? s = some timeout)
      (below : d.shorter timeout = true) (checked : s.isGated = true ∨ 0 < m.sampleCount s) :
      Improves e m s none (some d)

/-- The second trial differs from the first in what no series looks at and in latencies that are not
worse. -/
structure ImprovesTrial (e : Evaluator) (m : Samples) (t t' : Trial) : Prop where
  expects : ∀ s, t'.expects s = t.expects s
  throughput : ∀ s, s.isThroughput = true → t'.value? s = t.value? s
  latency : ∀ s, Improves e m s (t.latency? s) (t'.latency? s)

theorem ImprovesTrial.refl (t : Trial) : ImprovesTrial e m t t :=
  ⟨fun _ => rfl, fun _ _ => rfl, fun _ => .same _⟩

theorem ImprovesTrial.sample (h : ImprovesTrial e m t t') (s : Series) :
    Improves e m s (t.sample? s) (t'.sample? s) := by
  rw [Trial.sample?, Trial.sample?, h.expects s]
  split
  · exact h.latency s
  · exact .same none

theorem latencies_eq_filterMap_sample (s : Series) (trials : List Trial) :
    ((ofTrials trials).latencies s).toList = trials.filterMap (Trial.sample? s) := by
  rw [ofTrials_eq_tally, latencies_tally, List.filterMap_filter]
  rfl

theorem countP_sample_cons (test : Span → Bool) (s : Series) (t : Trial) (trials : List Trial) :
    ((t :: trials).filterMap (Trial.sample? s)).countP test =
      (t.sample? s).toList.countP test + (trials.filterMap (Trial.sample? s)).countP test := by
  cases h : t.sample? s with
  | none => rw [List.filterMap_cons_none h, Option.toList_none, List.countP_nil, Nat.zero_add]
  | some d =>
      rw [List.filterMap_cons_some h, Option.toList_some, ← List.singleton_append, List.countP_append]

theorem countP_sample_le {test : Span → Bool} (h : List.Forall₂ (fun t t' =>
      (Trial.sample? s t).toList.countP test ≤ (Trial.sample? s t').toList.countP test)
      trials trials') :
    (trials.filterMap (Trial.sample? s)).countP test ≤
      (trials'.filterMap (Trial.sample? s)).countP test := by
  induction h with
  | nil => exact Nat.le_refl _
  | cons first _ ih =>
      rw [countP_sample_cons, countP_sample_cons]
      exact Nat.add_le_add first ih

theorem map_eq_of_forall₂ {α : Type} {f : Trial → α} {R : Trial → Trial → Prop}
    (same : ∀ t t', R t t' → f t' = f t) (h : List.Forall₂ R trials trials') :
    trials'.map f = trials.map f := by
  induction h with
  | nil => rfl
  | cons first _ ih => rw [List.map_cons, List.map_cons, same _ _ first, ih]

section Counts

variable {o o' : Option Span} {timeout : Span}

theorem Improves.short_le (h : Improves e m s o o') (timeout : Span) :
    o.toList.countP (fun d => d.shorter timeout) ≤
      o'.toList.countP fun d => d.shorter timeout := by
  cases h with
  | same => exact Nat.le_refl _
  | shorter less =>
      rw [Span.shorter_iff] at less
      simp only [Option.toList_some, List.countP_singleton, Span.shorter_iff]
      split <;> split <;> omega
  | supplied => exact Nat.zero_le _

theorem Improves.late_le (h : Improves e m s o o') (limit : e.timeout? s = some timeout) :
    o'.toList.countP (fun d => !d.shorter timeout) ≤
      o.toList.countP fun d => !d.shorter timeout := by
  cases h with
  | same => exact Nat.le_refl _
  | shorter less =>
      rw [Span.shorter_iff] at less
      simp only [Option.toList_some, List.countP_singleton, Bool.not_eq_true', ← Bool.not_eq_true,
        Span.shorter_iff]
      split <;> split <;> omega
  | @supplied d timeout' limit' below =>
      rw [limit] at limit'
      cases limit'
      rw [Option.toList_some, List.countP_singleton, below]
      exact Nat.le_refl 0

theorem Improves.size_le (h : Improves e m s o o') :
    o.toList.countP (fun _ => true) ≤ o'.toList.countP fun _ => true := by
  cases h with
  | same | shorter => exact Nat.le_refl _
  | supplied => exact Nat.zero_le _

/-- A series that is only checked once it has a sample gets none for the first time. -/
theorem Improves.size_ge (h : Improves e m s o o')
    (unchecked : ¬ (s.isGated = true ∨ 0 < m.sampleCount s)) :
    o'.toList.countP (fun _ => true) ≤ o.toList.countP fun _ => true := by
  cases h with
  | same | shorter => exact Nat.le_refl _
  | supplied _ _ checked => exact absurd checked unchecked

end Counts

/-- The second samples are at least as good as the first: no fewer of any series, where the latencies
added are below their timeouts, and no new series is checked. -/
structure ImprovesSamples (e : Evaluator) (m n : Samples) : Prop where
  expectedCount : ∀ s, n.expectedCount s = m.expectedCount s
  values : ∀ s, s.isThroughput = true → n.values s = m.values s
  short : ∀ s timeout,
    (m.latencies s).toList.countP (fun d => d.shorter timeout) ≤
      (n.latencies s).toList.countP fun d => d.shorter timeout
  late : ∀ s timeout, e.timeout? s = some timeout →
    (n.latencies s).toList.countP (fun d => !d.shorter timeout) ≤
      (m.latencies s).toList.countP fun d => !d.shorter timeout
  sampleCount : ∀ s, m.sampleCount s ≤ n.sampleCount s
  checked : ∀ s, 0 < n.sampleCount s → s.isGated = true ∨ 0 < m.sampleCount s

theorem size_eq_countP (l : Array Span) : l.size = l.toList.countP fun _ => true := by
  rw [List.countP_true, Array.length_toList]

section Trials

variable (h : List.Forall₂ (ImprovesTrial e m) trials trials')
include h

theorem expectedCount_improved (s : Series) :
    (ofTrials trials').expectedCount s = (ofTrials trials).expectedCount s := by
  have flags := map_eq_of_forall₂ (fun _ _ better => better.expects s) h
  rw [ofTrials_eq_tally, ofTrials_eq_tally, ← countP_expects, ← countP_expects,
    ← Function.id_comp (Trial.expects s), ← List.countP_map, ← List.countP_map, flags]

theorem values_improved (throughput : s.isThroughput = true) :
    (ofTrials trials').values s = (ofTrials trials).values s := by
  have gated : s.isGated = false := by
    cases s with
    | btThroughput | wifiThroughput => rfl
    | _ => cases throughput
  have all (l : List Trial) : l.filter (Trial.expects s) = l :=
    List.filter_eq_self.2 fun t _ => expects_of_not_gated gated t
  have numbers := map_eq_of_forall₂ (fun _ _ better => better.throughput s throughput) h
  rw [← Array.toList_inj, ofTrials_eq_tally, ofTrials_eq_tally, values_tally, values_tally, all, all,
    ← Function.id_comp (Trial.value? s), ← List.filterMap_map, ← List.filterMap_map, numbers]

theorem countP_latencies_le {test : Span → Bool}
    (each : ∀ o o', Improves e m s o o' → o.toList.countP test ≤ o'.toList.countP test) :
    ((ofTrials trials).latencies s).toList.countP test ≤
      ((ofTrials trials').latencies s).toList.countP test := by
  rw [latencies_eq_filterMap_sample, latencies_eq_filterMap_sample]
  exact countP_sample_le (h.imp fun _ _ better => each _ _ (better.sample s))

theorem countP_latencies_ge {test : Span → Bool}
    (each : ∀ o o', Improves e m s o o' → o'.toList.countP test ≤ o.toList.countP test) :
    ((ofTrials trials').latencies s).toList.countP test ≤
      ((ofTrials trials).latencies s).toList.countP test := by
  rw [latencies_eq_filterMap_sample, latencies_eq_filterMap_sample]
  exact countP_sample_le (List.Forall₂.flip (h.imp fun _ _ better => each _ _ (better.sample s)))

/-- No sample is lost, and none is won by a series that is only checked once it has one. -/
theorem sampleCount_improved (s : Series) :
    (ofTrials trials).sampleCount s ≤ (ofTrials trials').sampleCount s ∧
      (¬ (s.isGated = true ∨ 0 < m.sampleCount s) →
        (ofTrials trials').sampleCount s ≤ (ofTrials trials).sampleCount s) := by
  cases kind : s.isThroughput with
  | true =>
      have same : (ofTrials trials').sampleCount s = (ofTrials trials).sampleCount s := by
        rw [sampleCount_eq_size_values, sampleCount_eq_size_values, values_improved h kind]
      exact ⟨Nat.le_of_eq same.symm, fun _ => Nat.le_of_eq same⟩
  | false =>
      rw [sampleCount_eq_size_latencies _ kind, sampleCount_eq_size_latencies _ kind,
        size_eq_countP, size_eq_countP]
      exact ⟨countP_latencies_le h fun _ _ better => better.size_le,
        fun unchecked => countP_latencies_ge h fun _ _ better => better.size_ge unchecked⟩

end Trials

theorem improvesSamples_ofTrials
    (h : List.Forall₂ (ImprovesTrial e (ofTrials trials)) trials trials') :
    ImprovesSamples e (ofTrials trials) (ofTrials trials') := by
  refine ⟨expectedCount_improved h, fun s => values_improved h, ?_, ?_, ?_, ?_⟩
  · intro s timeout
    exact countP_latencies_le h fun _ _ better => better.short_le timeout
  · intro s timeout limit
    exact countP_latencies_ge h fun _ _ better => better.late_le limit
  · intro s
    exact (sampleCount_improved h s).1
  · -- Were the series new, it could not have won the sample that it has.
    intro s pos
    by_contra unchecked
    have few := (sampleCount_improved h s).2 unchecked
    exact unchecked (.inr (Nat.lt_of_lt_of_le pos few))

theorem ImprovesSamples.isReachChecked_eq (h : ImprovesSamples e m n) (s : Series) :
    isReachChecked n s = isReachChecked m s := by
  rw [Bool.eq_iff_iff, isReachChecked_iff, isReachChecked_iff, h.expectedCount s]
  refine and_congr_right fun _ => ⟨?_, ?_⟩
  · rintro (gated | some)
    · exact .inl gated
    · exact h.checked s some
  · exact Or.imp_right fun some => Nat.lt_of_lt_of_le some (h.sampleCount s)

theorem ImprovesSamples.sampleCount_le (h : ImprovesSamples e m n) (hn : Sound n)
    (few : reachTotal m m.expectedCount ≤ Nat.pow 2 53) (pos : 0 < n.sampleCount s) :
    n.sampleCount s ≤ Nat.pow 2 53 := by
  have checked := mem_reachChecked_of_pos hn pos
  rw [mem_reachChecked, h.isReachChecked_eq s, ← mem_reachChecked] at checked
  have bound := Nat.le_trans (le_total m.expectedCount checked) few
  rw [← h.expectedCount s] at bound
  exact Nat.le_trans (hn s) bound

theorem length_eq_short_add_late (l : List Span) (timeout : Span) :
    l.length =
      l.countP (fun d => d.shorter timeout) + l.countP fun d => !d.shorter timeout := by
  rw [List.length_eq_countP_add_countP fun d => d.shorter timeout]
  simp only [Bool.not_eq_true, Bool.decide_eq_false]

section Passed

variable (h : ImprovesSamples e m n) (hn : Sound n)
  (few : reachTotal m m.expectedCount ≤ Nat.pow 2 53)
  (passed : ∀ c ∈ e.checks m, c.passed = true)
include h hn few passed

theorem reachCheck_passed (hm : Sound m) (checked : isReachChecked n s = true) :
    (e.reachCheck n s).passed = true := by
  rw [h.isReachChecked_eq s, ← mem_reachChecked] at checked
  have before : le e.settings.reachTarget (share (m.sampleCount s) (m.expectedCount s)) = true :=
    passed _ (e.reachCheck_mem_checks checked)
  have pos := expectedCount_pos checked
  have bound := Nat.le_trans (le_total m.expectedCount checked) few
  have sound := hn s
  change le e.settings.reachTarget (share (n.sampleCount s) (n.expectedCount s)) = true
  rw [h.expectedCount s] at sound ⊢
  refine Binary64.le_trans before ?_
  exact share_le_share (hm s) sound bound bound pos pos
    (Nat.mul_le_mul_right _ (h.sampleCount s))

theorem latencyCheck_passed (target : e.settings.successTarget.isShare = true) {timeout : Span}
    (limit : e.timeout? s = some timeout) (pos : 0 < n.sampleCount s) :
    (e.latencyCheck n s timeout).passed = true := by
  have latency := isThroughput_of_timeout? limit
  have size (k : Samples) : k.sampleCount s = _ :=
    (sampleCount_eq_size_latencies k latency).trans (length_eq_short_add_late _ timeout)
  have bound := h.sampleCount_le hn few pos
  have more := h.sampleCount s
  have before : 0 < m.sampleCount s → (e.latencyCheck m s timeout).passed = true := by
    intro some
    exact passed _ (mem_checks.2 ⟨s, mem_seriesChecks.2 (.inr ⟨some, .latency limit⟩)⟩)
  change _ → le e.settings.successTarget (share _ (m.latencies s).toList.length) = true at before
  change le e.settings.successTarget (share _ (n.latencies s).toList.length) = true
  rw [length_eq_short_add_late _ timeout] at before ⊢
  rw [size m] at before more
  rw [size n] at pos bound more
  exact le_share_of_more target (h.short s timeout) (h.late s timeout limit) more pos bound before

theorem score_passed (target : e.settings.successTarget.isShare = true) (pos : 0 < n.sampleCount s)
    {c : Check} (scores : Scores e n s c) : c.passed = true := by
  cases scores with
  | latency limit => exact latencyCheck_passed h hn few passed target limit pos
  | @throughput b observed limit value =>
      -- Latencies are all that got better, so a throughput is scored as before.
      have numbers := h.values s (isThroughput_of_benchmark? limit)
      have check : throughputCheck n s b observed = throughputCheck m s b observed := by
        rw [throughputCheck, throughputCheck, numbers, h.expectedCount s]
      rw [sampleCount_eq_size_values, numbers, ← sampleCount_eq_size_values] at pos
      rw [numbers] at value
      rw [check]
      exact passed _ (mem_checks.2 ⟨s, mem_seriesChecks.2 (.inr ⟨pos, .throughput limit value⟩)⟩)

theorem checks_passed (hm : Sound m) (target : e.settings.successTarget.isShare = true) :
    ∀ c ∈ e.checks n, c.passed = true := by
  intro c hc
  obtain ⟨s, hs⟩ := mem_checks.1 hc
  rcases mem_seriesChecks.1 hs with ⟨checked, rfl⟩ | ⟨pos, scores⟩
  · exact reachCheck_passed h hn few passed hm checked
  · exact score_passed h hn few passed target pos scores

end Passed

theorem reached_improved (h : ImprovesSamples e m n) (hn : Sound n)
    (few : reachTotal m m.expectedCount ≤ Nat.pow 2 53) {now later : Instant}
    (enough : (e.evaluate m now).totals.reached = true) :
    (e.evaluate n later).totals.reached = true := by
  have series : reachChecked n = reachChecked m := by
    rw [reachChecked, reachChecked, funext h.isReachChecked_eq]
  have expected : n.expectedCount = m.expectedCount := funext h.expectedCount
  change (e.totals _ _ _).reached = true at enough
  change (e.totals _ _ _).reached = true
  rw [reached_totals, reachTotal_eq_total, reachTotal_eq_total, Bool.and_eq_true,
    decide_eq_true_eq] at enough ⊢
  rw [reachTotal_eq_total] at few
  rw [series, expected]
  refine ⟨enough.1, Binary64.le_trans enough.2 ?_⟩
  have more : total m.sampleCount (reachChecked m) ≤ total n.sampleCount (reachChecked m) :=
    total_le_total fun s _ => h.sampleCount s
  have sound : total n.sampleCount (reachChecked m) ≤ total m.expectedCount (reachChecked m) :=
    total_le_total fun s _ => h.expectedCount s ▸ hn s
  exact share_le_share (Nat.le_trans more sound) sound few few enough.1 enough.1
    (Nat.mul_le_mul_right _ more)

theorem isShare_of_validate {settings : Settings} (h : settings.validate = .ok ()) :
    settings.successTarget.isShare = true := by
  rw [Settings.validate_eq_ok_iff, Settings.violations] at h
  simp only [List.append_eq_nil_iff, Settings.rateViolations, Settings.violationIf_eq_nil_iff,
    Bool.not_eq_false'] at h
  exact h.1.2

theorem passed_of_forall₂ (valid : e.settings.validate = .ok ())
    (h : List.Forall₂ (ImprovesTrial e (ofTrials trials)) trials trials')
    (few : reachTotal (ofTrials trials) (ofTrials trials).expectedCount ≤ Nat.pow 2 53)
    {now later : Instant} (passed : (e.evaluate (ofTrials trials) now).passed = true) :
    (e.evaluate (ofTrials trials') later).passed = true := by
  have better := improvesSamples_ofTrials h
  have sound (trials : List Trial) : Sound (ofTrials trials) := sound_run [.ofTrials trials]
  rw [passed_evaluate] at passed ⊢
  exact ⟨checks_passed better (sound _) few passed.1 (sound _) (isShare_of_validate valid),
    reached_improved better (sound _) few passed.2⟩

theorem improvesTrial_withLatency {d : Span} (latency : s.isThroughput = false)
    (h : Improves e m s (t.latency? s) (some d)) : ImprovesTrial e m t (t.withLatency s d) := by
  refine ⟨fun _ => Trial.expects_withLatency, fun _ => Trial.value?_withLatency, ?_⟩
  intro u
  by_cases other : u = s
  · subst other
    rw [Trial.latency?_withLatency latency]
    exact h
  · rw [Trial.latency?_withLatency_of_ne other]
    exact .same _

/-- One latency of a trial that goes better than before. -/
inductive Improvement (e : Evaluator) (m : Samples) (t : Trial) : Trial → Prop
  | shorter {s : Series} {d d' : Span} (measured : t.latency? s = some d)
      (less : d'.shorter d = true) : Improvement e m t (t.withLatency s d')
  | supplied {s : Series} {d timeout : Span} (missing : t.latency? s = none)
      (limit : e.timeout? s = some timeout) (below : d.shorter timeout = true)
      (checked : s.isGated = true ∨ 0 < m.sampleCount s) :
      Improvement e m t (t.withLatency s d)
  /-- The change of medium in the first round belongs to no series. -/
  | firstUpgrade (upgrade : Option Span) :
      Improvement e m t { t with first := { t.first with upgrade := upgrade } }

theorem Improvement.improvesTrial (h : Improvement e m t t') : ImprovesTrial e m t t' := by
  cases h with
  | shorter measured less =>
      refine improvesTrial_withLatency (Trial.isThroughput_of_latency? measured) ?_
      rw [measured]
      exact .shorter less
  | supplied missing limit below checked =>
      refine improvesTrial_withLatency (isThroughput_of_timeout? limit) ?_
      rw [missing]
      exact .supplied limit below checked
  | firstUpgrade upgrade =>
      refine ⟨?_, ?_, ?_⟩
      · intro s
        cases s <;> rfl
      · intro s _
        cases s <;> rfl
      · intro s
        cases s <;> exact .same _

/-- Better latencies never turn a pass into a miss: if a run passes under valid settings, then so does
the run in which one latency of one trial is shorter, or one that was missing is there and below its
timeout. The latter asks that the series is one of which trials say that they expect it, or one that
has a sample already. -/
theorem evaluate_improved (valid : e.settings.validate = .ok ()) (before after : List Trial)
    (better : Improvement e (ofTrials (before ++ t :: after)) t t')
    (few : reachTotal (ofTrials (before ++ t :: after))
      (ofTrials (before ++ t :: after)).expectedCount ≤ Nat.pow 2 53)
    (now later : Instant)
    (passed : (e.evaluate (ofTrials (before ++ t :: after)) now).passed = true) :
    (e.evaluate (ofTrials (before ++ t' :: after)) later).passed = true := by
  have same (trials : List Trial) :
      List.Forall₂ (ImprovesTrial e (ofTrials (before ++ t :: after))) trials trials :=
    List.forall₂_same.2 fun t _ => .refl t
  have trials := List.rel_append (same before) (.cons better.improvesTrial (same after))
  exact passed_of_forall₂ valid trials few passed

/-- The second of two trials finds the other device, too. -/
theorem evaluate_improved_of_supplied :
    let e : Evaluator := { settings := { reachTarget := .ofDecimal false 5 (-1) } }
    let found : Trial := { first := { discovery := some (.ofSecs 3) } }
    (e.evaluate (ofTrials [found, {}]) .epoch).passed = true ∧
      (e.evaluate (ofTrials [found, found]) .epoch).passed = true := by
  intro e found
  have valid : e.settings.validate = .ok () := by
    rw [Settings.validate_eq_ok_iff]
    decide +kernel
  have limit : e.timeout? .firstDiscovery = some (e.firstRound.resolvedDiscovery .first) := rfl
  have sampled : 0 < (ofTrials [found, {}]).sampleCount .firstDiscovery := by decide
  have better : Improvement e (ofTrials [found, {}]) {} found :=
    .supplied (s := .firstDiscovery) (d := .ofSecs 3) rfl limit (by decide) (.inr sampled)
  have passed : (e.evaluate (ofTrials [found, {}]) .epoch).passed = true := by decide +kernel
  exact ⟨passed,
    evaluate_improved valid [found] [] better (by decide) .epoch .epoch passed⟩

end Evaluator

end LinkTrials
