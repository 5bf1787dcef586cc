import LinkTrials.Evaluation
import LinkTrials.Proofs.Percentile.Ranks
import LinkTrials.Proofs.Samples.History

/-!
The shape of a report.

What a report checks depends on counts alone: which series should have samples, and which do. No
score is lost on the way, since every series has a limit of its own kind and samples always have a
percentile. A check has a name that tells its series and its aspect, so no two checks of a report
have one name, and looking for a name finds the one check that has it.
-/
namespace LinkTrials

namespace Series

/-- The aspect under which samples of a series are scored. -/
def scored (s : Series) : Aspect := if s.isThroughput then .throughput else .latency

theorem mem_all (s : Series) : s ∈ all := by
  cases s <;> decide

/-- The front of a name, which is long enough to tell the series. -/
def mark (s : Series) : List Char := s.name.toList.take 8

theorem eq_of_mark_eq {s t : Series} (h : s.mark = t.mark) : s = t := by
  have distinct : ∀ s ∈ all, ∀ t ∈ all, s.mark = t.mark → s = t := by decide +kernel
  exact distinct s (mem_all s) t (mem_all t) h

theorem mark_append (s : Series) (rest : String) : (s.name ++ rest).toList.take 8 = s.mark := by
  have long : ∀ s ∈ all, 8 ≤ s.name.toList.length := by decide +kernel
  rw [String.toList_append, List.take_append_of_le_length (long s (mem_all s)), mark]

end Series

namespace Aspect

/-- The front of what stands behind the name of the series. -/
def mark : Aspect → List Char
  | .reach => ['_', 'r']
  | .latency => ['_', 's']
  | .throughput => ['_', 'p']

theorem eq_of_mark_eq {a b : Aspect} (h : a.mark = b.mark) : a = b := by
  cases a <;> cases b <;> simp_all [mark]

/-- What stands behind the name of the series in the name of a check. -/
inductive Ending : Aspect → String → Prop
  | reach : Ending .reach "_reach"
  | latency : Ending .latency "_success"
  | throughput (p : Nat) : Ending .throughput s!"_p{p}"

theorem Ending.take_two {a : Aspect} {ending : String} (h : a.Ending ending) :
    ending.toList.take 2 = a.mark := by
  cases h with
  | reach | latency => rfl
  | throughput p =>
      rw [String.toList_append]
      rfl

end Aspect

namespace Check

/-- What a check is about: a series under an aspect. -/
def subject (c : Check) : Series × Aspect := (c.series, c.aspect)

/-- The name starts with that of the series and goes on as the aspect has it. -/
def IsNamed (c : Check) : Prop :=
  ∃ rest : String, c.name = c.series.name ++ rest ∧ rest.toList.take 2 = c.aspect.mark

/-- Names of checks tell what they are about. -/
theorem IsNamed.subject_eq {c d : Check} (hc : c.IsNamed) (hd : d.IsNamed)
    (h : c.name = d.name) : c.subject = d.subject := by
  obtain ⟨rest, hname, haspect⟩ := hc
  obtain ⟨rest', hname', haspect'⟩ := hd
  rw [hname, hname'] at h
  have series : c.series = d.series := by
    apply Series.eq_of_mark_eq
    rw [← Series.mark_append c.series rest, h, Series.mark_append]
  have rests : rest = rest' := by
    rw [series] at h
    exact String.append_right_inj _ |>.1 h
  have aspect : c.aspect = d.aspect := by
    apply Aspect.eq_of_mark_eq
    rw [← haspect, ← haspect', rests]
  rw [subject, subject, series, aspect]

end Check

namespace Samples

/-- No series of throughputs has more samples than can be counted without rounding; with more, the
place of the last one may be rounded to behind the end. At eight bytes a sample, more of them would
not fit into the address space of any machine. -/
def Storable (m : Samples) : Prop := ∀ s, s.isThroughput = true → m.sampleCount s ≤ Nat.pow 2 53

theorem sampleCount_eq_size_latencies (m : Samples) {s : Series} (h : s.isThroughput = false) :
    m.sampleCount s = (m.latencies s).size := by
  cases s with
  | btThroughput | wifiThroughput => cases h
  | _ => rfl

end Samples

namespace Evaluator

open Samples

theorem timeout?_eq_some (e : Evaluator) {s : Series} (h : s.isThroughput = false) :
    ∃ timeout, e.timeout? s = some timeout := by
  cases s with
  | btThroughput | wifiThroughput => cases h
  | _ => exact ⟨_, rfl⟩

theorem isThroughput_of_timeout? {e : Evaluator} {s : Series} {timeout : Span}
    (h : e.timeout? s = some timeout) : s.isThroughput = false := by
  cases s with
  | btThroughput | wifiThroughput => cases h
  | _ => rfl

theorem benchmark?_eq_some (e : Evaluator) {s : Series} (h : s.isThroughput = true) :
    ∃ b, e.benchmark? s = some b := by
  cases s with
  | btThroughput | wifiThroughput => exact ⟨_, rfl⟩
  | _ => cases h

theorem isThroughput_of_benchmark? {e : Evaluator} {s : Series} {b : Benchmark}
    (h : e.benchmark? s = some b) : s.isThroughput = true := by
  cases s with
  | btThroughput | wifiThroughput => rfl
  | _ => cases h

section Scores

variable {e : Evaluator} {m : Samples} {s : Series} {c : Check}

/-- The checks that can be the score of a series: its latencies against a timeout, or a percentile of its
throughputs against a benchmark. -/
inductive Scores (e : Evaluator) (m : Samples) (s : Series) : Check → Prop
  | latency {timeout : Span} (limit : e.timeout? s = some timeout) :
      Scores e m s (e.latencyCheck m s timeout)
  | throughput {b : Benchmark} {observed : Binary64} (limit : e.benchmark? s = some b)
      (value : percentile (m.values s).toList (.ofNat b.percentile) = some observed) :
      Scores e m s (throughputCheck m s b observed)

/-- A score is about its series, under the aspect that goes with its kind. -/
theorem Scores.subject (h : Scores e m s c) : c.subject = (s, s.scored) := by
  cases h with
  | latency limit =>
      rw [Series.scored, isThroughput_of_timeout? limit]
      rfl
  | throughput limit value =>
      rw [Series.scored, isThroughput_of_benchmark? limit]
      rfl

theorem scores_of_score (h : e.score m s = some c) : Scores e m s c := by
  rw [score] at h
  split at h
  · rw [throughputScore] at h
    split at h
    · cases h
    · next b limit =>
      obtain ⟨observed, value, rfl⟩ := Option.map_eq_some_iff.1 h
      exact .throughput limit value
  · rw [latencyScore] at h
    split at h
    · cases h
    · next timeout limit =>
      obtain ⟨-, h⟩ := Option.ite_none_left_eq_some.1 h
      cases h
      exact .latency limit

theorem score_eq_latencyCheck {timeout : Span} (limit : e.timeout? s = some timeout)
    (hpos : 0 < m.sampleCount s) : e.score m s = some (e.latencyCheck m s timeout) := by
  have latency := isThroughput_of_timeout? limit
  rw [sampleCount_eq_size_latencies m latency] at hpos
  have filled : (m.latencies s).isEmpty = false := by
    rw [Array.isEmpty_eq_false_iff, ← Array.size_pos_iff]
    exact hpos
  rw [score, latency, if_neg Bool.false_ne_true, latencyScore, limit]
  simp only [filled, Bool.false_eq_true, ite_false]

theorem score_eq_throughputCheck {b : Benchmark} {observed : Binary64}
    (limit : e.benchmark? s = some b)
    (value : percentile (m.values s).toList (.ofNat b.percentile) = some observed) :
    e.score m s = some (throughputCheck m s b observed) := by
  rw [score, isThroughput_of_benchmark? limit, if_pos rfl, throughputScore, limit]
  simp only [value, Option.map_some]

theorem score_eq_some_iff (hpos : 0 < m.sampleCount s) :
    e.score m s = some c ↔ Scores e m s c := by
  constructor
  · exact scores_of_score
  · intro h
    cases h with
    | latency limit => exact score_eq_latencyCheck limit hpos
    | throughput limit value => exact score_eq_throughputCheck limit value

theorem score_isSome (e : Evaluator) (hpos : 0 < m.sampleCount s) (hm : m.Storable) :
    ∃ c, e.score m s = some c := by
  cases ht : s.isThroughput with
  | false =>
      obtain ⟨timeout, limit⟩ := e.timeout?_eq_some ht
      exact ⟨_, score_eq_latencyCheck limit hpos⟩
  | true =>
      obtain ⟨b, limit⟩ := e.benchmark?_eq_some ht
      have few := hm s ht
      rw [sampleCount_eq_size_values, ← Array.length_toList] at hpos few
      obtain ⟨observed, value⟩ := Option.isSome_iff_exists.1
        (percentile_isSome (.ofNat b.percentile) (List.length_pos_iff.1 hpos) few)
      exact ⟨_, score_eq_throughputCheck limit value⟩

end Scores

theorem isReachChecked_iff (m : Samples) (s : Series) :
    isReachChecked m s = true ↔
      0 < m.expectedCount s ∧ (s.isGated = true ∨ 0 < m.sampleCount s) := by
  simp [isReachChecked]

/-- A check of a series counts its samples or is its score. -/
theorem mem_seriesChecks {e : Evaluator} {m : Samples} {s : Series} {c : Check} :
    c ∈ e.seriesChecks m s ↔
      isReachChecked m s = true ∧ c = e.reachCheck m s ∨ 0 < m.sampleCount s ∧ Scores e m s c := by
  rw [seriesChecks, List.mem_append]
  apply or_congr
  · cases isReachChecked m s <;> simp
  · split
    · next none => simp [none]
    · next some =>
      have pos := Nat.pos_of_ne_zero some
      rw [Option.mem_toList, score_eq_some_iff pos, and_iff_right pos]

theorem mem_checks {e : Evaluator} {m : Samples} {c : Check} :
    c ∈ e.checks m ↔ ∃ s, c ∈ e.seriesChecks m s := by
  simp [checks, Series.mem_all]

/-- What the checks of a series are about. -/
def subjects (m : Samples) (s : Series) : List (Series × Aspect) :=
  (if 0 < m.expectedCount s ∧ (s.isGated = true ∨ 0 < m.sampleCount s) then [(s, .reach)]
    else []) ++
  if 0 < m.sampleCount s then [(s, s.scored)] else []

theorem map_subject_seriesChecks (e : Evaluator) {m : Samples} (hm : m.Storable) (s : Series) :
    (e.seriesChecks m s).map Check.subject = subjects m s := by
  rw [seriesChecks, subjects, List.map_append]
  congr 1
  · simp only [isReachChecked_iff]
    split <;> rfl
  · by_cases hpos : 0 < m.sampleCount s
    · obtain ⟨c, hc⟩ := e.score_isSome hpos hm
      rw [if_neg (Nat.ne_of_gt hpos), if_pos hpos, hc]
      exact congrArg (fun subject => [subject]) (scores_of_score hc).subject
    · rw [if_pos (Nat.eq_zero_of_not_pos hpos), if_neg hpos]
      rfl

/-- Series by series, a check of how many samples there are and then a score, each under its
condition. -/
theorem map_subject_checks (e : Evaluator) {m : Samples} (hm : m.Storable) :
    (e.checks m).map Check.subject = Series.all.flatMap (subjects m) := by
  rw [checks, List.map_flatMap]
  congr 1
  funext s
  exact e.map_subject_seriesChecks hm s

theorem name_of_mem_checks {e : Evaluator} {m : Samples} {c : Check} (h : c ∈ e.checks m) :
    ∃ ending, c.name = c.series.name ++ ending ∧ c.aspect.Ending ending := by
  obtain ⟨s, hs⟩ := mem_checks.1 h
  rcases mem_seriesChecks.1 hs with ⟨-, rfl⟩ | ⟨-, scores⟩
  · exact ⟨_, rfl, .reach⟩
  · cases scores with
    | latency limit => exact ⟨_, rfl, .latency⟩
    | @throughput b observed limit value => exact ⟨_, rfl, .throughput b.percentile⟩

theorem isNamed_of_mem_checks {e : Evaluator} {m : Samples} {c : Check} (h : c ∈ e.checks m) :
    c.IsNamed := by
  obtain ⟨ending, name, aspect⟩ := name_of_mem_checks h
  exact ⟨ending, name, aspect.take_two⟩

theorem map_subject_seriesChecks_sublist (e : Evaluator) (m : Samples) (s : Series) :
    ((e.seriesChecks m s).map Check.subject).Sublist [(s, .reach), (s, s.scored)] := by
  have reach : ((if isReachChecked m s then [e.reachCheck m s] else []).map
      Check.subject).Sublist [(s, Aspect.reach)] := by
    split
    · exact .refl _
    · exact List.nil_sublist _
  have score : ((if m.sampleCount s = 0 then [] else (e.score m s).toList).map
      Check.subject).Sublist [(s, s.scored)] := by
    split
    · exact List.nil_sublist _
    · cases h : e.score m s with
      | none => exact List.nil_sublist _
      | some c =>
          have subject := (scores_of_score h).subject
          simp only [Option.toList_some, List.map_cons, List.map_nil, subject]
          exact .refl _
  rw [seriesChecks, List.map_append]
  exact reach.append score

theorem map_subject_checks_sublist (e : Evaluator) (m : Samples) :
    ((e.checks m).map Check.subject).Sublist
      (Series.all.flatMap fun s => [(s, Aspect.reach), (s, s.scored)]) := by
  rw [checks, List.map_flatMap]
  induction Series.all with
  | nil => exact List.nil_sublist _
  | cons s rest ih => exact (e.map_subject_seriesChecks_sublist m s).append ih

/-- No two checks are about the same, however many samples there are. -/
theorem nodup_map_subject (e : Evaluator) (m : Samples) :
    ((e.checks m).map Check.subject).Nodup := by
  have all : (Series.all.flatMap fun s => [(s, Aspect.reach), (s, s.scored)]).Nodup := by decide
  exact List.Nodup.sublist (e.map_subject_checks_sublist m) all

theorem nodup_map_name (e : Evaluator) (m : Samples) : ((e.checks m).map Check.name).Nodup := by
  have subjects := List.pairwise_map.1 (e.nodup_map_subject m)
  refine List.pairwise_map.2 (subjects.imp_of_mem ?_)
  intro c d hc hd distinct same
  exact distinct ((isNamed_of_mem_checks hc).subject_eq (isNamed_of_mem_checks hd) same)

theorem find?_name {checks : List Check} (h : (checks.map Check.name).Nodup) {c : Check}
    (hc : c ∈ checks) : checks.find? (fun d => d.name == c.name) = some c := by
  induction checks with
  | nil => cases hc
  | cons d rest ih =>
      obtain ⟨fresh, later⟩ := List.nodup_cons.1 h
      rcases List.mem_cons.1 hc with rfl | hmem
      · exact List.find?_cons_of_pos (beq_self_eq_true _)
      · have other : (d.name == c.name) = false := by
          rw [beq_eq_false_iff_ne]
          intro same
          apply fresh
          rw [same]
          exact List.mem_map_of_mem hmem
        rw [List.find?_cons, other]
        exact ih later hmem

theorem filterMap_miss? (checks : List Check) :
    checks.filterMap Check.miss? =
      (checks.filter fun c => !c.passed).map fun c => ⟨c.name, c.rate, c.goal⟩ := by
  induction checks with
  | nil => rfl
  | cons c rest ih => cases h : c.passed <;> simp [Check.miss?, h, ih]

/-- A report has the checks that the counts of samples call for and no others, in the order of the
series and under names that differ; it lists the series without a sample, and as missed what the
checks did not pass. -/
theorem evaluate_shape (e : Evaluator) (m : Samples) (now : Instant) :
    let r := e.evaluate m now
    (m.Storable → r.checks.map Check.subject = Series.all.flatMap (subjects m)) ∧
    r.unsampled = Series.all.filter (fun s => m.sampleCount s = 0) ∧
    r.misses =
      (r.checks.filter fun c => !c.passed).map (fun c => ⟨c.name, c.rate, c.goal⟩) ∧
    (r.checks.map Check.name).Nodup ∧
    (∀ c ∈ r.checks, r.check? c.name = some c) ∧
    ∀ name ∉ r.checks.map Check.name, r.check? name = none := by
  refine ⟨e.map_subject_checks, rfl, filterMap_miss? _, e.nodup_map_name m, ?_, ?_⟩
  · intro c hc
    exact find?_name (e.nodup_map_name m) hc
  · intro name absent
    refine List.find?_eq_none.2 fun c hc same => absent ?_
    rw [← eq_of_beq same]
    exact List.mem_map_of_mem hc

/-- A trial with one latency that also expected to change the medium. -/
theorem evaluate_shape_of_recorded :
    let m := Samples.empty.record
      { first := { discovery := some (.ofSecs 3) }, second := { upgradeExpected := true } }
    m.Storable ∧
      ((Evaluator.mk {} {} {}).evaluate m .epoch).checks.map Check.subject =
        [(.firstDiscovery, .reach), (.firstDiscovery, .latency), (.mediumUpgrade, .reach)] := by
  intro m
  have storable : m.Storable := by
    intro s _
    cases s <;> decide
  exact ⟨storable, (evaluate_shape _ m .epoch).1 storable⟩

end Evaluator

end LinkTrials
