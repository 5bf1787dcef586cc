import LinkTrials.Proofs.Evaluation.Reordering
import LinkTrials.Proofs.Evaluation.Totals
import LinkTrials.Proofs.Percentile.Monotone
import LinkTrials.Proofs.Settings.Content

/-!
The numbers of a report.

Shares are quotients of two counts of which the first is not larger, percentiles lie between two samples,
and goals are settings. With samples that are finite and not below zero all of them are so, too, and every
score has its figure.
-/
namespace LinkTrials

open Binary64

namespace Check

/-- All binary numbers of a check. -/
def numbers (c : Check) : List Binary64 := c.rate :: c.goal :: c.figure.toList

end Check

namespace Miss

def numbers (m : Miss) : List Binary64 := [m.rate, m.goal]

end Miss

namespace Totals

def numbers (t : Totals) : List Binary64 := [t.reachRate, t.successRate]

end Totals

namespace Report

/-- All binary numbers of a report. -/
def numbers (r : Report) : List Binary64 :=
  r.totals.numbers ++ r.checks.flatMap Check.numbers ++ r.misses.flatMap Miss.numbers

end Report

theorem percentile_isAmount {xs : List Binary64} {p v : Binary64} (hxs : ∀ x ∈ xs, IsAmount x)
    (few : xs.length ≤ Nat.pow 2 53) (hp : p ≠ nan) (h : percentile xs p = some v) : IsAmount v := by
  obtain ⟨r, hr⟩ := rank_of_ne_nan hp
  obtain ⟨ascends, whole, range, rank⟩ := rank_percentile hxs few hr h
  exact (upTo_of_rank rank (level_bounds ascends whole range).2).isAmount
    (ascends.fits _ (rankAbove_le range)).1

theorem rank_ofNat_count {n : Nat} (h : n ≤ Nat.pow 2 128) :
    (ofNat n).rank = some (magnitude (n * oneUnits) 1 : Int) ∧
      magnitude (n * oneUnits) 1 < overflowUnits := by
  refine ⟨rank_ofUnits false _ 1, Nat.lt_of_le_of_lt (magnitude_le Nat.one_pos (gap_dvd_power 128) ?_)
    (power_lt_overflowUnits (Nat.le_refl 128))⟩
  rw [Nat.mul_one]
  exact Nat.mul_le_mul_right _ h

theorem oneUnits_le_count {n : Nat} (hpos : 0 < n) : oneUnits ≤ magnitude (n * oneUnits) 1 := by
  refine Nat.le_min.2 ⟨le_roundUnits Nat.one_pos gap_dvd_oneUnits ?_, ?_⟩
  · rw [Nat.mul_one]
    exact Nat.le_mul_of_pos_left _ hpos
  · exact Nat.le_of_lt oneUnits_lt_overflowUnits

namespace Evaluator

open Samples

/-- The share of a part, also if there are so many that their number is rounded. -/
theorem isAmount_share {part whole : Nat} (h : part ≤ whole) (hpos : 0 < whole)
    (hw : whole ≤ Nat.pow 2 128) : IsAmount (share part whole) := by
  obtain ⟨hu, boundU⟩ := rank_ofNat_count (Nat.le_trans h hw)
  obtain ⟨hv, boundV⟩ := rank_ofNat_count hw
  have positive := Nat.lt_of_lt_of_le oneUnits_pos (oneUnits_le_count hpos)
  have order := magnitude_mono Nat.one_pos Nat.one_pos
    (Nat.mul_le_mul_right 1 (Nat.mul_le_mul_right oneUnits h))
  have place := rank_div hu boundU hv positive boundV
  refine (upTo_of_rank place (magnitude_le positive gap_dvd_oneUnits ?_)).isAmount
    oneUnits_lt_overflowUnits
  rw [Nat.mul_comm]
  exact Nat.mul_le_mul_left _ order

/-- Samples that there can be: finite, not below zero, no more of a series than were expected, and not so
many that the place of the last one is rounded. -/
structure IsRegular (m : Samples) : Prop where
  bounded : m.IsBounded
  counted : IsCounted m
  sound : Sound m
  few : ∀ s, m.sampleCount s ≤ Nat.pow 2 53

theorem isRegular_ofTrials {trials : List Trial} (bounded : ∀ t ∈ trials, t.IsBounded)
    (few : trials.length ≤ Nat.pow 2 53) : IsRegular (ofTrials trials) := by
  have sound : Sound (ofTrials trials) := sound_run [.ofTrials trials]
  refine ⟨isBounded_ofTrials bounded, isCounted_ofTrials (Nat.lt_of_le_of_lt few (by decide)), sound,
    fun s => Nat.le_trans (sound s) ?_⟩
  rw [ofTrials_eq_tally]
  exact Nat.le_trans (expectedCount_le_trialCount_tally s trials) few

section Regular

variable {e : Evaluator} {m : Samples} {c : Check} {s : Series}

theorem isAmount_rateTarget (valid : e.settings.validate = .ok ()) :
    IsAmount e.settings.successTarget ∧ IsAmount e.settings.reachTarget :=
  have admitted := (Settings.validate_eq_ok_iff_admits _).1 valid
  ⟨isAmount_of_isShare (admitted .successTarget), isAmount_of_isShare (admitted .reachTarget)⟩

theorem isAmount_benchmark (valid : e.settings.validate = .ok ()) {b : Benchmark}
    (h : e.benchmark? s = some b) : IsAmount b.kbs := by
  have admitted := (Settings.validate_eq_ok_iff_admits _).1 valid
  have kbs (link : Link) : IsAmount (e.settings.benchmark link).kbs := by
    cases link with
    | bt => exact isAmount_of_isBound (admitted .btBenchmark)
    | wifi => exact isAmount_of_isBound (admitted .wifiBenchmark)
  cases s with
  | btThroughput =>
      cases h
      exact kbs .bt
  | wifiThroughput =>
      cases h
      exact kbs _
  | _ => cases h

theorem ofNat_ne_nan (n : Nat) : ofNat n ≠ nan := by
  intro same
  have place : (ofNat n).rank = some (magnitude (n * oneUnits) 1 : Int) := rank_ofUnits false _ 1
  rw [same] at place
  cases place

theorem isAmount_percentile (hm : IsRegular m) {n : Nat} {v : Binary64}
    (h : percentile (m.values s).toList (ofNat n) = some v) : IsAmount v := by
  refine percentile_isAmount (hm.bounded s) ?_ (ofNat_ne_nan n) h
  rw [Array.length_toList, ← sampleCount_eq_size_values]
  exact hm.few s

/-- The numbers of a score are amounts, and one of them is its figure. -/
theorem score_amounts (valid : e.settings.validate = .ok ()) (hm : IsRegular m)
    (hpos : 0 < m.sampleCount s) (h : Scores e m s c) :
    (∀ x ∈ c.numbers, IsAmount x) ∧ c.figure.isSome = true := by
  cases h with
  | @latency timeout limit =>
      have count : (m.latencies s).toList.length = m.sampleCount s := by
        rw [sampleCount_eq_size_latencies m (isThroughput_of_timeout? limit), Array.length_toList]
      have rate : IsAmount (e.latencyCheck m s timeout).rate := by
        refine isAmount_share List.countP_le_length (count ▸ hpos) ?_
        rw [count]
        exact Nat.le_trans (hm.few s) (by decide)
      have size : (m.values s).toList.length = m.sampleCount s := by
        rw [sampleCount_eq_size_values, Array.length_toList]
      have figure : (e.latencyCheck m s timeout).figure.isSome = true :=
        percentile_isSome (.ofNat 50) (List.length_pos_iff.1 (size ▸ hpos)) (size ▸ hm.few s)
      have goal : IsAmount (e.latencyCheck m s timeout).goal := (isAmount_rateTarget valid).1
      refine ⟨List.forall_mem_cons.2 ⟨rate, List.forall_mem_cons.2 ⟨goal, fun x hx => ?_⟩⟩, figure⟩
      have median : percentile (m.values s).toList (ofNat 50) = some x := Option.mem_toList.1 hx
      exact isAmount_percentile hm median
  | throughput limit value =>
      have amount := isAmount_percentile hm value
      refine ⟨?_, rfl⟩
      exact List.forall_mem_cons.2 ⟨amount, List.forall_mem_cons.2
        ⟨isAmount_benchmark valid limit, List.forall_mem_singleton.2 amount⟩⟩

/-- The numbers of a check are amounts, and only a check of how many samples there are has no figure. -/
theorem check_amounts (valid : e.settings.validate = .ok ()) (hm : IsRegular m)
    (hc : c ∈ e.checks m) :
    (∀ x ∈ c.numbers, IsAmount x) ∧ (c.figure = none ↔ c.aspect = .reach) := by
  obtain ⟨s, hs⟩ := mem_checks.1 hc
  rcases mem_seriesChecks.1 hs with ⟨checked, rfl⟩ | ⟨hpos, scores⟩
  · have some := ((isReachChecked_iff m s).1 checked).1
    have rate := isAmount_share (hm.sound s) some (Nat.le_trans (hm.counted s).2 (by decide))
    refine ⟨?_, iff_of_true rfl rfl⟩
    exact List.forall_mem_cons.2 ⟨rate, List.forall_mem_singleton.2 (isAmount_rateTarget valid).2⟩
  · obtain ⟨amounts, figure⟩ := score_amounts valid hm hpos scores
    exact ⟨amounts, iff_of_false (Option.isSome_iff_ne_none.1 figure) scores.aspect_ne_reach⟩

theorem totals_amounts (hm : IsRegular m) (now : Instant) :
    ∀ x ∈ (e.evaluate m now).totals.numbers, IsAmount x := by
  have zero : IsAmount 0 := isAmount_of_isShare isShare_zero
  have reach : IsAmount (e.evaluate m now).totals.reachRate := by
    change IsAmount (e.totals _ _ _).reachRate
    rw [reachRate_totals]
    split
    · exact zero
    · next some =>
      refine isAmount_share ?_ (Nat.pos_of_ne_zero some) (reachTotal_le fun s => (hm.counted s).2)
      rw [reachTotal_eq_total, reachTotal_eq_total]
      exact total_le_total fun s _ => hm.sound s
  have success : IsAmount (e.evaluate m now).totals.successRate := by
    change IsAmount (e.totals _ _ _).successRate
    rw [successRate_totals]
    split
    · exact zero
    · next some =>
      refine isAmount_share List.countP_le_length (List.length_pos_iff.2 some) ?_
      exact Nat.le_trans (e.length_scores_le m) (by decide)
  exact List.forall_mem_cons.2 ⟨reach, List.forall_mem_singleton.2 success⟩

/-- All numbers of a report are finite and not below zero. -/
theorem evaluate_amounts (valid : e.settings.validate = .ok ()) (hm : IsRegular m) (now : Instant) :
    ∀ x ∈ (e.evaluate m now).numbers, IsAmount x := by
  intro x hx
  rw [Report.numbers, List.mem_append, List.mem_append] at hx
  rcases hx with (hx | hx) | hx
  · exact totals_amounts hm now x hx
  · obtain ⟨c, hc, hx⟩ := List.mem_flatMap.1 hx
    exact (check_amounts valid hm hc).1 x hx
  · -- A miss has the rate and the goal of its check.
    obtain ⟨miss, hmiss, hx⟩ := List.mem_flatMap.1 hx
    obtain ⟨c, hc, missed⟩ := List.mem_filterMap.1 hmiss
    refine (check_amounts valid hm hc).1 x ?_
    rw [Check.miss?] at missed
    split at missed
    · cases missed
    · cases missed
      rcases List.mem_cons.1 hx with rfl | hx
      · exact List.mem_cons_self
      · rw [List.mem_singleton.1 hx]
        exact List.mem_cons_of_mem _ List.mem_cons_self

end Regular

end Evaluator

end LinkTrials
