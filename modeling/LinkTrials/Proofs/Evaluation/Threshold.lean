import LinkTrials.Proofs.Binary64.Nearest
import LinkTrials.Proofs.Evaluation.Totals

/-!
Targets with few digits.

A target such as 0.95 is not a binary number, and neither are most shares of counts; both are rounded
before they are compared. As long as the target has at most six digits and there are at most a billion
events, different shares are too far apart to be rounded to one number, so the comparison comes out as
it does for the exact quotients.
-/
namespace LinkTrials

namespace Binary64

/-- The number nearest to the share `a / 10 ^ d` of at most six digits. -/
structure IsDecimalShare (t : Binary64) (a d : Nat) : Prop where
  few : d ≤ 6
  share : a ≤ Nat.pow 10 d
  nearest : t = ofDecimal false a (-d)

theorem ofDecimal_share {a d : Nat} (hd : d ≤ 6) (ha : a ≤ Nat.pow 10 d) :
    ofDecimal false a (-d) = ofUnits false (a * oneUnits) (Nat.pow 10 d) := by
  -- So few digits are never settled by their length.
  have digits : (Nat.toDigits 10 a).length ≤ 7 := by
    refine (Nat.length_toDigits_le_iff (by decide) (by decide)).2 ?_
    exact Nat.lt_of_le_of_lt (Nat.le_trans ha (Nat.pow_le_pow_right (by decide) hd)) (by decide)
  rw [ofDecimal]
  split
  · next none =>
    have zero : a = 0 := by omega
    have reduced := ofUnits_mul_mul false 0 Nat.one_pos (Nat.pow_pos (n := d) (by decide : 0 < 10))
    rw [Nat.zero_mul, Nat.one_mul] at reduced
    rw [zero, Nat.zero_mul]
    exact reduced.symm
  · rw [if_neg (by omega)]
    split
    · next whole =>
      have none : d = 0 := by omega
      subst none
      rw [Int.natCast_zero, Int.neg_zero, Int.toNat_zero, Nat.pow_eq, Nat.pow_zero, Nat.mul_one]
    · rw [Int.neg_neg, Int.toNat_natCast]

end Binary64

namespace Evaluator

open Binary64 Samples

variable {e : Evaluator} {m : Samples} {c : Check} {t : Binary64} {a d : Nat}

/-- A share of counts reaches a decimal target exactly if the quotient does. -/
theorem le_share_iff (h : t.IsDecimalShare a d) {part whole : Nat} (hp : part ≤ whole)
    (hpos : 0 < whole) (hw : whole ≤ Nat.pow 10 9) :
    le t (share part whole) = true ↔ a * whole ≤ part * Nat.pow 10 d := by
  have ten : 0 < Nat.pow 10 d := Nat.pow_pos (by decide)
  have billion : whole ≤ Nat.pow 2 53 := Nat.le_trans hw (by decide)
  have million : Nat.pow 10 d ≤ Nat.pow 10 6 := Nat.pow_le_pow_right (by decide) h.few
  have few : Nat.pow 10 d * whole < Nat.pow 2 52 :=
    Nat.lt_of_le_of_lt (Nat.mul_le_mul million hw) (by decide)
  rw [h.nearest, ofDecimal_share h.few h.share,
    share_eq_ofUnits (Nat.le_trans hp billion) billion hpos,
    ofUnits_mul_mul false _ hpos oneUnits_pos]
  exact ofUnits_le_ofUnits_iff ten hpos h.share hp few

theorem passed_reachCheck_iff (h : e.settings.reachTarget.IsDecimalShare a d)
    {steps : List Step} (hc : c ∈ e.checks (run steps)) (aspect : c.aspect = .reach)
    (few : c.expectedCount ≤ Nat.pow 10 9) :
    c.passed = true ↔ a * c.expectedCount ≤ c.sampleCount * Nat.pow 10 d := by
  have sound := (counts_le_of_mem_checks hc).1
  have pos := (rate_of_reach hc aspect).1
  rw [← le_share_iff h sound pos few]
  obtain ⟨s, -, rfl⟩ := eq_reachCheck hc aspect
  rfl

theorem passed_latencyCheck_iff (h : e.settings.successTarget.IsDecimalShare a d)
    (hc : c ∈ e.checks m) (aspect : c.aspect = .latency) (few : c.sampleCount ≤ Nat.pow 10 9) :
    ∃ timeout, e.timeout? c.series = some timeout ∧
      (c.passed = true ↔ a * c.sampleCount ≤
        (m.latencies c.series).toList.countP (fun x => x.shorter timeout) * Nat.pow 10 d) := by
  have pos := (rate_of_latency hc aspect).1
  obtain ⟨s, timeout, limit, -, rfl⟩ := eq_latencyCheck hc aspect
  refine ⟨timeout, limit, ?_⟩
  exact le_share_iff h List.countP_le_length pos few

theorem reached_evaluate_iff (h : e.settings.reachTarget.IsDecimalShare a d) (steps : List Step)
    (now : Instant) (few : reachTotal (run steps) (run steps).expectedCount ≤ Nat.pow 10 9) :
    (e.evaluate (run steps) now).totals.reached = true ↔
      0 < reachTotal (run steps) (run steps).expectedCount ∧
        a * reachTotal (run steps) (run steps).expectedCount ≤
          reachTotal (run steps) (run steps).sampleCount * Nat.pow 10 d := by
  have sound : reachTotal (run steps) (run steps).sampleCount ≤
      reachTotal (run steps) (run steps).expectedCount :=
    total_le_total fun s _ => sound_run steps s
  have reached : (e.evaluate (run steps) now).totals.reached = _ := e.reached_totals _ _ _
  rw [reached, Bool.and_eq_true, decide_eq_true_eq]
  exact and_congr_right fun pos => le_share_iff h sound pos few

/-- Against targets of at most six digits, counts up to a billion are scored as their exact quotients
would be: no rounding fails a run that is on its target or passes one that is below. This goes for the
samples of a series among the expected ones, for its latencies below the timeout among all, and for the
samples in all. -/
theorem evaluate_decimal_targets (e : Evaluator) (steps : List Step) (now : Instant) :
    let r := e.evaluate (run steps) now
    let reaches := Check.reaches r.checks
    let samples := Check.total Check.sampleCount reaches
    let expected := Check.total Check.expectedCount reaches
    (∀ a d, e.settings.reachTarget.IsDecimalShare a d →
      (∀ c ∈ r.checks, c.aspect = .reach → c.expectedCount ≤ Nat.pow 10 9 →
        (c.passed = true ↔ a * c.expectedCount ≤ c.sampleCount * Nat.pow 10 d)) ∧
      (expected ≤ Nat.pow 10 9 →
        (r.totals.reached = true ↔
          0 < expected ∧ a * expected ≤ samples * Nat.pow 10 d))) ∧
    ∀ a d, e.settings.successTarget.IsDecimalShare a d →
      ∀ c ∈ r.checks, c.aspect = .latency → c.sampleCount ≤ Nat.pow 10 9 →
        ∃ timeout, e.timeout? c.series = some timeout ∧
          (c.passed = true ↔ a * c.sampleCount ≤
            ((run steps).latencies c.series).toList.countP (fun x => x.shorter timeout) *
              Nat.pow 10 d) := by
  intro r reaches samples expected
  have hsamples : samples = reachTotal (run steps) (run steps).sampleCount :=
    e.total_sampleCount_reaches _
  have hexpected : expected = reachTotal (run steps) (run steps).expectedCount :=
    e.total_expectedCount_reaches _
  refine ⟨fun a d h => ⟨?_, ?_⟩, ?_⟩
  · intro c hc aspect few
    exact passed_reachCheck_iff h hc aspect few
  · rw [hsamples, hexpected]
    exact reached_evaluate_iff h steps now
  · intro a d h c hc aspect few
    exact passed_latencyCheck_iff h hc aspect few

/-- Seven of ten against 0.7: as many devices are found, and as many connections are made in time. -/
theorem evaluate_decimal_targets_of_seven :
    let target := ofDecimal false 7 (-1)
    let e : Evaluator := { settings := { reachTarget := target, successTarget := target } }
    let steps : List Step :=
      [.extend (List.replicate 7
          { first := { discovery := some (.ofSecs 3), connection := some (.ofSecs 3) } }),
        .extend (List.replicate 3 { first := { connection := some (.ofSecs 600) } })]
    let r := e.evaluate (run steps) .epoch
    target.IsDecimalShare 7 1 ∧ r.totals.reached = true ∧
      (∃ c ∈ r.checks, c.aspect = .reach ∧ c.sampleCount = 7 ∧ c.expectedCount = 10) ∧
      (∀ c ∈ r.checks, c.aspect = .reach → c.passed = true) ∧
      (∃ c ∈ r.checks, c.aspect = .latency ∧ c.sampleCount = 10 ∧
        ((run steps).latencies c.series).toList.countP (fun x => x.shorter (.ofSecs 600)) = 7) ∧
      ∀ c ∈ r.checks, c.aspect = .latency → c.passed = true := by
  intro target e steps r
  have exponent : (-1 : Int) = -(1 : Nat) := by decide
  have decimal : target.IsDecimalShare 7 1 := by
    refine ⟨by decide, by decide, ?_⟩
    simp only [target, exponent]
  have forReach : e.settings.reachTarget = target := by simp only [e]
  have forSuccess : e.settings.successTarget = target := by simp only [e]
  obtain ⟨reach, success⟩ := evaluate_decimal_targets e steps .epoch
  rw [forReach] at reach
  rw [forSuccess] at success
  obtain ⟨checks, total⟩ := reach 7 1 decimal
  have counts : ∀ c ∈ r.checks,
      c.expectedCount = 10 ∧ 7 ≤ c.sampleCount ∧ c.sampleCount ≤ 10 := by decide +kernel
  have short : ∀ c ∈ r.checks, (e.timeout? c.series).all fun timeout =>
      decide (7 ≤ ((run steps).latencies c.series).toList.countP fun x => x.shorter timeout) := by
    decide +kernel
  refine ⟨decimal, ?_, by decide +kernel, ?_, by decide +kernel, ?_⟩
  · rw [checks_evaluate, total_sampleCount_reaches, total_expectedCount_reaches] at total
    have samples : reachTotal (run steps) (run steps).sampleCount = 17 := by decide +kernel
    have expected : reachTotal (run steps) (run steps).expectedCount = 20 := by decide +kernel
    rw [samples, expected] at total
    exact (total (by decide)).2 (by decide)
  · intro c hc aspect
    obtain ⟨expected, enough, -⟩ := counts c hc
    have passed := checks c hc aspect
    rw [expected] at passed
    exact (passed (by decide)).2 (Nat.mul_le_mul_right 10 enough)
  · intro c hc aspect
    obtain ⟨-, -, few⟩ := counts c hc
    obtain ⟨timeout, limit, passed⟩ :=
      success 7 1 decimal c hc aspect (Nat.le_trans few (by decide))
    have enough := short c hc
    rw [limit, Option.all_some, decide_eq_true_eq] at enough
    exact passed.2 (Nat.le_trans (Nat.mul_le_mul_left 7 few) (Nat.mul_le_mul_right 10 enough))

end Evaluator

end LinkTrials
