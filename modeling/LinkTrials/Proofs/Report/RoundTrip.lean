import LinkTrials.Proofs.Report.Figures

/-!
What a reader gets of a report.

A report that is decoded from its own text is the report again, but for its numbers. The reader scales
the digits of a number by a power of ten, and where the digits are more than a number holds, both steps
round, so that the neighbour of the number that was written may come out. With fewer digits it does not.
-/
namespace LinkTrials

open Json

variable {f : Binary64 → Binary64}

theorem map_eq_self_iff {α : Type} {f : α → α} {as : List α} : as.map f = as ↔ ∀ a ∈ as, f a = a := by
  conv_lhs => rhs; rw [← List.map_id as]
  exact List.map_inj_left

/-- The decimal of the number has no more digits than a number holds, and its power of ten is a number. -/
def Binary64.IsShort (x : Binary64) : Prop :=
  ∀ s n fits, x = .finite s n fits →
    (written n).digits ≤ Nat.pow 2 53 ∧ (written n).exponent.natAbs ≤ 22

theorem Binary64.IsShort.reread_eq {x : Binary64} (short : x.IsShort) : reread x = x := by
  cases x with
  | finite s n fits =>
      obtain ⟨digits, exponent⟩ := short s n fits rfl
      exact reread_of_short s fits digits exponent
  | _ => rfl

theorem Miss.mapNumbers_eq_self_iff {m : Miss} :
    m.mapNumbers f = m ↔ ∀ x ∈ m.numbers, f x = x := by
  cases m
  simp [mapNumbers, numbers]

theorem Totals.mapNumbers_eq_self_iff {t : Totals} :
    t.mapNumbers f = t ↔ ∀ x ∈ t.numbers, f x = x := by
  cases t
  simp [mapNumbers, numbers]

theorem Check.mapNumbers_eq_self_iff {c : Check} :
    c.mapNumbers f = c ↔ ∀ x ∈ c.numbers, f x = x := by
  obtain ⟨_, _, _, _, _, _, _, _, figure⟩ := c
  cases figure <;> simp [mapNumbers, numbers]

namespace Report

/-- The report is the same exactly if its numbers are. -/
theorem mapNumbers_eq_self_iff {r : Report} :
    r.mapNumbers f = r ↔ ∀ x ∈ r.numbers, f x = x := by
  have parts : r.mapNumbers f = r ↔ r.totals.mapNumbers f = r.totals ∧
      r.checks.map (Check.mapNumbers f) = r.checks ∧ r.misses.map (Miss.mapNumbers f) = r.misses := by
    cases r
    simp [mapNumbers]
  rw [parts, map_eq_self_iff, map_eq_self_iff, Totals.mapNumbers_eq_self_iff]
  simp only [Check.mapNumbers_eq_self_iff, Miss.mapNumbers_eq_self_iff, numbers, List.forall_mem_append,
    List.forall_mem_flatMap, and_assoc]

/-- The verdict does not come from the numbers. -/
theorem passed_mapNumbers (f : Binary64 → Binary64) (r : Report) :
    (r.mapNumbers f).passed = r.passed := by
  rw [passed, passed, mapNumbers, List.isEmpty_map]
  rfl

end Report

namespace Evaluator

open Samples

variable {e : Evaluator} {trials : List Trial}

/-- A report is decoded from its text as it was, with the same verdict, but each of its numbers is read
again. So nothing is lost if no number changes by that, as none does that has a short decimal. -/
theorem evaluate_read_again {text : String} (valid : e.settings.validate = .ok ())
    (read : trialsOfText text = .ok trials) (few : trials.length ≤ Nat.pow 2 53) (now : Instant)
    (coloured : Bool) :
    let r := e.evaluate (ofTrials trials) now
    let again := Report.decoder.ofText (r.render .json coloured)
    again = .ok (r.mapNumbers reread) ∧
    (r.mapNumbers reread).passed = r.passed ∧
    (again = .ok r ↔ ∀ x ∈ r.numbers, reread x = x) ∧
    ((∀ x ∈ r.numbers, x.IsShort) → again = .ok r) := by
  intro r again
  have kept : r.IsKept := isKept_evaluate (isBounded_of_text read) few valid now
  have decoded : again = .ok (r.mapNumbers reread) := Report.decoder_render kept coloured
  have same : again = .ok r ↔ ∀ x ∈ r.numbers, reread x = x := by
    rw [decoded, Except.ok.injEq, Report.mapNumbers_eq_self_iff]
  exact ⟨decoded, r.passed_mapNumbers reread, same,
    fun short => same.2 fun x hx => (short x hx).reread_eq⟩

/-- The figure between two throughputs of 1 and 2 KB/s is 1.95. -/
theorem evaluate_read_again_of_short :
    let text := "[\x7b\"first_bt_transfer_throughput_kbs\":1\x7d," ++
      "\x7b\"first_bt_transfer_throughput_kbs\":2\x7d]"
    let trials : List Trial := [{ btThroughput := some 1 }, { btThroughput := some 2 }]
    let e : Evaluator := { settings := {} }
    let r := e.evaluate (ofTrials trials) .epoch
    e.settings.validate = .ok () ∧ trialsOfText text = .ok trials ∧
      trials.length ≤ Nat.pow 2 53 ∧ r.passed = false ∧
      Report.decoder.ofText (r.render .json false) = .ok r := by
  intro text trials e r
  have valid : e.settings.validate = .ok () := by decide +kernel
  have read : trialsOfText text = .ok trials := by decide +kernel
  have few : trials.length ≤ Nat.pow 2 53 := by decide
  have numbers : ∀ x ∈ r.numbers, reread x = x := by decide +kernel
  have failed : r.passed = false := by decide +kernel
  have again := (evaluate_read_again valid read few .epoch false).2.2.1
  exact ⟨valid, read, few, failed, again.2 numbers⟩

/-- The figure between two throughputs of 1 and 4 KB/s is 3.8499999999999996, and 3.85 is read for it. -/
theorem evaluate_changed_by_reading :
    let text := "[\x7b\"first_bt_transfer_throughput_kbs\":1\x7d," ++
      "\x7b\"first_bt_transfer_throughput_kbs\":4\x7d]"
    let trials : List Trial := [{ btThroughput := some 1 }, { btThroughput := some 4 }]
    let e : Evaluator := { settings := {} }
    let r := e.evaluate (ofTrials trials) .epoch
    e.settings.validate = .ok () ∧ trialsOfText text = .ok trials ∧
      ∃ q, Report.decoder.ofText (r.render .json false) = .ok q ∧ q ≠ r ∧
        (r.checks.map fun c => c.figure.map Binary64.text) = [none, some "3.8499999999999996"] ∧
        (q.checks.map fun c => c.figure.map Binary64.text) = [none, some "3.85"] := by
  intro text trials e r
  have valid : e.settings.validate = .ok () := by decide +kernel
  have read : trialsOfText text = .ok trials := by decide +kernel
  have kept : r.IsKept := isKept_evaluate (isBounded_of_text read) (by decide) valid .epoch
  have figures : (r.checks.map fun c => c.figure.map Binary64.text) =
      [none, some "3.8499999999999996"] := by decide +kernel
  have changed : ((r.mapNumbers reread).checks.map fun c => c.figure.map Binary64.text) =
      [none, some "3.85"] := by decide +kernel
  refine ⟨valid, read, r.mapNumbers reread, Report.decoder_render kept false, ?_, figures, changed⟩
  intro same
  rw [same, figures] at changed
  exact absurd changed (by decide)

end Evaluator

end LinkTrials
