import LinkTrials.Proofs.Evaluation.Locality
import LinkTrials.Proofs.Log.Changes

/-!
Timeouts and their defaults.

The defaults of a round are there in two ways: a phase without a timeout takes them, and they can be written
out. Whatever timeouts are set afterwards, both ways come to the same: each phase has the last timeout that
was set for it or its default, and an evaluator sees nothing else of the timeouts of a round. The budget of a
connection is the exact sum of two timeouts, or the longest span if the sum is longer.
-/
namespace LinkTrials

open Log (lastOf lastOf_cons)

/-! ### Sums of spans -/

namespace Span

theorem toNanos_le_max (d : Span) : d.toNanos ≤ max.toNanos := by
  have secs := d.secs_lt
  have nanos := d.nanos_lt
  simp only [toNanos, max, perSecond]
  omega

/-- Parts that are no span are longer than the longest one. -/
theorem lt_of_ofParts?_eq_none {secs nanos : Nat} (h : ofParts? secs nanos = none) :
    max.toNanos < secs * perSecond + nanos := by
  unfold ofParts? at h
  split at h
  · cases h
  · simp only [toNanos, max, perSecond] at *
    omega

theorem toNanos_addOrMax (a b : Span) :
    (a.addOrMax b).toNanos = min (a.toNanos + b.toNanos) max.toNanos := by
  have sum : a.toNanos + b.toNanos =
      (a.secs + b.secs) * perSecond + (a.nanos + b.nanos) := by
    simp only [toNanos, perSecond]
    omega
  rw [addOrMax, sum]
  cases parts : ofParts? (a.secs + b.secs) (a.nanos + b.nanos) with
  | some d =>
      have exact := toNanos_ofParts? parts
      have most := d.toNanos_le_max
      simp only [Option.getD_some]
      omega
  | none =>
      have beyond := lt_of_ofParts?_eq_none parts
      simp only [Option.getD_none]
      omega

/-- A span is known by its nanoseconds. -/
theorem parts_eq_iff (d : Span) (secs nanos : Nat) (h : nanos < perSecond) :
    (d.secs, d.nanos) = (secs, nanos) ↔ d.toNanos = secs * perSecond + nanos := by
  have small := d.nanos_lt
  simp only [Prod.mk.injEq, toNanos, perSecond] at *
  omega

/-- Nanoseconds beyond a second are carried over, and beyond the longest span nothing is added. -/
theorem parts_addOrMax (a b : Span) :
    let carry := (a.nanos + b.nanos) / perSecond
    ((a.addOrMax b).secs, (a.addOrMax b).nanos) =
      if a.toNanos + b.toNanos ≤ max.toNanos then
        (a.secs + b.secs + carry, a.nanos + b.nanos - carry * perSecond)
      else (max.secs, max.nanos) := by
  have sum := toNanos_addOrMax a b
  split
  · next short =>
    rw [parts_eq_iff, sum]
    · simp only [toNanos, perSecond] at *
      omega
    · simp only [perSecond]
      omega
  · next long =>
    rw [parts_eq_iff _ _ _ max.nanos_lt, sum]
    exact Nat.min_eq_right (Nat.le_of_not_le long)

end Span

/-! ### Timeouts that are set -/

/-- The phases of a connection setup. -/
inductive Phase where
  | discovery
  | init
  | result
deriving DecidableEq, Repr

def Round.defaultOf (r : Round) : Phase → Span
  | .discovery => r.defaultDiscovery
  | .init => r.defaultInit
  | .result => r.defaultResult

namespace PhaseTimeouts

/-- A timeout for one phase. -/
structure Change where
  phase : Phase
  timeout : Span

def Change.timeoutOf? (p : Phase) (c : Change) : Option Span :=
  if c.phase = p then some c.timeout else none

def apply (t : PhaseTimeouts) (c : Change) : PhaseTimeouts :=
  match c.phase with
  | .discovery => t.withDiscovery c.timeout
  | .init => t.withInit c.timeout
  | .result => t.withResult c.timeout

/-- What a phase of a round has. -/
def resolved (t : PhaseTimeouts) (r : Round) : Phase → Span
  | .discovery => t.resolvedDiscovery r
  | .init => t.resolvedInit r
  | .result => t.resolvedResult r

variable (t : PhaseTimeouts) (r : Round) (p : Phase)

theorem resolved_apply (c : Change) :
    (t.apply c).resolved r p = (c.timeoutOf? p).getD (t.resolved r p) := by
  obtain ⟨phase, timeout⟩ := c
  cases phase <;> cases p <;> rfl

theorem resolved_foldl (changes : List Change) :
    (changes.foldl apply t).resolved r p =
      lastOf (Change.timeoutOf? p) changes (t.resolved r p) := by
  induction changes generalizing t with
  | nil => rfl
  | cons c rest ih => rw [List.foldl_cons, ih, resolved_apply, lastOf_cons]

theorem resolved_ofRound : (ofRound r).resolved r p = r.defaultOf p := by
  cases p <;> rfl

theorem resolved_empty : ({} : PhaseTimeouts).resolved r p = r.defaultOf p := by
  cases p <;> rfl

theorem connectionBudget_eq :
    t.connectionBudget r = (t.resolved r .init).addOrMax (t.resolved r .result) := rfl

end PhaseTimeouts

namespace Evaluator

open PhaseTimeouts

variable {e : Evaluator} {round : Round} {t u : PhaseTimeouts}

/-- Of the timeouts of a round an evaluator sees what its phases have. -/
theorem timeout?_withRound_congr (h : t.resolved round = u.resolved round) :
    (e.withRound round t).timeout? = (e.withRound round u).timeout? := by
  have budget : t.connectionBudget round = u.connectionBudget round := by
    rw [connectionBudget_eq, connectionBudget_eq, h]
  have discovery : t.resolvedDiscovery round = u.resolvedDiscovery round := congrFun h .discovery
  funext s
  cases round <;> cases s <;> simp only [timeout?, withRound, budget, discovery]

theorem evaluate_withRound_congr (h : t.resolved round = u.resolved round) (m : Samples)
    (now : Instant) : (e.withRound round t).evaluate m now = (e.withRound round u).evaluate m now := by
  refine evaluate_congr ?_ (fun s => ?_) now
  · simp
  · exact ⟨rfl, rfl, rfl, by simp, congrFun (timeout?_withRound_congr h) s, by simp⟩

/-- Any timeouts set for a round from its defaults written out and from none at all. Both ways each phase
has the last timeout set for it, or else the default of the round, the budget of the connection is the same
and so are the reports, whenever they are generated. A budget is the sum of its two timeouts with the seconds
in the sum of nanoseconds carried over, or the longest span if that is shorter than the sum. -/
theorem evaluate_after_changes (r : Round) (changes : List PhaseTimeouts.Change) :
    let written := changes.foldl apply (.ofRound r)
    let bare := changes.foldl apply {}
    (∀ p : Phase,
      written.resolved r p = lastOf (Change.timeoutOf? p) changes (r.defaultOf p) ∧
      bare.resolved r p = lastOf (Change.timeoutOf? p) changes (r.defaultOf p)) ∧
    written.connectionBudget r = bare.connectionBudget r ∧
    (∀ (e : Evaluator) (m : Samples) (now now' : Instant),
      (e.withRound r written).evaluate m now' =
        { (e.withRound r bare).evaluate m now with generatedAt := now' }) ∧
    ∀ t : PhaseTimeouts,
      let a := t.resolvedInit r
      let b := t.resolvedResult r
      let budget := t.connectionBudget r
      let carry := (a.nanos + b.nanos) / Span.perSecond
      budget.toNanos = min (a.toNanos + b.toNanos) Span.max.toNanos ∧
      a.toNanos ≤ budget.toNanos ∧ b.toNanos ≤ budget.toNanos ∧
      (budget.secs, budget.nanos) =
        if a.toNanos + b.toNanos ≤ Span.max.toNanos then
          (a.secs + b.secs + carry, a.nanos + b.nanos - carry * Span.perSecond)
        else (Span.max.secs, Span.max.nanos) := by
  intro written bare
  have last (p : Phase) :
      written.resolved r p = lastOf (Change.timeoutOf? p) changes (r.defaultOf p) ∧
      bare.resolved r p = lastOf (Change.timeoutOf? p) changes (r.defaultOf p) := by
    rw [resolved_foldl, resolved_foldl, resolved_ofRound, resolved_empty]
    exact ⟨rfl, rfl⟩
  have same : written.resolved r = bare.resolved r := funext fun p => (last p).1.trans (last p).2.symm
  refine ⟨last, ?_, fun e m now now' => ?_, fun t => ?_⟩
  · rw [connectionBudget_eq, connectionBudget_eq, same]
  · rw [evaluate_withRound_congr same]
    rfl
  · intro a b budget carry
    have sum : budget.toNanos = min (a.toNanos + b.toNanos) Span.max.toNanos :=
      Span.toNanos_addOrMax a b
    have mostA := a.toNanos_le_max
    have mostB := b.toNanos_le_max
    exact ⟨sum, by omega, by omega, Span.parts_addOrMax a b⟩

end Evaluator

end LinkTrials
