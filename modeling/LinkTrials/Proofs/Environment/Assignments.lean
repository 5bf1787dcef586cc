import LinkTrials.Environment.Dotfile

/-!
Variables after a file of assignments.

The assignments of a file are a list of names and texts. A variable with a text keeps it, any other
has the text of its first assignment. Reading stops at the first fault, and at the first text with a
zero that a variable should be set to; what was assigned before stays.
-/
namespace LinkTrials

namespace Dotfile

/-- The lines come to one that assigns a text with a zero to a variable without a text. -/
def BreaksOff (env : Environment) (ls : List (List UInt8)) (p : Panic) : Prop :=
  ∃ above line below before text,
    ls = above ++ line :: below ∧ applyLines env above = (before, .ok ()) ∧
    String.fromUTF8? ⟨line.toArray⟩ = some text ∧
    assignment? before.answer? text = .ok (some (p.name, p.text)) ∧
    before.text? p.name = none ∧ '\x00' ∈ p.text.toList

/-- Lines above those that break off do not change how they do. -/
theorem BreaksOff.cons {env after : Environment} {line : List UInt8} {rest : List (List UInt8)}
    {p : Panic} (first : ∀ above, applyLines env (line :: above) = applyLines after above)
    (h : BreaksOff after rest p) : BreaksOff env (line :: rest) p := by
  obtain ⟨above, broken, below, before, text, rfl, passed, tail⟩ := h
  exact ⟨line :: above, broken, below, before, text, rfl, (first above).trans passed, tail⟩

/-- The first assignment of a name counts. -/
example :
    (applyLines {} [[65, 61, 49], [66, 61, 36, 65], [65, 61, 50]]).1.text? "A" = some "1" := by
  decide +kernel

end Dotfile

end LinkTrials
