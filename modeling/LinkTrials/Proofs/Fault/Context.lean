import Mathlib.Data.List.Induction
import LinkTrials.Fault

/-!
Faults to which contexts are added, one after the other.

Every context stands in front of the message that was there, so the outermost one comes first. All
kinds of fault but one are kept. Options that exclude each other become a fault of the program
already with the first context, with its exit code and its advice, and stay one.
-/
namespace LinkTrials.Fault

/-- Which of the five a fault is. -/
inductive Kind where
  | config
  | validation
  | io
  | parse
  | internal
deriving DecidableEq, Repr

def kind : Fault → Kind
  | .config _ => .config
  | .validation _ => .validation
  | .io _ => .io
  | .parse _ => .parse
  | .internal _ => .internal

/-- The fault of a kind without a message. -/
def Kind.bare : Kind → Fault
  | .config => .config ""
  | .validation => .validation ""
  | .io => .io ""
  | .parse => .parse ""
  | .internal => .internal ""

/-- Two faults have the same tag, exit code and advice. -/
structure AnswersLike (fault other : Fault) : Prop where
  category : fault.category = other.category
  exitCode : fault.exitCode = other.exitCode
  suggestions : fault.suggestions = other.suggestions

/-- The kind of a fault with a context. -/
def Kind.inContext : Kind → Kind
  | .validation => .internal
  | kind => kind

/-- Contexts added one after the other, the first of the list innermost. -/
def withContexts (contexts : List String) (fault : Fault) : Fault :=
  contexts.foldl (fun inner context => inner.withContext context) fault

/-- What may stand between a context and the message behind it. -/
def seams : List String := [": ", ": Validation error: ", ": Internal error: "]

/-- A message behind contexts, of which the last of the list stands first. -/
inductive Wraps (message : String) : List String → String → Prop
  | bare : Wraps message [] message
  | outer {contexts inner seam} (context : String) (h : Wraps message contexts inner)
      (joined : seam ∈ seams) : Wraps message (contexts ++ [context]) (context ++ seam ++ inner)

theorem withContexts_snoc (contexts : List String) (context : String) (fault : Fault) :
    fault.withContexts (contexts ++ [context]) =
      (fault.withContexts contexts).withContext context := by
  rw [withContexts, List.foldl_append]
  rfl

theorem answersLike_bare (fault : Fault) : fault.AnswersLike fault.kind.bare := by
  cases fault <;> exact ⟨rfl, rfl, rfl⟩

theorem Kind.eq_of_category_bare {kind other : Kind}
    (h : kind.bare.category = other.bare.category) : kind = other := by
  revert h
  cases kind <;> cases other <;> decide

/-- A fault answers as its kind does, and no other kind answers so. -/
theorem answersLike_iff {fault other : Fault} : fault.AnswersLike other ↔ fault.kind = other.kind := by
  have own := answersLike_bare fault
  have others := answersLike_bare other
  constructor
  · intro h
    exact Kind.eq_of_category_bare (own.category.symm.trans (h.category.trans others.category))
  · intro same
    rw [same] at own
    exact ⟨own.category.trans others.category.symm, own.exitCode.trans others.exitCode.symm,
      own.suggestions.trans others.suggestions.symm⟩

theorem kind_withContext (context : String) (fault : Fault) :
    (fault.withContext context).kind = fault.kind.inContext := by
  cases fault <;> rfl

theorem Kind.inContext_inContext (kind : Kind) : kind.inContext.inContext = kind.inContext := by
  cases kind <;> rfl

/-- The first context decides the kind, and no later one changes it. -/
theorem kind_withContexts (contexts : List String) (fault : Fault) :
    (fault.withContexts contexts).kind =
      if contexts = [] then fault.kind else fault.kind.inContext := by
  -- The innermost context is the first of the list, so the others are added to a fault that has one.
  induction contexts generalizing fault with
  | nil => rfl
  | cons context rest ih =>
      have first := ih (fault.withContext context)
      rw [kind_withContext, Kind.inContext_inContext, ite_self] at first
      rw [if_neg (List.cons_ne_nil _ _)]
      exact first

/-- One context stands in front of the message that was there. -/
theorem message_withContext (context : String) (fault : Fault) :
    ∃ seam ∈ seams, (fault.withContext context).message = context ++ seam ++ fault.message := by
  cases fault with
  | config m | io m | parse m => exact ⟨": ", by decide, rfl⟩
  | validation m =>
      refine ⟨": Validation error: ", by decide, ?_⟩
      have parts : ": Validation error: " = ": " ++ "Validation error: " := by decide
      rw [parts, ← String.append_assoc, String.append_assoc]
      rfl
  | internal m =>
      refine ⟨": Internal error: ", by decide, ?_⟩
      have parts : ": Internal error: " = ": " ++ "Internal error: " := by decide
      rw [parts, ← String.append_assoc, String.append_assoc]
      rfl

theorem wraps_message (contexts : List String) (fault : Fault) :
    Wraps fault.message contexts (fault.withContexts contexts).message := by
  induction contexts using List.reverseRecOn with
  | nil => exact .bare
  | append_singleton contexts context ih =>
      obtain ⟨seam, joined, eq⟩ := message_withContext context (fault.withContexts contexts)
      rw [withContexts_snoc, eq]
      exact .outer context ih joined

/-- Contexts leave a fault its kind, and with it tag, exit code and advice, unless its options
exclude each other: then the first context makes it a fault of the program. Either way the message
is kept behind all contexts. -/
theorem withContexts_keeps (contexts : List String) (fault : Fault) :
    (fault.withContexts contexts).kind =
        (if fault.kind = .validation ∧ contexts ≠ [] then .internal else fault.kind) ∧
      ((fault.withContexts contexts).AnswersLike fault ↔
        fault.kind ≠ .validation ∨ contexts = []) ∧
      Wraps fault.message contexts (fault.withContexts contexts).message := by
  have kept : (fault.withContexts contexts).kind =
      if fault.kind = .validation ∧ contexts ≠ [] then .internal else fault.kind := by
    rw [kind_withContexts]
    generalize fault.kind = kind
    by_cases none : contexts = []
    · rw [if_pos none, if_neg fun h => h.2 none]
    · rw [if_neg none]
      cases kind with
      | validation => rw [if_pos ⟨rfl, none⟩, Kind.inContext]
      | config | io | parse | internal => exact (if_neg fun h => nomatch h.1).symm
  refine ⟨kept, ?_, wraps_message contexts fault⟩
  rw [answersLike_iff, kept]
  constructor
  · intro same
    by_cases conflict : fault.kind = .validation
    · right
      by_contra some
      rw [if_pos ⟨conflict, some⟩, conflict] at same
      cases same
    · exact .inl conflict
  · rintro (other | none)
    · exact if_neg fun h => other h.1
    · exact if_neg fun h => h.2 none

/-- With one context, options that exclude each other end a program as a fault of its own would. -/
theorem withContexts_loses_conflict :
    ((validation "m").withContexts ["c"]).kind ≠ (validation "m").kind ∧
      ((validation "m").withContexts ["c"]).category = "INTERNAL" ∧
      (validation "m").exitCode = 1 ∧ ((validation "m").withContexts ["c"]).exitCode = 99 := by
  decide

end LinkTrials.Fault
