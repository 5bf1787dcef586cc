import LinkTrials.Proofs.Evaluation.Reordering
import LinkTrials.Proofs.Json.Finite
import LinkTrials.Proofs.Samples.Unmeasured

/-!
Samples of trials that were read from a text.

A text has only finite numbers, and the decoder of throughputs takes none below zero; latencies are spans
anyway. So all samples are finite and not below zero.
-/
namespace LinkTrials

open Json Measured

namespace Json.Decoder

variable {depth : Nat} {r : Reading}

theorem real_eq_ok {x : Binary64} (h : real depth r = .ok x) : ∃ n, r = .number n ∧ x = n.value := by
  cases r with
  | number n =>
      refine ⟨n, rfl, ?_⟩
      cases n <;> exact (Except.ok.inj h).symm
  | _ => cases h

theorem optional_eq_ok {α : Type} {decode : Decoder α} {x : α}
    (h : optional decode depth r = .ok (some x)) : decode depth r = .ok x := by
  have present (h : (decode depth r).map some = .ok (some x)) : decode depth r = .ok x := by
    cases read : decode depth r with
    | error fault =>
        rw [read] at h
        cases h
    | ok y =>
        rw [read] at h
        cases h
        rfl
  cases r with
  | null => cases h
  | _ => exact present h

end Json.Decoder

theorem Measured.isBound_of_decoder {depth : Nat} {r : Reading} {throughput : Option Binary64}
    (finite : r.IsFinite) (h : throughputDecoder depth r = .ok throughput) :
    ∀ x ∈ throughput, x.isBound = true := by
  rintro x ⟨⟩
  have natural := (isThroughput_of_decoder h x rfl).ne_nan.2
  obtain ⟨read, decoded, h⟩ := Json.Decoder.checked_eq_ok h
  cases read with
  | none => cases h
  | some y =>
      obtain ⟨n, rfl, rfl⟩ := Json.Decoder.real_eq_ok (Json.Decoder.optional_eq_ok decoded)
      have same : n.value = x := by
        simp only [throughputOfNumber] at h
        split at h
        · cases h
        · split at h
          · cases h
          · exact Option.some.inj (Except.ok.inj h)
      rw [Binary64.isBound, natural, ← same, finite.value]
      rfl

theorem Trial.isBounded_of_decoder {depth : Nat} {r : Reading} {t : Trial} (finite : r.IsFinite)
    (h : decoder depth r = .ok t) : t.IsBounded := by
  have blank : ({} : Trial).IsBounded := by
    intro x hx
    rcases hx with ⟨⟨⟩⟩ | ⟨⟨⟩⟩
  refine Schema.decode_preserves_given blank ?_ (fun part => finite.part) h
  intro m hm depth r f finite read t before
  simp only [schema, List.mem_cons, List.not_mem_nil, or_false] at hm
  rcases hm with rfl | rfl | rfl | rfl | rfl | rfl | rfl | rfl
  · obtain ⟨s, -, rfl⟩ := read_of read
    exact before
  · obtain ⟨throughput, decoded, rfl⟩ := read_of read
    exact fun x hx => hx.elim (isBound_of_decoder finite decoded x) fun wifi => before x (.inr wifi)
  · obtain ⟨latency, -, rfl⟩ := read_of read
    exact before
  · obtain ⟨s, -, rfl⟩ := read_of read
    exact before
  · obtain ⟨throughput, decoded, rfl⟩ := read_of read
    exact fun x hx => hx.elim (fun bt => before x (.inl bt)) (isBound_of_decoder finite decoded x)
  · obtain ⟨latency, -, rfl⟩ := read_of read
    exact before
  · obtain ⟨expected, -, rfl⟩ := read_of read
    exact before
  · obtain ⟨expected, -, rfl⟩ := read_of read
    exact before

namespace Samples

theorem isBounded_of_text {text : String} {trials : List Trial} (h : trialsOfText text = .ok trials) :
    ∀ t ∈ trials, t.IsBounded := by
  have finite := isFinite_ofText text
  obtain ⟨items, reading, decoded⟩ := trialsOfText_eq_ok.1 h
  rw [reading] at finite
  have all := (List.forall₂_and_left items trials).2 ⟨fun r mem => finite.part mem, decoded⟩
  have each : List.Forall₂ (fun r t => t.IsBounded ∧ Trial.decoder 126 r = .ok t) items trials :=
    all.imp fun r t h => ⟨Trial.isBounded_of_decoder h.1 h.2, h.2⟩
  exact ((List.forall₂_and_left trials items).1 each.flip).1

end Samples

end LinkTrials
