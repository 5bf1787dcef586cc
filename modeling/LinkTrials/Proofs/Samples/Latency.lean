import LinkTrials.Proofs.Samples.Measured
import LinkTrials.Proofs.Span.Seconds

/-!
Latencies that are written and read.

What one trial file says of a latency is said again by the file that is written after reading it, as long
as numbers pass unchanged between the two. A latency that was not measured stays so, one below `2 ^ 23`
seconds is the same to the nanosecond, and a longer one either reaches the mark of a missing measurement
or becomes a latency with the same number.
-/
namespace LinkTrials

open Binary64

/-- A reader gets of a value what was written: `null` for `null`, and for a binary number a value that
reads as this number. -/
inductive Json.Carries : Json → Json.Reading → Prop
  | null : Carries .null .null
  | number {x : Binary64} {r : Json.Reading} (reads : r.IsReal x) : Carries (.number (.real x)) r

theorem Json.Carries.isReal {x : Binary64} {r : Json.Reading} (h : Carries (.number (.real x)) r) :
    r.IsReal x := by
  cases h with
  | number reads => exact reads

namespace Measured

variable {r : Json.Reading} {d : Span} {depth : Nat}

theorem latencyToJson_some (d : Span) : latencyToJson (some d) = .number (.real d.toSeconds) := by
  have finite := d.isAmount_toSeconds.isFinite
  rw [latencyToJson, Json.ofOption]
  generalize d.toSeconds = x at finite
  exact if_pos finite

theorem latencyDecoder_of_carries (h : Json.Carries (latencyToJson (some d)) r) :
    latencyDecoder depth r = (latencyOfSeconds d.toSeconds).mapError .refused := by
  rw [latencyToJson_some] at h
  exact latencyDecoder_of_isReal h.isReal

theorem latencyOfSeconds_of_read {x : Binary64} (below : ¬ le unsetSeconds x = true)
    (h : Span.ofSeconds x = .ok d) : latencyOfSeconds x = .ok (some d) := by
  rw [latencyOfSeconds, if_neg below, h]

/-- Below `2 ^ 23` seconds no number is near the mark. -/
theorem not_le_toSeconds (short : d.secs < Nat.pow 2 23) :
    ¬ le unsetSeconds d.toSeconds = true := by
  have small : d.toNanos ≤ 86399999913599984375000 := by
    have nanos := d.nanos_lt
    simp only [Nat.pow_eq] at short
    simp only [Span.toNanos, Span.perSecond]
    omega
  -- Both numbers are compared by their places, in sixty-fourths of a second.
  obtain ⟨e, one⟩ := oneUnits_eq_mul_pow
  obtain ⟨a, ha, most⟩ := upTo_toSeconds one small
  intro beyond
  obtain ⟨b, c, hb, hc, order⟩ := le_iff.1 beyond
  rw [rank_unsetSeconds] at hb
  rw [ha] at hc
  cases hb
  cases hc
  have step : 0 < Nat.pow 2 e := Nat.two_pow_pos e
  rw [Int.ofNat_le, one] at order
  generalize Nat.pow 2 e = width at most step order
  omega

/-- From there on a number below the mark is the number of the latency that it is read as. -/
theorem exists_latencyOfSeconds (long : Nat.pow 2 23 ≤ d.secs)
    (below : ¬ le unsetSeconds d.toSeconds = true) :
    ∃ d', latencyOfSeconds d.toSeconds = .ok (some d') ∧ d'.toSeconds = d.toSeconds := by
  obtain ⟨fits, number⟩ := d.toSeconds_eq
  have less : roundUnits d.sumUnits 1 < 86399999913600 * oneUnits := by
    rw [number] at below
    exact units_lt_of_not_le below (by rw [Bool.false_and]; exact Bool.false_ne_true)
  obtain ⟨d', read, same⟩ :=
    Span.exists_ofSeconds_toSeconds long (m := 86399999913600) (by decide) (Nat.le_of_lt less)
  exact ⟨d', latencyOfSeconds_of_read below read, same⟩

/-- A latency from the text of a latency. Nothing stays nothing. A span below `2 ^ 23` seconds comes back
as it was. Of any span the number marks a missing measurement and is read so, or it is read as a span that
has the same number, so that this one is written as before. -/
theorem latencyDecoder_carried {latency : Option Span} (depth : Nat)
    (carried : Json.Carries (latencyToJson latency) r) :
    (latency = none → latencyToJson latency = .null ∧ latencyDecoder depth r = .ok none) ∧
    ∀ d, latency = some d →
      (d.secs < Nat.pow 2 23 → latencyDecoder depth r = .ok (some d)) ∧
      (le unsetSeconds d.toSeconds = true ∧ latencyDecoder depth r = .ok none ∨
        le unsetSeconds d.toSeconds = false ∧ ∃ d', latencyDecoder depth r = .ok (some d') ∧
          d'.toSeconds = d.toSeconds ∧ latencyToJson (some d') = latencyToJson latency) := by
  refine ⟨?_, ?_⟩
  · rintro rfl
    cases carried
    exact ⟨rfl, rfl⟩
  · rintro d rfl
    rw [latencyDecoder_of_carries carried]
    have back (short : d.secs < Nat.pow 2 23) : latencyOfSeconds d.toSeconds = .ok (some d) :=
      latencyOfSeconds_of_read (not_le_toSeconds short) (Span.ofSeconds_toSeconds short)
    refine ⟨fun short => by rw [back short]; rfl, ?_⟩
    by_cases beyond : le unsetSeconds d.toSeconds = true
    · refine .inl ⟨beyond, ?_⟩
      rw [latencyOfSeconds, if_pos beyond]
      rfl
    · obtain ⟨d', read, same⟩ :
          ∃ d', latencyOfSeconds d.toSeconds = .ok (some d') ∧ d'.toSeconds = d.toSeconds := by
        rcases Nat.lt_or_ge d.secs (Nat.pow 2 23) with short | long
        · exact ⟨d, back short, rfl⟩
        · exact exists_latencyOfSeconds long beyond
      refine .inr ⟨Bool.eq_false_iff.2 beyond, d', by rw [read]; rfl, same, ?_⟩
      rw [latencyToJson_some, latencyToJson_some, same]

/-- The last nanosecond before `2 ^ 23` seconds is kept; one nanosecond more than `2 ^ 25` seconds is
lost. -/
theorem latencyDecoder_carried_of_long :
    let short : Span := ⟨8388607, 999999999, by decide, by decide⟩
    let long : Span := ⟨33554432, 1, by decide, by decide⟩
    let reading (d : Span) : Json.Reading := .number (.real d.toSeconds)
    Json.Carries (latencyToJson (some short)) (reading short) ∧
      latencyDecoder 0 (reading short) = .ok (some short) ∧
    Json.Carries (latencyToJson (some long)) (reading long) ∧
      ∃ d', latencyDecoder 0 (reading long) = .ok (some d') ∧ d' ≠ long ∧
        d'.toSeconds = long.toSeconds := by
  intro short long reading
  have carries (d : Span) : Json.Carries (latencyToJson (some d)) (reading d) := by
    rw [latencyToJson_some]
    exact .number fun _ => rfl
  have kept := ((latencyDecoder_carried 0 (carries short)).2 short rfl).1 (by decide)
  have read : latencyDecoder 0 (reading long) = .ok (some (.ofSecs 33554432)) := by decide +kernel
  rcases ((latencyDecoder_carried 0 (carries long)).2 long rfl).2 with
    ⟨-, unset⟩ | ⟨-, d', read', same, -⟩
  · rw [read] at unset
    cases unset
  · rw [read] at read'
    cases read'
    exact ⟨carries short, kept, carries long, _, read, by decide, same⟩

end Measured

end LinkTrials
