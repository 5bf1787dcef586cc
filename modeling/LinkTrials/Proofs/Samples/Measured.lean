import LinkTrials.Measured
import LinkTrials.Proofs.Binary64.Arithmetic
import LinkTrials.Proofs.Binary64.Nearest
import LinkTrials.Proofs.Json.Members

/-!
Which numbers are measurements.

Some numbers mark a value that was not measured, and others are refused. Of a latency that is neither
one can say more than that the number was below the mark: rounding it to nanoseconds, and these to a
number of seconds again, does not bring it up to the mark, because numbers of that size are further
apart than nanoseconds.
-/
namespace LinkTrials

open Binary64

/-- The value is a number that reads as `x`. -/
def Json.Reading.IsReal (r : Json.Reading) (x : Binary64) : Prop :=
  ∀ depth, Json.Decoder.real depth r = .ok x

theorem Json.Decoder.checked_eq_ok {α β : Type} {decode : Json.Decoder α}
    {check : α → Except String β} {depth : Nat} {r : Json.Reading} {b : β}
    (h : Json.Decoder.checked decode check depth r = .ok b) :
    ∃ a, decode depth r = .ok a ∧ check a = .ok b := by
  rw [checked] at h
  cases read : decode depth r with
  | error fault =>
      rw [read] at h
      cases h
  | ok a =>
      rw [read] at h
      dsimp only at h
      cases said : check a with
      | error reason =>
          rw [said] at h
          cases h
      | ok c =>
          rw [said] at h
          cases h
          exact ⟨a, rfl, said⟩

theorem Json.Decoder.optional_of_isReal {depth : Nat} {r : Json.Reading} {x : Binary64}
    (h : r.IsReal x) : Json.Decoder.optional Json.Decoder.real depth r = .ok (some x) := by
  have read := h depth
  cases r with
  | number n =>
      rw [optional, read]
      · rfl
      · rintro ⟨⟩
  | _ => cases read

namespace Measured

/-- A latency that says that it was not measured: `null` or a finite number from the mark on. -/
inductive UnsetLatency : Json.Reading → Prop
  | null : UnsetLatency .null
  | number {r : Json.Reading} {x : Binary64} (reads : r.IsReal x) (finite : x.isFinite = true)
      (beyond : le unsetSeconds x = true) : UnsetLatency r

/-- A throughput that says that it was not measured: `null` or a finite number below zero. -/
inductive UnsetThroughput : Json.Reading → Prop
  | null : UnsetThroughput .null
  | number {r : Json.Reading} {x : Binary64} (reads : r.IsReal x) (finite : x.isFinite = true)
      (below : lt x 0 = true) : UnsetThroughput r

variable {r : Json.Reading} {x : Binary64} {depth : Nat}

theorem latencyDecoder_of_isReal (h : r.IsReal x) :
    latencyDecoder depth r = (latencyOfSeconds x).mapError .refused := by
  rw [latencyDecoder, Json.Decoder.checked, Json.Decoder.optional_of_isReal h]

theorem throughputDecoder_of_isReal (h : r.IsReal x) :
    throughputDecoder depth r = (throughputOfNumber x).mapError .refused := by
  rw [throughputDecoder, Json.Decoder.checked, Json.Decoder.optional_of_isReal h]

theorem latencyDecoder_of_unset (h : UnsetLatency r) : latencyDecoder depth r = .ok none := by
  cases h with
  | null => rfl
  | number reads _ beyond =>
      rw [latencyDecoder_of_isReal reads, latencyOfSeconds, if_pos beyond]
      rfl

theorem throughputDecoder_of_unset (h : UnsetThroughput r) :
    throughputDecoder depth r = .ok none := by
  cases h with
  | null => rfl
  | @number _ x reads finite below =>
      have number : x.isNaN = false := by
        cases x with
        | nan => cases finite
        | _ => rfl
      rw [throughputDecoder_of_isReal reads, throughputOfNumber, number, below]
      rfl

theorem rank_unsetSeconds : unsetSeconds.rank = some ((86399999913600 * oneUnits : Nat) : Int) :=
  rank_ofNat (n := 86399999913600) (by decide)

theorem ofSeconds_of_rank_neg {a : Int} (h : x.rank = some a) (below : a < 0) :
    Span.ofSeconds x = .error .negative := by
  cases x with
  | nan => cases h
  | infinite s =>
      cases s with
      | true => rfl
      | false =>
          cases h
          exact absurd below (Int.not_lt.2 (Int.natCast_nonneg _))
  | finite s n fits =>
      cases s with
      | true =>
          cases h
          have nonzero : n ≠ 0 := by
            rintro rfl
            exact Int.lt_irrefl _ below
          rw [Span.ofSeconds, Bool.true_and, if_pos (bne_iff_ne.2 nonzero)]
      | false =>
          cases h
          exact absurd below (Int.not_lt.2 (Int.natCast_nonneg _))

theorem latencyDecoder_of_negative (reads : r.IsReal x) (below : lt x 0 = true) :
    ∃ fault, latencyDecoder depth r = .error fault := by
  have number : x ≠ nan := by
    rintro rfl
    cases below
  obtain ⟨a, ha⟩ := rank_of_ne_nan number
  rw [ofNat_literal, lt_of_rank ha rank_ofNat_zero, decide_eq_true_eq] at below
  have unmarked : ¬ le unsetSeconds x = true := by
    intro beyond
    obtain ⟨b, c, hb, hc, order⟩ := le_iff.1 beyond
    rw [rank_unsetSeconds] at hb
    rw [ha] at hc
    cases hb
    cases hc
    exact Int.not_lt.2 (Int.natCast_nonneg _) (Int.lt_of_le_of_lt order below)
  rw [latencyDecoder_of_isReal reads, latencyOfSeconds, if_neg unmarked,
    ofSeconds_of_rank_neg ha below]
  exact ⟨_, rfl⟩

theorem oneUnits_eq_mul_pow : ∃ e, oneUnits = 64 * Nat.pow 2 e := by
  obtain ⟨k, hk, one⟩ := oneUnits_eq_large_pow
  obtain ⟨e, rfl⟩ : ∃ e, k = e + 6 := ⟨k - 6, by omega⟩
  refine ⟨e, one.trans ?_⟩
  simp only [Nat.pow_eq, Nat.pow_add]
  omega

/-- The numbers next to the mark are a sixty-fourth of a second apart. -/
theorem add_le_unset {e u : Nat} (one : oneUnits = 64 * Nat.pow 2 e) (fits : gap u ∣ u)
    (below : u < 86399999913600 * oneUnits) : u + Nat.pow 2 e ≤ 86399999913600 * oneUnits := by
  have width : gap (Nat.pow 2 46 * oneUnits) = Nat.pow 2 e := by
    have power : Nat.pow 2 46 * oneUnits = Nat.pow 2 (e + 52) := by
      rw [one]
      simp only [Nat.pow_eq, Nat.pow_add]
      omega
    rw [power, gap, Nat.pow_eq, Nat.pow_eq, Nat.log2_two_pow, Nat.add_sub_cancel, Nat.pow_eq]
  rcases Nat.lt_or_ge u (Nat.pow 2 46 * oneUnits) with small | large
  · rw [one] at small ⊢
    generalize Nat.pow 2 e = step at small ⊢
    simp only [Nat.pow_eq] at small
    omega
  · have divides : Nat.pow 2 e ∣ u := Nat.dvd_trans (width ▸ gap_dvd_gap large) fits
    have mark : Nat.pow 2 e ∣ 86399999913600 * oneUnits := by
      rw [one]
      exact Nat.dvd_mul_left_of_dvd (Nat.dvd_mul_left _ _) _
    have room := Nat.le_of_dvd (Nat.sub_pos_of_lt below) (Nat.dvd_sub mark divides)
    omega

theorem units_lt_of_not_le {s : Bool} {u : Nat} {fits : Fits u}
    (below : ¬ le unsetSeconds (.finite s u fits) = true) (positive : ¬ (s && u != 0) = true) :
    u < 86399999913600 * oneUnits := by
  rcases Nat.eq_zero_or_pos u with rfl | some
  · exact Nat.mul_pos (by decide) oneUnits_pos
  · cases s with
    | true =>
        rw [Bool.true_and, bne_iff_ne] at positive
        exact absurd (Nat.ne_of_gt some) positive
    | false =>
        refine Nat.lt_of_not_le fun beyond => below (le_iff.2 ?_)
        exact ⟨_, _, rank_unsetSeconds, rank_finite false fits, Int.ofNat_le.2 beyond⟩

/-- A number below the mark is still below it when it is rounded to nanoseconds. -/
theorem toNanos_of_ofSeconds {d : Span} (below : ¬ le unsetSeconds x = true)
    (h : Span.ofSeconds x = .ok d) : d.toNanos ≤ 86399999913599984375000 := by
  cases x with
  | nan | infinite s => cases h
  | finite s u fits =>
      rw [Span.ofSeconds] at h
      split at h
      · cases h
      · next positive =>
        split at h
        · next parts =>
          cases h
          rw [Span.toNanos_ofParts? parts, Nat.zero_mul, Nat.zero_add]
          obtain ⟨e, one⟩ := oneUnits_eq_mul_pow
          have room := add_le_unset one fits.2 (units_lt_of_not_le below positive)
          refine divEven_le_of_le oneUnits_pos ?_
          rw [one] at room ⊢
          generalize Nat.pow 2 e = step at room ⊢
          simp only [Span.perSecond]
          omega
        · cases h

/-- The nanoseconds of a span in sixty-fourths of a second. -/
theorem upTo_nanos {e n : Nat} (one : oneUnits = 64 * Nat.pow 2 e) {d : Span} (hn : n ≤ 64)
    (least : d.nanos * 64 ≤ n * 1000000000) :
    UpTo (n * Nat.pow 2 e) (ofNat d.nanos / ofNat 1000000000) := by
  have whole : (1000000000 : Nat) ≤ Nat.pow 2 53 := by decide
  have parts : n * Nat.pow 2 e ≤ oneUnits := one ▸ Nat.mul_le_mul_right _ hn
  obtain ⟨a, ha, most⟩ := upTo_ofNat (Nat.le_trans (Nat.le_of_lt d.nanos_lt) whole)
  refine UpTo.div ⟨a, ha, ?_⟩ (gap_dvd_scaled (Nat.le_trans hn (by decide))) ?_ (by decide) whole
  · calc a
        ≤ d.nanos * oneUnits := most
      _ = d.nanos * 64 * Nat.pow 2 e := by rw [one, Nat.mul_assoc]
      _ ≤ n * 1000000000 * Nat.pow 2 e := Nat.mul_le_mul_right _ least
      _ = n * Nat.pow 2 e * 1000000000 := Nat.mul_right_comm _ _ _
  · refine Nat.lt_of_le_of_lt (Nat.mul_le_mul_right _ parts) ?_
    rw [Nat.mul_comm]
    exact whole_lt_overflowUnits whole

/-- Nor does the way back to a number of seconds lead up to the mark. -/
theorem upTo_toSeconds {e : Nat} (one : oneUnits = 64 * Nat.pow 2 e) {d : Span}
    (h : d.toNanos ≤ 86399999913599984375000) :
    UpTo (5529599994470399 * Nat.pow 2 e) d.toSeconds := by
  have nanosLt := d.nanos_lt
  simp only [Span.toNanos, Span.perSecond] at h
  have few : d.secs ≤ 86399999913599 := by omega
  have secs : UpTo (d.secs * 64 * Nat.pow 2 e) (ofNat d.secs) := by
    rw [Nat.mul_assoc, ← one]
    exact upTo_ofNat (Nat.le_trans few (by decide))
  have limit : 5529599994470399 * Nat.pow 2 e < overflowUnits := by
    refine Nat.lt_of_le_of_lt ?_ (whole_lt_overflowUnits (n := 86399999913600) (by decide))
    rw [one, ← Nat.mul_assoc]
    exact Nat.mul_le_mul_right _ (by decide)
  have sum (n : Nat) (hn : n ≤ 64) (least : d.nanos * 64 ≤ n * 1000000000)
      (room : d.secs * 64 + n ≤ 5529599994470399) :
      UpTo (5529599994470399 * Nat.pow 2 e) d.toSeconds := by
    refine secs.add (upTo_nanos one hn least) (gap_dvd_scaled (by decide)) ?_ limit
    rw [← Nat.add_mul]
    exact Nat.mul_le_mul_right _ room
  -- Only in the last second before the mark the nanoseconds matter.
  rcases Nat.lt_or_ge d.secs 86399999913599 with earlier | last
  · exact sum 64 (Nat.le_refl _) (by omega) (by omega)
  · exact sum 63 (by decide) (by omega) (by omega)

/-- The span is a latency that a number of seconds can stand for. -/
def IsLatency (d : Span) : Prop := ∃ y, latencyOfSeconds y = .ok (some d)

def IsThroughput (x : Binary64) : Prop := ∃ y, throughputOfNumber y = .ok (some x)

theorem isLatency_of_decoder {latency : Option Span} (h : latencyDecoder depth r = .ok latency) :
    ∀ d ∈ latency, IsLatency d := by
  rintro d ⟨⟩
  obtain ⟨read, -, h⟩ := Json.Decoder.checked_eq_ok h
  cases read with
  | none => cases h
  | some y => exact ⟨y, h⟩

theorem isThroughput_of_decoder {throughput : Option Binary64}
    (h : throughputDecoder depth r = .ok throughput) : ∀ x ∈ throughput, IsThroughput x := by
  rintro x ⟨⟩
  obtain ⟨read, -, h⟩ := Json.Decoder.checked_eq_ok h
  cases read with
  | none => cases h
  | some y => exact ⟨y, h⟩

theorem IsThroughput.ne_nan (h : IsThroughput x) : x ≠ nan ∧ lt x 0 = false := by
  obtain ⟨y, h⟩ := h
  rw [throughputOfNumber] at h
  split at h
  · cases h
  · next number =>
    split at h
    · cases h
    · next natural =>
      cases h
      refine ⟨?_, Bool.eq_false_iff.2 natural⟩
      rintro rfl
      exact number rfl

theorem IsLatency.toNanos_le {d : Span} (h : IsLatency d) :
    d.toNanos ≤ 86399999913599984375000 := by
  obtain ⟨y, h⟩ := h
  rw [latencyOfSeconds] at h
  split at h
  · cases h
  · next below =>
    split at h
    · next read =>
      cases h
      exact toNanos_of_ofSeconds below read
    · cases h

theorem IsLatency.shorter {d : Span} (h : IsLatency d) :
    d.shorter (.ofSecs (999999999 * 86400)) = true := by
  rw [Span.shorter_iff]
  exact Nat.lt_of_le_of_lt h.toNanos_le (by decide)

theorem IsLatency.toSeconds {d : Span} (h : IsLatency d) :
    d.toSeconds ≠ nan ∧ lt d.toSeconds 0 = false ∧ lt d.toSeconds unsetSeconds = true := by
  obtain ⟨e, one⟩ := oneUnits_eq_mul_pow
  obtain ⟨a, ha, most⟩ := upTo_toSeconds one h.toNanos_le
  refine ⟨?_, ?_, ?_⟩
  · intro none
    rw [none] at ha
    cases ha
  · rw [ofNat_literal, lt_of_rank ha rank_ofNat_zero, decide_eq_false_iff_not]
    exact Int.not_lt.2 (Int.natCast_nonneg a)
  · rw [lt_of_rank ha rank_unsetSeconds, decide_eq_true_eq, Int.ofNat_lt, one]
    have pos : 0 < Nat.pow 2 e := Nat.two_pow_pos e
    generalize Nat.pow 2 e = step at most pos ⊢
    omega

end Measured

end LinkTrials
