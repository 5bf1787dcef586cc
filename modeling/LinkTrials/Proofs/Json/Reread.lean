import LinkTrials.Proofs.Json.Numbers
import LinkTrials.Proofs.Json.Scaled

/-!
What a reader of JSON makes of a number that a writer wrote.

The writer takes the shortest decimal that reads back. The reader rounds three times, its digits, the
power of ten and their product or quotient, so it does not always get the number again. It does where
digits and power are whole numbers that are not rounded. And it always gets a finite number: only near
the largest one the three roundings could lead beyond it, and there they do not.
-/
namespace LinkTrials

open Binary64 Json

namespace Json

/-- The decimal that is written for a magnitude of `n` units. -/
def written : Nat → Decimal
  | 0 => ⟨0, -1⟩
  | n + 1 => laidOut (.shortest .even (n + 1))

theorem same_laidOut (d : Decimal) : Decimal.Same (laidOut d) d := by
  rw [laidOut]
  split
  · next fixed =>
    have shifted := Decimal.same_shift d.digits (d.exponent.toNat + 1) (-1)
    have place : (-1 : Int) + (d.exponent.toNat + 1 : Nat) = d.exponent := by omega
    rwa [place] at shifted
  · exact rfl

theorem readsBack_written (n : Nat) : (written n).readsBack n = true := by
  cases n with
  | zero => decide +kernel
  | succ n =>
      rw [written, (same_laidOut _).readsBack]
      exact Decimal.readsBack_shortest .even (Nat.succ_ne_zero n)

theorem isModest_shortest {n : Nat} (hz : n ≠ 0) (h : n < overflowUnits) :
    IsModest (.shortest .even n) := by
  have digits := Decimal.digits_shortest_le .even hz
  have exponent := Decimal.exponent_shortest .even hz h
  have few : Decimal.length (Decimal.shortest .even n).digits ≤ 18 :=
    Decimal.length_le (by decide) (Nat.lt_of_le_of_lt digits (by decide))
  have some := Decimal.length_pos (Decimal.shortest .even n).digits
  refine ⟨Decimal.digits_ne_zero_of_readsBack hz (Decimal.readsBack_shortest .even hz), digits, ?_⟩
  have room : (1000 : Nat) ≤ maxExponent := by decide
  rw [Decimal.leading]
  omega

end Json

/-! ### The largest numbers -/

namespace Binary64

/-- The distance between the largest numbers. -/
def topGap : Nat := Nat.pow 2 2045

/-- Only the rounding interval of the largest number reaches far beyond the number before it. -/
theorem upperQuarters_le {n : Nat} (fits : Fits n) :
    n = overflowUnits - topGap ∨ Decimal.upperQuarters n ≤ 4 * overflowUnits - 6 * topGap := by
  -- With `k` as a variable nothing tries to compute these powers.
  obtain ⟨k, exponent, wide⟩ : ∃ k : Nat, 2045 = k ∧ 2098 = k + 53 := ⟨2045, rfl, rfl⟩
  have top : topGap = Nat.pow 2 k := by
    unfold topGap
    rw [exponent]
  have whole : overflowUnits = Nat.pow 2 (k + 53) := by
    unfold overflowUnits
    rw [wide]
  obtain ⟨bound, steps⟩ := fits
  have double : Nat.pow 2 (k + 53) = 2 * Nat.pow 2 (k + 52) := Nat.pow_succ'
  have twice : Nat.pow 2 (k + 1) = 2 * Nat.pow 2 k := Nat.pow_succ'
  have small : Nat.pow 2 (k + 1) ≤ Nat.pow 2 (k + 52) :=
    Nat.pow_le_pow_right Nat.two_pos (by omega)
  rw [whole] at bound ⊢
  rw [top, Decimal.upperQuarters]
  rcases Nat.lt_or_ge n (Nat.pow 2 (k + 52)) with low | high
  · have narrow := gap_le_gap (Nat.le_of_lt low)
    rw [gap_of_between (Nat.le_refl _) (by omega)] at narrow
    refine .inr (Nat.le_sub_of_add_le ?_)
    omega
  · -- Here all numbers are multiples of one gap.
    have whole : Nat.pow 2 (k + 53) = Nat.pow 2 53 * Nat.pow 2 k := by
      simp only [Nat.pow_eq]
      rw [← Nat.pow_add, Nat.add_comm 53]
    rw [gap_of_between high bound] at steps ⊢
    obtain ⟨c, rfl⟩ := steps
    rw [whole, Nat.mul_comm] at bound
    have below : c < Nat.pow 2 53 := Nat.lt_of_mul_lt_mul_right bound
    rw [whole, Nat.mul_comm (Nat.pow 2 k)]
    rcases Nat.lt_or_eq_of_le (Nat.succ_le_of_lt below) with less | last
    · have scaled := Nat.mul_le_mul_right (Nat.pow 2 k) (Nat.succ_le_of_lt less)
      rw [Nat.succ_mul, Nat.succ_mul] at scaled
      refine .inr (Nat.le_sub_of_add_le ?_)
      omega
    · rw [← last, Nat.succ_mul, Nat.add_sub_cancel]
      exact .inl rfl

theorem isFinite_mul_of_le {a b m n : Nat} (ha : a ≤ b) (hm : m ≤ n)
    (hb : (ofUnits false b 1).isFinite = true) (hn : (ofUnits false n 1).isFinite = true)
    (h : (ofUnits false b 1 * ofUnits false n 1).isFinite = true) :
    (ofUnits false a 1 * ofUnits false m 1).isFinite = true := by
  obtain ⟨_, b'⟩ := ofUnits_eq_finite hb
  obtain ⟨_, n'⟩ := ofUnits_eq_finite hn
  obtain ⟨_, a'⟩ := ofUnits_eq_finite (isFinite_ofUnits_of_le ha hb)
  obtain ⟨_, m'⟩ := ofUnits_eq_finite (isFinite_ofUnits_of_le hm hn)
  rw [b', n', finite_mul_finite, isFinite_ofUnits] at h
  rw [a', m', finite_mul_finite, isFinite_ofUnits]
  refine Nat.lt_of_le_of_lt (roundUnits_mono oneUnits_pos oneUnits_pos ?_) h
  exact Nat.mul_le_mul_right _
    (Nat.mul_le_mul (roundUnits_le_roundUnits ha) (roundUnits_le_roundUnits hm))

end Binary64

namespace Json

/-- The largest significand that a number below the largest one may have with an exponent. -/
def mostDigits (e : Nat) : Nat :=
  min (Nat.pow 10 17) ((4 * overflowUnits - 6 * topGap) / (4 * Decimal.stepNum e))

theorem isFinite_product_of_most : ∀ k < 18,
    (Binary64.ofNat (mostDigits (291 + k)) * powerOfTen (291 + k)).isFinite = true := by
  decide +kernel

theorem isFinite_product_of_seventeen :
    (Binary64.ofNat (Nat.pow 10 17)).isFinite = true ∧ (powerOfTen 308).isFinite = true ∧
      (powerOfTen 290).isFinite = true ∧
      (Binary64.ofNat (Nat.pow 10 17) * powerOfTen 290).isFinite = true := by
  decide +kernel

theorem isFinite_product {digits e : Nat} (hd : digits ≤ mostDigits e) (he : e ≤ 308) :
    (Binary64.ofNat digits * powerOfTen e).isFinite = true := by
  obtain ⟨significand, power, power', product⟩ := isFinite_product_of_seventeen
  rw [powerOfTen_eq] at power power' product ⊢
  have few : digits ≤ Nat.pow 10 17 := Nat.le_trans hd (Nat.min_le_left _ _)
  rcases Nat.lt_or_ge e 291 with low | high
  · exact isFinite_mul_of_le (Nat.mul_le_mul_right _ few) (stepNum_mono (by omega)) significand
      power' product
  · obtain ⟨k, rfl⟩ := Nat.exists_eq_add_of_le high
    have most := isFinite_product_of_most k (by omega)
    rw [powerOfTen_eq] at most
    refine isFinite_mul_of_le (Nat.mul_le_mul_right _ hd) (Nat.le_refl _) ?_ ?_ most
    · exact isFinite_ofUnits_of_le (Nat.mul_le_mul_right _ (Nat.min_le_left _ _)) significand
    · exact isFinite_ofUnits_of_le (stepNum_mono he) power

theorem written_most : written (overflowUnits - topGap) = ⟨17976931348623157, 292⟩ := by
  decide +kernel

theorem isFinite_product_of_largest :
    (Binary64.ofNat 17976931348623157 * powerOfTen 292).isFinite = true := by
  decide +kernel

theorem exponent_le_of_readsBack {n : Nat} {d : Decimal} (fits : Fits n) (hz : d.digits ≠ 0)
    (back : d.readsBack n = true) : d.exponent ≤ 308 := by
  apply Int.not_lt.1
  intro large
  have beyond : overflowUnits ≤ Decimal.stepNum (309 : Nat) := by decide +kernel
  have dense : gap overflowUnits ∣ overflowUnits := by decide +kernel
  have least : Decimal.stepNum (309 : Nat) ≤ d.num := by
    have step := stepNum_mono (d := 309) (e := d.exponent.toNat) (by omega)
    rw [Int.toNat_of_nonneg (by omega)] at step
    exact Nat.le_trans step (Nat.le_mul_of_pos_left _ (Nat.pos_of_ne_zero hz))
  have exact := roundUnits_of_isNear fits.2 d.den_pos ((Decimal.readsBack_iff n d).1 back)
  have whole : d.den = 1 := Decimal.stepDen_of_nonneg (by omega)
  rw [whole] at exact
  have excess : overflowUnits ≤ roundUnits d.num 1 :=
    le_roundUnits Nat.one_pos dense (by rw [Nat.mul_one]; exact Nat.le_trans beyond least)
  exact absurd fits.1 (Nat.not_lt_of_le (exact ▸ excess))

theorem digits_le_of_readsBack {n : Nat} {d : Decimal} (natural : 0 ≤ d.exponent)
    (back : d.readsBack n = true) (few : d.digits ≤ Nat.pow 10 17)
    (below : Decimal.upperQuarters n ≤ 4 * overflowUnits - 6 * topGap) :
    d.digits ≤ mostDigits d.exponent.toNat := by
  have near := ((Decimal.readsBack_iff n d).1 back).2
  have whole : d.den = 1 := Decimal.stepDen_of_nonneg natural
  have value : d.digits * (4 * Decimal.stepNum d.exponent) = 4 * d.num := Nat.mul_left_comm ..
  rw [whole, Nat.mul_one] at near
  refine Nat.le_min.2 ⟨few, ?_⟩
  rw [Int.toNat_of_nonneg natural,
    Nat.le_div_iff_mul_le (Nat.mul_pos (by decide) (Decimal.stepNum_pos _)), value]
  omega

/-! ### Reading again -/

theorem written_succ (n : Nat) :
    (written (n + 1)).exponent = -1 ∨ written (n + 1) = .shortest .even (n + 1) := by
  rw [written, laidOut]
  split
  · exact .inl rfl
  · exact .inr rfl

theorem scaled?_written (s : Bool) {n : Nat} (fits : Fits n) :
    ∃ x, scaled? s (written n).digits (written n).exponent = some x := by
  simp only [scaled?]
  split
  · exact ⟨_, rfl⟩
  · next natural =>
    have back := readsBack_written n
    split
    · exact ⟨_, rfl⟩
    · next positive =>
      have exponent := exponent_le_of_readsBack fits positive back
      have few : (written n).digits ≤ Nat.pow 10 17 := by
        cases n with
        | zero => exact Nat.zero_le _
        | succ n =>
            rcases written_succ n with broken | same
            · omega
            · rw [same]
              exact Decimal.digits_shortest_le .even (Nat.succ_ne_zero n)
      have product :
          (Binary64.ofNat (written n).digits * powerOfTen (written n).exponent.toNat).isFinite = true := by
        rcases upperQuarters_le fits with largest | below
        · rw [largest, written_most]
          exact isFinite_product_of_largest
        · exact isFinite_product (digits_le_of_readsBack (by omega) back few below) (by omega)
      rw [if_neg (by omega), if_pos product]
      exact ⟨_, rfl⟩

/-- What a reader makes of the text of a number. -/
def reread : Binary64 → Binary64
  | .finite s n _ => (scaled? s (written n).digits (written n).exponent).getD .nan
  | x => x

theorem scaledReading_written (s : Bool) {n : Nat} (fits : Fits n) :
    scaledReading s (written n) = .number (.real (reread (.finite s n fits))) := by
  obtain ⟨x, eq⟩ := scaled?_written s fits
  rw [scaledReading, reread, eq]
  rfl

/-- A number with a short decimal is read as it was written. -/
theorem reread_of_short (s : Bool) {n : Nat} (fits : Fits n)
    (digits : (written n).digits ≤ Nat.pow 2 53) (exponent : (written n).exponent.natAbs ≤ 22) :
    reread (.finite s n fits) = .finite s n fits := by
  rw [reread, scaled?_of_short s fits (readsBack_written n) digits exponent]
  rfl

/-- The text of a magnitude of `n` units. -/
def magnitudeText : Nat → List Char
  | 0 => ['0', '.', '0']
  | n + 1 => layout (.shortest .even (n + 1))

theorem realText_finite (s : Bool) {n : Nat} (fits : Fits n) :
    realText (.finite s n fits) = signText s ++ magnitudeText n := by
  cases n <;> rfl

theorem readNumber_magnitudeText (s : Bool) {n : Nat} (fits : Fits n) {rest : List Char}
    (ends : EndsNumber rest) :
    readNumber s (magnitudeText n ++ rest) =
      (.number (.real (reread (.finite s n fits))), some rest) := by
  rw [← scaledReading_written]
  cases n with
  | zero =>
      have zero : Text.AllDigits ['0'] := Text.allDigits_zeros 1
      refine (readNumber_point s (isLead_toDigits 0) zero (List.cons_ne_nil _ _) ends.endsDigits).trans ?_
      rw [afterDigits_of_ends _ _ _ ends, ofParts_decimal s (.inl (by simp)) (by decide) (by simp)]
      rfl
  | succ n => exact readNumber_layout s (isModest_shortest (Nat.succ_ne_zero n) fits.1) ends

end Json

end LinkTrials
