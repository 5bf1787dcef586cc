import LinkTrials.Json.Reading
import LinkTrials.Proofs.Decimal.Shortest
import LinkTrials.Proofs.Settings.Amounts

/-!
The numbers that a reader of JSON makes of a significand and a power of ten.

They are finite, since a quotient is not above the significand and a product that is not finite is
refused. Where significand and power are whole numbers that are not rounded themselves, there is one
rounding only and the number is the nearest one to the decimal.
-/
namespace LinkTrials

open Binary64 Json

namespace Binary64

variable {x y : Binary64} {s : Bool} {num den : Nat}

theorem roundUnits_le_roundUnits {i j : Nat} (h : i ≤ j) : roundUnits i 1 ≤ roundUnits j 1 :=
  roundUnits_mono Nat.one_pos Nat.one_pos (Nat.mul_le_mul_right 1 h)

theorem isFinite_ofUnits_of_le {i j : Nat} (h : i ≤ j) (hj : (ofUnits s j 1).isFinite = true) :
    (ofUnits s i 1).isFinite = true := by
  rw [isFinite_ofUnits] at hj ⊢
  exact Nat.lt_of_le_of_lt (roundUnits_le_roundUnits h) hj

theorem isAmount_of_rank {u : Nat} (h : x.rank = some (u : Int)) (hx : x.isFinite = true) :
    IsAmount x := by
  have bound := natAbs_rank_lt h hx
  rw [Int.natAbs_natCast] at bound
  exact (upTo_of_rank h (Nat.le_refl u)).isAmount bound

theorem IsAmount.mul (hx : IsAmount x) (hy : IsAmount y) (h : (x * y).isFinite = true) :
    IsAmount (x * y) := by
  obtain ⟨u, hu, -⟩ := hx.rank
  obtain ⟨v, hv, -⟩ := hy.rank
  have place := rank_mul hx.isFinite hy.isFinite hu hv
  rw [← Int.natCast_mul, rounded_natCast] at place
  exact isAmount_of_rank place h

theorem IsAmount.div (hx : IsAmount x) {v : Nat} (hy : y.rank = some (v : Int))
    (one : oneUnits ≤ v) (hv : v < overflowUnits) : IsAmount (x / y) := by
  obtain ⟨u, hu, fits⟩ := hx.rank
  have positive : 0 < v := Nat.lt_of_lt_of_le oneUnits_pos one
  have place := rank_div hu fits.1 hy positive hv
  have least : magnitude (u * oneUnits) v ≤ u :=
    magnitude_le positive fits.2 (Nat.mul_le_mul_left u one)
  exact (upTo_of_rank place least).isAmount fits.1

end Binary64

namespace Json

variable {x : Binary64} {n : Nat}

theorem isAmount_ofNat (h : n ≤ maxNatural) : IsAmount (Binary64.ofNat n) :=
  (upTo_ofNat_power (e := 64) (Nat.le_trans h (by decide))).isAmount
    (power_lt_overflowUnits (by decide))

/-! ### Powers of ten -/

theorem powerOfTen_eq (e : Nat) : powerOfTen e = ofUnits false (Decimal.stepNum e) 1 := by
  have value := Decimal.ofDecimal_eq false ⟨1, e⟩
  rw [Decimal.num, Decimal.den, Decimal.stepDen_of_nonneg (Int.natCast_nonneg e), Nat.one_mul] at value
  exact value

theorem stepNum_mono {d e : Nat} (h : d ≤ e) : Decimal.stepNum d ≤ Decimal.stepNum e :=
  Nat.mul_le_mul_right _ (Nat.pow_le_pow_right (by decide) (by omega))

theorem isFinite_powerOfTen {e : Nat} (h : e ≤ 308) : (powerOfTen e).isFinite = true := by
  have most : (powerOfTen 308).isFinite = true := by decide +kernel
  rw [powerOfTen_eq] at most ⊢
  exact isFinite_ofUnits_of_le (stepNum_mono h) most

theorem rank_powerOfTen {e : Nat} (h : e ≤ 308) :
    ∃ v : Nat, (powerOfTen e).rank = some (v : Int) ∧ oneUnits ≤ v ∧ v < overflowUnits := by
  have finite := isFinite_powerOfTen h
  rw [powerOfTen_eq, isFinite_ofUnits] at finite
  have least : oneUnits * 1 ≤ Decimal.stepNum e := by
    rw [Nat.mul_one]
    exact Nat.le_mul_of_pos_left _ (Decimal.pow_ten_pos _)
  refine ⟨roundUnits (Decimal.stepNum e) 1, ?_, le_roundUnits Nat.one_pos gap_dvd_oneUnits least, finite⟩
  rw [powerOfTen_eq, ofUnits_of_roundUnits false rfl (fits_roundUnits finite)]
  rfl

/-! ### Any significand -/

theorem IsAmount.scaleDown (hx : IsAmount x) (k : Nat) : IsAmount (scaleDown x k) := by
  rw [Json.scaleDown]
  split
  · next near =>
    obtain ⟨v, hv, one, bound⟩ := rank_powerOfTen near
    exact hx.div hv one bound
  · split
    · next far =>
      obtain ⟨v, hv, one, bound⟩ := rank_powerOfTen (Nat.le_refl 308)
      obtain ⟨w, hw, one', bound'⟩ := rank_powerOfTen (e := k - 308) (by omega)
      exact (hx.div hv one bound).div hw one' bound'
    · exact isAmount_ofNat (Nat.zero_le _)

/-- A number with a sign in front. -/
def signed (negative : Bool) (x : Binary64) : Binary64 := if negative then -x else x

theorem isFinite_signed (s : Bool) (hx : IsAmount x) : (signed s x).isFinite = true := by
  have finite := hx.isFinite
  cases x with
  | nan | infinite t => cases finite
  | finite t n fits => cases s <;> rfl

theorem scaled?_eq_some {s : Bool} {e : Int} (room : n ≤ maxNatural) (h : scaled? s n e = some x) :
    ∃ y, IsAmount y ∧ x = signed s y := by
  have amount := isAmount_ofNat room
  simp only [scaled?] at h
  split at h
  · exact ⟨_, IsAmount.scaleDown amount _, (Option.some.inj h).symm⟩
  · split at h
    · exact ⟨_, amount, (Option.some.inj h).symm⟩
    · split at h
      · cases h
      · next within =>
        obtain ⟨v, hv, -, bound⟩ := rank_powerOfTen (e := e.toNat) (by omega)
        have power := (upTo_of_rank hv (Nat.le_refl v)).isAmount bound
        split at h
        · next finite => exact ⟨_, amount.mul power finite, (Option.some.inj h).symm⟩
        · cases h

/-! ### Significands and powers that are not rounded -/

theorem fits_stepNum {k : Nat} (h : k ≤ 22) : Fits (Decimal.stepNum k) := by
  have few : Nat.pow 5 k ≤ Nat.pow 2 53 :=
    Nat.le_trans (Nat.pow_le_pow_right (by decide) h) (by decide)
  constructor
  · have most : Decimal.stepNum (22 : Nat) < overflowUnits := by decide +kernel
    exact Nat.lt_of_le_of_lt (stepNum_mono h) most
  · obtain ⟨j, one⟩ := oneUnits_eq_pow
    have split : Decimal.stepNum k = Nat.pow 5 k * Nat.pow 2 (k + j) := by
      rw [Decimal.stepNum, one, Int.toNat_natCast]
      simp only [Nat.pow_eq]
      rw [Nat.pow_add, ← Nat.mul_assoc, ← Nat.mul_pow]
    rw [split]
    exact gap_dvd_scaled few

theorem powerOfTen_eq_finite {k : Nat} (h : k ≤ 22) :
    powerOfTen k = .finite false (Decimal.stepNum k) (fits_stepNum h) := by
  have exact := roundUnits_exact Nat.one_pos (fits_stepNum h).2
  rw [Nat.mul_one] at exact
  rw [powerOfTen_eq]
  exact ofUnits_of_roundUnits false exact _

/-- A decimal of at most 53 bits and a power of ten of at most 22 is rounded once. -/
theorem scaled?_of_short (s : Bool) {d : Decimal} (fits : Fits n) (back : d.readsBack n = true)
    (digits : d.digits ≤ Nat.pow 2 53) (exponent : d.exponent.natAbs ≤ 22) :
    scaled? s d.digits d.exponent = some (.finite s n fits) := by
  have nearest (t : Bool) : ofUnits t d.num d.den = .finite t n fits := by
    rw [← Decimal.ofDecimal_eq]
    exact Decimal.ofDecimal_of_readsBack t fits back
  have sign : (if s then -Binary64.finite false n fits else .finite false n fits) =
      .finite s n fits := by cases s <;> rfl
  obtain ⟨fits', whole⟩ := ofNat_eq_finite digits
  simp only [scaled?]
  split
  · next negative =>
    have few : (-d.exponent).toNat ≤ 22 := by omega
    have quotient : scaleDown (Binary64.ofNat d.digits) (-d.exponent).toNat = .finite false n fits := by
      rw [scaleDown, if_pos (by omega), whole, powerOfTen_eq_finite few,
        finite_div_finite _ _ _ _ (Nat.ne_of_gt (Decimal.stepNum_pos _)), ← nearest, Decimal.num,
        Decimal.den, Decimal.stepNum_of_nonpos (by omega : d.exponent ≤ 0), Decimal.stepNum,
        Int.toNat_natCast]
      exact ofUnits_mul_mul _ _ (Decimal.pow_ten_pos _) oneUnits_pos
    rw [quotient, sign]
  · next natural =>
    have few : d.exponent.toNat ≤ 22 := by omega
    have product : Binary64.ofNat d.digits * powerOfTen d.exponent.toNat = .finite false n fits := by
      rw [whole, powerOfTen_eq_finite few, finite_mul_finite, ← nearest, Decimal.num, Decimal.den,
        Decimal.stepDen_of_nonneg (by omega), Int.toNat_of_nonneg (by omega), Nat.mul_right_comm]
      have once := ofUnits_mul_mul false (d.digits * Decimal.stepNum d.exponent) Nat.one_pos oneUnits_pos
      rwa [Nat.one_mul] at once
    split
    · next zero =>
      -- No power is looked at for zero.
      have none : n = 0 := Decidable.not_not.1 fun hz =>
        Decimal.digits_ne_zero_of_readsBack hz back zero
      have same : d.digits * oneUnits = n := by rw [zero, none, Nat.zero_mul]
      subst same
      rw [whole, sign]
    · rw [if_neg (by omega), product, sign]
      rfl

end Json

end LinkTrials
