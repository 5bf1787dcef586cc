import Mathlib.Algebra.Order.Field.Power
import Mathlib.Data.Rat.Cast.Order
import Mathlib.Tactic.Linarith
import Mathlib.Tactic.Ring
import LinkTrials.Decimal.Shortest
import LinkTrials.Proofs.Binary64.Nearest

/-!
The reals that round to a magnitude.

A magnitude is the rounding of everything from halfway to the neighbour below up to halfway to the
neighbour above; the ends belong to it if its significand is even. So a decimal that is found to read
back is rounded to the magnitude, and this is a matter of its value alone, not of how many zeros end its
digits.
-/
namespace LinkTrials

open Binary64

namespace Binary64

/-- A quotient at most half of the divisor away from a multiple of it, and less than half if that is an
odd one. -/
theorem divEven_eq {num den c : Nat} (hd : 0 < den)
    (lower : 2 * (c * den) < 2 * num + den ∨ c % 2 = 0 ∧ 2 * (c * den) = 2 * num + den)
    (upper : 2 * num < 2 * (c * den) + den ∨ c % 2 = 0 ∧ 2 * num = 2 * (c * den) + den) :
    divEven num den = c := by
  have parts := Nat.div_add_mod' num den
  have rest := Nat.mod_lt num hd
  have above : num / den < c + 1 := by
    refine Nat.lt_of_mul_lt_mul_right (a := den) ?_
    rw [Nat.add_one_mul]
    omega
  have below : c < num / den + 2 := by
    refine Nat.lt_of_mul_lt_mul_right (a := den) ?_
    rw [Nat.add_mul]
    omega
  rw [divEven]
  generalize num / den = q at *
  rcases Nat.lt_or_eq_of_le (Nat.le_of_lt_succ above) with less | rfl
  · obtain rfl : c = q + 1 := by omega
    rw [Nat.add_one_mul q den] at lower upper
    split
    · omega
    · split <;> omega
  · split
    · rfl
    · split <;> omega

/-- The magnitude of `n` units is the rounding of `num / den`, told by the ends of the interval around
it. -/
def IsNear (n num den : Nat) : Prop :=
  (Decimal.lowerQuarters n * den < 4 * num ∨
    n / gap n % 2 = 0 ∧ 4 * num = Decimal.lowerQuarters n * den) ∧
  (4 * num < Decimal.upperQuarters n * den ∨
    n / gap n % 2 = 0 ∧ 4 * num = Decimal.upperQuarters n * den)

variable {n num den : Nat}

theorem gap_le_self (h : n ≠ 0) : gap n ≤ n :=
  Nat.le_trans (Nat.pow_le_pow_right Nat.two_pos (Nat.sub_le _ _)) (floorPower_le h)

theorem le_lowerQuarters (n : Nat) : 4 * n ≤ Decimal.lowerQuarters n + 2 * gap n := by
  rw [Decimal.lowerQuarters]
  split <;> omega

theorem lowerQuarters_le (n : Nat) : Decimal.lowerQuarters n ≤ 4 * n := by
  rw [Decimal.lowerQuarters]
  split <;> exact Nat.sub_le _ _

theorem isNear_mul_mul (n num den : Nat) {c : Nat} (hc : 0 < c) :
    IsNear n (num * c) (den * c) ↔ IsNear n num den := by
  have assoc (q : Nat) : q * (den * c) = q * den * c := (Nat.mul_assoc ..).symm
  rw [IsNear, IsNear, ← Nat.mul_assoc 4, assoc, assoc]
  simp only [Nat.mul_lt_mul_right hc, Nat.mul_left_inj (Nat.ne_of_gt hc)]

theorem gap_of_log2 {a : Nat} (h : a.log2 ≤ 52) : gap a = 1 := by
  rw [gap, Nat.sub_eq_zero_of_le h, Nat.pow_eq, Nat.pow_zero]

theorem gap_of_between {q k : Nat} (low : Nat.pow 2 (k + 52) ≤ q) (high : q < Nat.pow 2 (k + 53)) :
    gap q = Nat.pow 2 k := by
  have nonzero : q ≠ 0 := Nat.ne_of_gt (Nat.lt_of_lt_of_le (Nat.two_pow_pos _) low)
  have log : q.log2 = k + 52 := (Nat.log2_eq_iff nonzero).2 ⟨low, high⟩
  rw [gap, log, Nat.add_sub_cancel]

/-- Below a power of two, where numbers are half as far apart as above it, a quarter of the wider gap
is rounded up to it. -/
theorem roundUnits_eq_power {k : Nat} (hd : 0 < den) (below : num < Nat.pow 2 (k + 53) * den)
    (near : 2 * (Nat.pow 2 (k + 53) * den) ≤ 2 * num + Nat.pow 2 k * den) :
    roundUnits num den = Nat.pow 2 (k + 53) := by
  have whole : Nat.pow 2 (k + 53) = Nat.pow 2 53 * Nat.pow 2 k := by
    simp only [Nat.pow_eq]
    rw [← Nat.pow_add, Nat.add_comm 53]
  have double : Nat.pow 2 (k + 53) = 2 * Nat.pow 2 (k + 52) := Nat.pow_succ'
  have small : Nat.pow 2 k ≤ Nat.pow 2 (k + 52) := Nat.pow_le_pow_right Nat.two_pos (by omega)
  have low : Nat.pow 2 (k + 52) ≤ num / den := by
    rw [Nat.le_div_iff_mul_le hd]
    have scaled := Nat.mul_le_mul_right den small
    rw [double, Nat.mul_assoc] at near
    omega
  have narrow := gap_of_between low ((Nat.div_lt_iff_lt_mul hd).2 below)
  have target : Nat.pow 2 53 * (den * Nat.pow 2 k) = Nat.pow 2 (k + 53) * den := by
    rw [whole, Nat.mul_comm den, Nat.mul_assoc]
  have even : Nat.pow 2 53 % 2 = 0 := by decide
  rw [roundUnits, narrow, whole]
  refine congrArg (· * Nat.pow 2 k) (divEven_eq (Nat.mul_pos hd (Nat.two_pow_pos k)) ?_ ?_)
  · rw [target, Nat.mul_comm den]
    omega
  · rw [target]
    omega

/-- Only a power of two is the rounding of quotients whose neighbours are closer together. -/
theorem eq_floorPower_of_lt (hn : gap n ∣ n) (hz : n ≠ 0)
    (below : num < floorPower n * den) (lower : 4 * n * den ≤ 4 * num + 2 * gap n * den) :
    n = floorPower n := by
  have room : 4 * n < 4 * floorPower n + 2 * gap n := by
    refine Nat.lt_of_mul_lt_mul_right (a := den) ?_
    rw [Nat.add_mul, Nat.mul_assoc 4 (floorPower n)]
    omega
  have least := floorPower_le hz
  have steps : gap n ∣ n - floorPower n := Nat.dvd_sub hn (gap_dvd_floorPower n)
  rcases Nat.eq_zero_or_pos (n - floorPower n) with none | some
  · omega
  · have step := Nat.le_of_dvd some steps
    omega

/-- A quotient in the binade below that still is near enough. -/
theorem roundUnits_of_lower (hn : gap n ∣ n) (hz : n ≠ 0) (hd : 0 < den)
    (width : gap (num / den) ≠ gap n) (below : num < floorPower n * den)
    (lower : Decimal.lowerQuarters n * den ≤ 4 * num) : roundUnits num den = n := by
  have le : num / den ≤ n :=
    Nat.le_of_lt (Nat.lt_of_lt_of_le ((Nat.div_lt_iff_lt_mul hd).2 below) (floorPower_le hz))
  have least : 4 * n * den ≤ Decimal.lowerQuarters n * den + 2 * gap n * den := by
    rw [← Nat.add_mul]
    exact Nat.mul_le_mul_right _ (le_lowerQuarters n)
  -- Only below a power of two are the neighbours closer together, and there by half.
  have power := eq_floorPower_of_lt hn hz below (by omega)
  obtain ⟨k, log⟩ : ∃ k, n.log2 = k + 53 := by
    refine Nat.exists_eq_add_of_le' (Nat.lt_of_not_le fun small => width ?_)
    rw [gap_of_log2 small, gap_of_log2 (Nat.le_trans (log2_le_log2 le) small)]
  have value : n = Nat.pow 2 (k + 53) := by rw [power, floorPower, log]
  have wide : gap n = 2 * Nat.pow 2 k := by
    rw [gap, log]
    exact Nat.pow_succ'
  have quarter : Decimal.lowerQuarters n = 4 * n - gap n := by
    refine if_pos ⟨?_, ?_⟩
    · rw [gap, log, value]
      simp only [Nat.pow_eq]
      rw [← Nat.pow_add]
      exact congrArg _ (by omega)
    · have := Nat.two_pow_pos k
      simp only [Nat.pow_eq] at wide
      omega
  rw [← power, value] at below
  rw [quarter, wide, value, Nat.sub_mul, Nat.mul_assoc, Nat.mul_assoc] at lower
  refine (roundUnits_eq_power hd below ?_).trans value.symm
  omega

/-- A quotient from the interval around a magnitude is rounded to it. -/
theorem roundUnits_of_isNear (hn : gap n ∣ n) (hd : 0 < den) (h : IsNear n num den) :
    roundUnits num den = n := by
  obtain ⟨lower, upper⟩ := h
  have hgap := gap_pos n
  have most : Decimal.upperQuarters n * den = 4 * (n * den) + 2 * (gap n * den) := by
    rw [Decimal.upperQuarters, Nat.add_mul, Nat.mul_assoc, Nat.mul_assoc]
  by_cases width : gap (num / den) = gap n
  · -- In the binade of `n` the nearest multiple of one gap is asked for.
    have steps : n / gap n * (den * gap n) = n * den := by
      rw [Nat.mul_comm den, ← Nat.mul_assoc, Nat.div_mul_cancel hn]
    have least : 4 * (n * den) ≤ Decimal.lowerQuarters n * den + 2 * (gap n * den) := by
      rw [← Nat.mul_assoc, ← Nat.mul_assoc, ← Nat.add_mul]
      exact Nat.mul_le_mul_right _ (le_lowerQuarters n)
    rw [Nat.mul_comm (gap n)] at least most
    rw [roundUnits, width, divEven_eq (Nat.mul_pos hd hgap) (c := n / gap n)]
    · exact Nat.div_mul_cancel hn
    · rw [steps]
      omega
    · rw [steps]
      omega
  · rcases Nat.le_total (num / den) n with le | ge
    · obtain ⟨lt, hz⟩ := (gap_eq_or_lt_floorPower le).resolve_left width
      exact roundUnits_of_lower hn hz hd width ((Nat.div_lt_iff_lt_mul hd).1 lt) (by omega)
    · -- The next power of two is a whole gap away.
      obtain ⟨lt, hz⟩ := (gap_eq_or_lt_floorPower ge).resolve_left (Ne.symm width)
      exfalso
      have reach : floorPower (num / den) * den ≤ num :=
        (Nat.le_div_iff_mul_le hd).1 (floorPower_le hz)
      have steps : gap n ∣ floorPower (num / den) - n :=
        Nat.dvd_sub (Nat.dvd_trans (gap_dvd_gap ge) (gap_dvd_floorPower _)) hn
      have step := Nat.le_of_dvd (Nat.sub_pos_of_lt lt) steps
      have far : (n + gap n) * den ≤ num :=
        Nat.le_trans (Nat.mul_le_mul_right _ (by omega)) reach
      have wide := Nat.mul_pos hgap hd
      rw [Nat.add_mul] at far
      omega

theorem isNear_congr {num' den' : Nat} (hd : 0 < den) (hd' : 0 < den')
    (same : num * den' = num' * den) : IsNear n num den ↔ IsNear n num' den' := by
  rw [← isNear_mul_mul n num den hd', same, Nat.mul_comm den, isNear_mul_mul n num' den' hd]

theorem roundUnits_eq_zero (hd : 0 < den) (h : 2 * num ≤ den) : roundUnits num den = 0 := by
  have zero : num / den = 0 := Nat.div_eq_of_lt (by omega)
  have fine : gap 0 = 1 := gap_of_log2 (by decide)
  rw [roundUnits, zero, fine, Nat.mul_one, Nat.mul_one]
  exact divEven_eq hd (by omega) (by omega)

theorem ofUnits_of_roundUnits {m : Nat} (s : Bool) (h : roundUnits num den = m) (fits : Fits m) :
    ofUnits s num den = .finite s m fits := by
  subst h
  rw [ofUnits, dif_pos fits.1]

theorem ofUnits_of_overflow (s : Bool) (h : overflowUnits ≤ roundUnits num den) :
    ofUnits s num den = .infinite s := by
  rw [ofUnits, dif_neg (Nat.not_lt_of_le h)]

end Binary64

namespace Decimal

/-- The step of the grid of exponent `e`, in units, is `stepNum e / stepDen e`. -/
def stepNum (e : Int) : Nat := Nat.pow 10 e.toNat * oneUnits

def stepDen (e : Int) : Nat := Nat.pow 10 (-e).toNat

/-- A decimal in units is `num / den`. -/
def num (d : Decimal) : Nat := d.digits * stepNum d.exponent

def den (d : Decimal) : Nat := stepDen d.exponent

theorem pow_ten_pos (k : Nat) : 0 < Nat.pow 10 k := Nat.pow_pos (by decide)

theorem stepNum_pos (e : Int) : 0 < stepNum e := Nat.mul_pos (pow_ten_pos _) oneUnits_pos

theorem stepDen_pos (e : Int) : 0 < stepDen e := pow_ten_pos _

theorem den_pos (d : Decimal) : 0 < d.den := stepDen_pos _

theorem readsBack_iff (n : Nat) (d : Decimal) :
    readsBack n d = true ↔ IsNear n d.num d.den := by
  have product : 4 * (d.digits * Nat.pow 10 d.exponent.toNat) * oneUnits = 4 * d.num := by
    rw [num, stepNum, Nat.mul_assoc, Nat.mul_assoc]
  simp only [readsBack, compareQuarters, product, Bool.and_eq_true, Bool.or_eq_true, beq_iff_eq,
    Nat.compare_eq_gt, Nat.compare_eq_lt, Nat.compare_eq_eq, IsNear, den, stepDen]

theorem length_pos (n : Nat) : 0 < length n :=
  List.length_pos_iff.2 Nat.toDigits_ne_nil

theorem lt_pow_length (n : Nat) : n < Nat.pow 10 (length n) :=
  (Nat.length_toDigits_le_iff (by decide) (length_pos n)).1 (Nat.le_refl _)

theorem pow_length_le {n : Nat} (h : n ≠ 0) : Nat.pow 10 (length n - 1) ≤ n := by
  rcases Nat.eq_zero_or_pos (length n - 1) with one | more
  · rw [one]
    exact Nat.pos_of_ne_zero h
  · apply Nat.le_of_not_lt
    intro short
    have := (Nat.length_toDigits_le_iff (b := 10) (by decide) more).2 short
    simp only [length] at this more
    omega

theorem stepDen_of_nonneg {e : Int} (h : 0 ≤ e) : stepDen e = 1 := by
  rw [stepDen, Int.toNat_of_nonpos (by omega)]

theorem stepNum_of_nonpos {e : Int} (h : e ≤ 0) : stepNum e = oneUnits := by
  have one : Nat.pow 10 0 = 1 := rfl
  rw [stepNum, Int.toNat_of_nonpos h, one, Nat.one_mul]

theorem two_mul_num_le {d : Decimal} (h : length d.digits + d.exponent < -400) :
    2 * d.num ≤ d.den := by
  obtain ⟨m, hm, small⟩ : ∃ m : Nat, 400 = m ∧ 2 * oneUnits ≤ Nat.pow 10 m :=
    ⟨400, rfl, by decide +kernel⟩
  obtain ⟨k, hk⟩ : ∃ k, (-d.exponent).toNat = length d.digits + m + k :=
    Nat.exists_eq_add_of_le (by omega)
  have split : d.den = Nat.pow 10 (length d.digits) * Nat.pow 10 m * Nat.pow 10 k := by
    rw [den, stepDen, hk]
    simp only [Nat.pow_eq, Nat.pow_add]
  rw [num, stepNum_of_nonpos (by omega), split, Nat.mul_left_comm]
  calc d.digits * (2 * oneUnits)
      ≤ Nat.pow 10 (length d.digits) * Nat.pow 10 m :=
        Nat.mul_le_mul (Nat.le_of_lt (lt_pow_length _)) small
    _ ≤ _ := Nat.le_mul_of_pos_right _ (pow_ten_pos k)

theorem overflowUnits_mul_le {d : Decimal} (hd : d.digits ≠ 0)
    (h : 400 < length d.digits + d.exponent) : overflowUnits * d.den ≤ d.num := by
  obtain ⟨m, hm, large⟩ : ∃ m : Nat, 400 = m ∧ overflowUnits ≤ Nat.pow 10 m * oneUnits :=
    ⟨400, rfl, by decide +kernel⟩
  have lead : Nat.pow 10 m * d.den ≤ d.digits * Nat.pow 10 d.exponent.toNat := by
    refine Nat.le_trans ?_ (Nat.mul_le_mul_right _ (pow_length_le hd))
    simp only [den, stepDen, Nat.pow_eq]
    rw [← Nat.pow_add, ← Nat.pow_add]
    exact Nat.pow_le_pow_right (by decide) (by omega)
  calc overflowUnits * d.den
      ≤ Nat.pow 10 m * oneUnits * d.den := Nat.mul_le_mul_right _ large
    _ = Nat.pow 10 m * d.den * oneUnits := Nat.mul_right_comm ..
    _ ≤ d.digits * Nat.pow 10 d.exponent.toNat * oneUnits := Nat.mul_le_mul_right _ lead
    _ = d.num := Nat.mul_assoc ..

/-- Decimals far out of the range of the format are rounded like any others. -/
theorem ofDecimal_eq (s : Bool) (d : Decimal) :
    ofDecimal s d.digits d.exponent = ofUnits s d.num d.den := by
  rw [ofDecimal]
  split
  · next tiny =>
    have fits : Fits 0 := by decide +kernel
    have near : 2 * d.num ≤ d.den := by
      rcases tiny with zero | small
      · rw [num, zero, Nat.zero_mul]
        exact Nat.zero_le _
      · exact two_mul_num_le small
    rw [ofUnits_of_roundUnits s (roundUnits_eq_zero d.den_pos near) fits,
      ofUnits_of_roundUnits s (roundUnits_eq_zero Nat.one_pos (by decide)) fits]
  · next notTiny =>
    rw [not_or] at notTiny
    split
    · next huge =>
      have dense : gap overflowUnits ∣ overflowUnits := by decide +kernel
      exact (ofUnits_of_overflow s
        (le_roundUnits d.den_pos dense (overflowUnits_mul_le notTiny.1 huge))).symm
    · split
      · next whole => rw [num, den, stepDen_of_nonneg whole, stepNum, Nat.mul_assoc]
      · next negative => rw [num, den, stepNum_of_nonpos (by omega), stepDen]

theorem ofDecimal_of_readsBack {n : Nat} {d : Decimal} (s : Bool) (fits : Fits n)
    (h : readsBack n d = true) : ofDecimal s d.digits d.exponent = .finite s n fits := by
  rw [ofDecimal_eq]
  exact ofUnits_of_roundUnits s
    (roundUnits_of_isNear fits.2 d.den_pos ((readsBack_iff n d).1 h)) fits

/-- Two spellings of one number. -/
def Same (c d : Decimal) : Prop := c.num * d.den = d.num * c.den

theorem stepNum_shift (k : Nat) (e : Int) :
    Nat.pow 10 k * stepNum e * stepDen (e + k) = stepNum (e + k) * stepDen e := by
  have powers : Nat.pow 10 k * Nat.pow 10 e.toNat * Nat.pow 10 (-(e + k)).toNat =
      Nat.pow 10 (e + k).toNat * Nat.pow 10 (-e).toNat := by
    simp only [Nat.pow_eq, ← Nat.pow_add]
    exact congrArg _ (by omega)
  rw [stepNum, stepNum, stepDen, stepDen, Nat.mul_right_comm (Nat.pow 10 (e + k).toNat), ← powers]
  ring

theorem same_shift (digits k : Nat) (e : Int) :
    Same ⟨digits * Nat.pow 10 k, e⟩ ⟨digits, e + k⟩ := by
  simp only [Same, num, den]
  rw [Nat.mul_assoc digits, Nat.mul_assoc digits, stepNum_shift, Nat.mul_assoc digits]

theorem Same.readsBack {c d : Decimal} (h : Same c d) (n : Nat) :
    c.readsBack n = d.readsBack n := by
  rw [Bool.eq_iff_iff, readsBack_iff, readsBack_iff]
  exact isNear_congr c.den_pos d.den_pos h

theorem Same.ofDecimal {c d : Decimal} (h : Same c d) (s : Bool) :
    Binary64.ofDecimal s c.digits c.exponent = Binary64.ofDecimal s d.digits d.exponent := by
  rw [ofDecimal_eq, ofDecimal_eq, ← ofUnits_mul_mul s c.num c.den_pos d.den_pos, h,
    Nat.mul_comm c.den, ofUnits_mul_mul s d.num d.den_pos c.den_pos]

end Decimal

end LinkTrials
