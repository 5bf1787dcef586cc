import LinkTrials.Proofs.Decimal.Interval

/-!
The shortest decimal of a magnitude reads back as the magnitude, and it has at most seventeen digits.

The grid with seventeen digits is finer than the magnitudes are, so a point of it lies in the interval of
every magnitude; the exact value is never needed in its place.
-/
namespace LinkTrials.Decimal

open Binary64

variable {n : Nat} {tie : Tie} {d : Decimal}

/-! ### Trailing zeros -/

theorem same_drop (h : d.digits % 10 = 0) : Same d ⟨d.digits / 10, d.exponent + 1⟩ := by
  have digits : d.digits / 10 * Nat.pow 10 1 = d.digits := Nat.div_mul_cancel (Nat.dvd_of_mod_eq_zero h)
  have shifted := same_shift (d.digits / 10) 1 d.exponent
  rwa [digits] at shifted

theorem readsBack_strip (limit : Nat) (d : Decimal) :
    (strip limit d).readsBack n = d.readsBack n := by
  induction limit generalizing d with
  | zero => rfl
  | succ limit ih =>
      rw [strip]
      split
      · next ends =>
        rw [ih]
        exact ((same_drop ends.1).readsBack n).symm
      · rfl

theorem exponent_strip (limit : Nat) (d : Decimal) :
    d.exponent ≤ (strip limit d).exponent ∧ (strip limit d).exponent ≤ d.exponent + limit := by
  induction limit generalizing d with
  | zero =>
      rw [strip]
      omega
  | succ limit ih =>
      rw [strip]
      split
      · have tail := ih ⟨d.digits / 10, d.exponent + 1⟩
        dsimp only at tail
        omega
      · omega

theorem digits_strip_le (limit : Nat) (d : Decimal) : (strip limit d).digits ≤ d.digits := by
  induction limit generalizing d with
  | zero => exact Nat.le_refl _
  | succ limit ih =>
      rw [strip]
      split
      · exact Nat.le_trans (ih _) (Nat.div_le_self _ _)
      · exact Nat.le_refl _

/-! ### Magnitudes between powers of ten -/

theorem stepNum_magnitude_le (hz : n ≠ 0) :
    stepNum (magnitude n - 1) ≤ n * stepDen (magnitude n - 1) := by
  rw [magnitude]
  split
  · next large =>
    have whole : n / oneUnits ≠ 0 := Nat.ne_of_gt (Nat.div_pos large oneUnits_pos)
    have positive := length_pos (n / oneUnits)
    have power : ((length (n / oneUnits) : Int) - 1).toNat = length (n / oneUnits) - 1 := by omega
    rw [stepDen_of_nonneg (by omega), stepNum, power, Nat.mul_one]
    exact Nat.le_trans (Nat.mul_le_mul_right _ (pow_length_le whole)) (Nat.div_mul_le_self _ _)
  · have below := lt_pow_length ((oneUnits - 1) / n)
    rw [Nat.div_lt_iff_lt_mul (Nat.pos_of_ne_zero hz)] at below
    have power : (-(1 - (length ((oneUnits - 1) / n) : Int) - 1)).toNat =
        length ((oneUnits - 1) / n) := by omega
    rw [stepNum_of_nonpos (by omega), stepDen, power, Nat.mul_comm n]
    omega

theorem lt_stepNum_magnitude (hz : n ≠ 0) :
    n * stepDen (magnitude n) < stepNum (magnitude n) := by
  rw [magnitude]
  split
  · next large =>
    have above := lt_pow_length (n / oneUnits)
    rw [Nat.div_lt_iff_lt_mul oneUnits_pos] at above
    rwa [stepDen_of_nonneg (Int.natCast_nonneg _), stepNum, Int.toNat_natCast, Nat.mul_one]
  · next small =>
    have positive := length_pos ((oneUnits - 1) / n)
    have whole : (oneUnits - 1) / n ≠ 0 :=
      Nat.ne_of_gt (Nat.div_pos (by omega) (Nat.pos_of_ne_zero hz))
    have below := Nat.le_trans (Nat.mul_le_mul_right n (pow_length_le whole)) (Nat.div_mul_le_self _ _)
    have power : (-(1 - (length ((oneUnits - 1) / n) : Int))).toNat =
        length ((oneUnits - 1) / n) - 1 := by omega
    rw [stepNum_of_nonpos (by omega), stepDen, power, Nat.mul_comm n]
    omega

/-! ### Points of a grid -/

theorem floorOnGrid_eq (n : Nat) (e : Int) : floorOnGrid n e = n * stepDen e / stepNum e := by
  rw [floorOnGrid, stepNum, stepDen, Nat.mul_comm oneUnits]

theorem floorOnGrid_mul_le (n : Nat) (e : Int) :
    floorOnGrid n e * stepNum e ≤ n * stepDen e := by
  rw [floorOnGrid_eq]
  exact Nat.div_mul_le_self _ _

theorem lt_floorOnGrid_mul (n : Nat) (e : Int) :
    n * stepDen e < (floorOnGrid n e + 1) * stepNum e := by
  rw [floorOnGrid_eq, ← Nat.div_lt_iff_lt_mul (stepNum_pos e)]
  exact Nat.lt_succ_self _

/-- A grid finer than the magnitudes has a point that reads back. -/
theorem readsBack_of_step_lt {e : Int} (hz : n ≠ 0) (fine : stepNum e < gap n * stepDen e)
    (finer : n = Nat.pow 2 52 * gap n → 2 * stepNum e < gap n * stepDen e) :
    readsBack n ⟨floorOnGrid n e, e⟩ = true ∨ readsBack n ⟨floorOnGrid n e + 1, e⟩ = true := by
  have low := floorOnGrid_mul_le n e
  have high := lt_floorOnGrid_mul n e
  have next : (floorOnGrid n e + 1) * stepNum e = floorOnGrid n e * stepNum e + stepNum e :=
    Nat.add_one_mul ..
  have upper : upperQuarters n * stepDen e = 4 * (n * stepDen e) + 2 * (gap n * stepDen e) := by
    rw [upperQuarters, Nat.add_mul, Nat.mul_assoc, Nat.mul_assoc]
  have lower : lowerQuarters n * stepDen e ≤ 4 * (n * stepDen e) := by
    rw [← Nat.mul_assoc]
    exact Nat.mul_le_mul_right _ (lowerQuarters_le n)
  have room := Nat.mul_le_mul_right (stepDen e) (gap_le_self hz)
  simp only [readsBack_iff, IsNear, num, den, upper, next]
  -- Only a power of two has less room below than above; there the point above is taken.
  by_cases power : n = Nat.pow 2 52 * gap n ∧ 1 < gap n
  · have narrow := finer power.1
    exact .inr ⟨.inl (by omega), .inl (by omega)⟩
  · have ends : lowerQuarters n * stepDen e = 4 * (n * stepDen e) - 2 * (gap n * stepDen e) := by
      rw [lowerQuarters, if_neg power, Nat.sub_mul, Nat.mul_assoc, Nat.mul_assoc]
    rw [ends]
    rcases Nat.lt_or_ge (4 * (n * stepDen e) - 2 * (gap n * stepDen e))
      (4 * (floorOnGrid n e * stepNum e)) with near | far
    · exact .inl ⟨.inl near, .inl (by omega)⟩
    · exact .inr ⟨.inl (by omega), .inl (by omega)⟩

theorem onGrid?_eq_some {e : Int} (h : onGrid? tie n e = some d) :
    readsBack n d = true ∧ d.digits ≤ floorOnGrid n e + 1 ∧ d.exponent = e := by
  rw [onGrid?] at h
  split at h
  · next low =>
    obtain rfl := Option.some.inj h
    split
    · next both => exact ⟨(Bool.and_eq_true_iff.1 both).1, Nat.le_refl _, rfl⟩
    · exact ⟨low, Nat.le_succ _, rfl⟩
  · split at h
    · next high =>
      obtain rfl := Option.some.inj h
      exact ⟨high, Nat.le_refl _, rfl⟩
    · cases h

theorem onGrid?_ne_none {e : Int}
    (h : readsBack n ⟨floorOnGrid n e, e⟩ = true ∨ readsBack n ⟨floorOnGrid n e + 1, e⟩ = true) :
    onGrid? tie n e ≠ none := by
  rw [onGrid?]
  split
  · exact Option.some_ne_none _
  · next low =>
    rw [if_pos (h.resolve_left low)]
    exact Option.some_ne_none _

/-! ### The search -/

theorem magnitude_fine (hz : n ≠ 0) :
    Nat.pow 10 16 * stepNum (magnitude n - 17) ≤ n * stepDen (magnitude n - 17) := by
  have shift := stepNum_shift 16 (magnitude n - 17)
  have place : magnitude n - 17 + (16 : Nat) = magnitude n - 1 := by omega
  rw [place] at shift
  refine Nat.le_of_mul_le_mul_right (c := stepDen (magnitude n - 1)) ?_ (stepDen_pos _)
  rw [shift, Nat.mul_right_comm]
  exact Nat.mul_le_mul_right _ (stepNum_magnitude_le hz)

/-- Seventeen digits are enough. -/
theorem onGrid?_seventeen (hz : n ≠ 0) : onGrid? tie n (magnitude n - 17) ≠ none := by
  have fine := magnitude_fine hz
  have digits : 2 * Nat.pow 2 52 ≤ Nat.pow 10 16 := by decide
  generalize magnitude n - 17 = e at fine
  have positive := stepDen_pos e
  have wide : n * stepDen e < Nat.pow 2 53 * (gap n * stepDen e) := by
    rw [← Nat.mul_assoc]
    exact Nat.mul_lt_mul_of_pos_right (lt_two_pow_gap n) positive
  refine onGrid?_ne_none (readsBack_of_step_lt hz ?_ fun power => ?_)
  · refine Nat.lt_of_mul_lt_mul_left (a := Nat.pow 10 16) (Nat.lt_of_le_of_lt fine ?_)
    exact Nat.lt_of_lt_of_le wide (Nat.mul_le_mul_right _ digits)
  · have half : n * stepDen e = Nat.pow 2 52 * (gap n * stepDen e) := by
      rw [← Nat.mul_assoc, ← power]
    have room := Nat.mul_lt_mul_of_pos_right (k := gap n * stepDen e)
      (by decide : 2 * Nat.pow 2 52 < Nat.pow 10 16) (Nat.mul_pos (gap_pos n) positive)
    refine Nat.lt_of_mul_lt_mul_left (a := Nat.pow 10 16) ?_
    rw [Nat.mul_left_comm]
    rw [Nat.mul_assoc] at room
    omega

theorem floorOnGrid_lt (hz : n ≠ 0) (k : Nat) :
    floorOnGrid n (magnitude n - k) < Nat.pow 10 k := by
  have shift := stepNum_shift k (magnitude n - k)
  rw [Int.sub_add_cancel] at shift
  rw [floorOnGrid_eq, Nat.div_lt_iff_lt_mul (stepNum_pos _)]
  refine Nat.lt_of_mul_lt_mul_right (a := stepDen (magnitude n)) ?_
  rw [shift, Nat.mul_right_comm]
  exact Nat.mul_lt_mul_of_pos_right (lt_stepNum_magnitude hz) (stepDen_pos _)

/-- What the search finds. -/
structure IsFound (n : Nat) (d : Decimal) : Prop where
  back : readsBack n d = true
  digits : d.digits ≤ Nat.pow 10 17
  low : magnitude n - 17 ≤ d.exponent
  high : d.exponent < magnitude n

theorem shortest_eq_strip (tie : Tie) (hz : n ≠ 0) :
    ∃ d, shortest tie n = strip 17 d ∧ IsFound n d := by
  rw [shortest]
  cases found : (List.range 17).findSome? fun k => onGrid? tie n (magnitude n - (k + 1 : Nat)) with
  | none =>
    exact absurd (List.findSome?_eq_none_iff.1 found 16 (by decide)) (onGrid?_seventeen hz)
  | some d =>
    obtain ⟨k, inside, onGrid⟩ := List.exists_of_findSome?_eq_some found
    obtain ⟨back, digits, exponent⟩ := onGrid?_eq_some onGrid
    have few := List.mem_range.1 inside
    refine ⟨d, rfl, back, ?_, by omega, by omega⟩
    refine Nat.le_trans digits (Nat.le_trans (floorOnGrid_lt hz (k + 1)) ?_)
    exact Nat.pow_le_pow_right (by decide) few

theorem readsBack_shortest (tie : Tie) (hz : n ≠ 0) : readsBack n (shortest tie n) = true := by
  obtain ⟨d, eq, found⟩ := shortest_eq_strip tie hz
  rw [eq, readsBack_strip, found.back]

theorem digits_shortest_le (tie : Tie) (hz : n ≠ 0) :
    (shortest tie n).digits ≤ Nat.pow 10 17 := by
  obtain ⟨d, eq, found⟩ := shortest_eq_strip tie hz
  rw [eq]
  exact Nat.le_trans (digits_strip_le 17 d) found.digits

theorem length_le {k : Nat} (hk : 0 < k) (h : n < Nat.pow 10 k) : length n ≤ k :=
  (Nat.length_toDigits_le_iff (by decide) hk).2 h

theorem magnitude_bounds (h : n < overflowUnits) : -400 ≤ magnitude n ∧ magnitude n ≤ 400 := by
  obtain ⟨k, hk, large, small⟩ : ∃ k : Nat, 400 = k ∧ overflowUnits ≤ Nat.pow 10 k * oneUnits ∧
      oneUnits ≤ Nat.pow 10 k := ⟨400, rfl, by decide +kernel, by decide +kernel⟩
  have positive : 0 < k := by omega
  rw [magnitude]
  split
  · have few : length (n / oneUnits) ≤ k :=
      length_le positive ((Nat.div_lt_iff_lt_mul oneUnits_pos).2 (Nat.lt_of_lt_of_le h large))
    omega
  · have few : length ((oneUnits - 1) / n) ≤ k := by
      refine length_le positive (Nat.lt_of_le_of_lt (Nat.div_le_self _ _) ?_)
      exact Nat.lt_of_lt_of_le (Nat.sub_lt oneUnits_pos Nat.one_pos) small
    omega

theorem exponent_shortest (tie : Tie) (hz : n ≠ 0) (h : n < overflowUnits) :
    -417 ≤ (shortest tie n).exponent ∧ (shortest tie n).exponent ≤ 417 := by
  obtain ⟨d, eq, found⟩ := shortest_eq_strip tie hz
  have bounds := magnitude_bounds h
  have strip := exponent_strip 17 d
  have low := found.low
  have high := found.high
  rw [eq]
  omega

/-- Only zero is near zero. -/
theorem digits_ne_zero_of_readsBack (hz : n ≠ 0) (h : readsBack n d = true) : d.digits ≠ 0 := by
  intro zero
  have near := ((readsBack_iff n d).1 h).1
  have room := gap_le_self hz
  have least := le_lowerQuarters n
  have positive : 0 < lowerQuarters n * d.den := Nat.mul_pos (by omega) d.den_pos
  rw [num, zero, Nat.zero_mul] at near
  omega

end LinkTrials.Decimal
