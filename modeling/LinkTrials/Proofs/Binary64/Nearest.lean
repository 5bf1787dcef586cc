import Mathlib.Tactic.Linarith
import LinkTrials.Proofs.Binary64.Order

/-!
How far a rounded quotient lies from the exact one.

It lies at most half a gap away. Two things follow. Quotients up to one whose denominators have a
product below `2 ^ 52` stay apart: a gap is too narrow to hold two of them. And a proper share of a
rounded number, rounded in its turn, is not above the number as it was before any rounding; a proper
share is at least half a gap short of the whole, and this outweighs what rounding had added.
-/
namespace LinkTrials.Binary64

/-- The rounded quotient is the whole part with at most half of the divisor left over, or one more
with at least half left over. -/
theorem divEven_cases (num den : Nat) :
    divEven num den = num / den ∧ 2 * (num % den) ≤ den ∨
      divEven num den = num / den + 1 ∧ den ≤ 2 * (num % den) := by
  rw [divEven]
  split
  · next below => exact .inl ⟨rfl, Nat.le_of_lt below⟩
  · split
    · next above => exact .inr ⟨rfl, Nat.le_of_lt above⟩
    · -- At a tie it is whichever of the two is even.
      rcases Nat.mod_two_eq_zero_or_one (num / den) with even | odd
      · exact .inl ⟨by rw [even, Nat.add_zero], by omega⟩
      · exact .inr ⟨by rw [odd], by omega⟩

theorem divEven_mul_le (num : Nat) {den : Nat} (hd : 0 < den) :
    2 * (divEven num den * den) ≤ 2 * num + den := by
  have exact := Nat.div_add_mod' num den
  have rest := Nat.mod_lt num hd
  rcases divEven_cases num den with ⟨eq, half⟩ | ⟨eq, half⟩
  · rw [eq]
    omega
  · rw [eq, Nat.add_one_mul (num / den)]
    omega

theorem le_divEven_mul (num : Nat) {den : Nat} (hd : 0 < den) :
    2 * num ≤ 2 * (divEven num den * den) + den := by
  have exact := Nat.div_add_mod' num den
  have rest := Nat.mod_lt num hd
  rcases divEven_cases num den with ⟨eq, half⟩ | ⟨eq, half⟩
  · rw [eq]
    omega
  · rw [eq, Nat.add_one_mul (num / den)]
    omega

theorem divEven_lt_of_lt {num den q : Nat} (hd : 0 < den) (h : 2 * num + den < 2 * (q * den)) :
    divEven num den < q := by
  have near := divEven_mul_le num hd
  exact Nat.lt_of_mul_lt_mul_right (a := den) (by omega)

theorem roundUnits_mul (num den : Nat) :
    roundUnits num den * den =
      divEven num (den * gap (num / den)) * (den * gap (num / den)) := by
  rw [roundUnits, Nat.mul_assoc, Nat.mul_comm (gap (num / den)) den]

/-- A rounded quotient is at most half a gap too large. -/
theorem roundUnits_mul_le (num : Nat) {den : Nat} (hd : 0 < den) :
    2 * (roundUnits num den * den) ≤ 2 * num + den * gap (num / den) := by
  rw [roundUnits_mul]
  exact divEven_mul_le num (Nat.mul_pos hd (gap_pos _))

theorem le_roundUnits_mul (num : Nat) {den : Nat} (hd : 0 < den) :
    2 * num ≤ 2 * (roundUnits num den * den) + den * gap (num / den) := by
  rw [roundUnits_mul]
  exact le_divEven_mul num (Nat.mul_pos hd (gap_pos _))

theorem gap_le_gap {a b : Nat} (h : a ≤ b) : gap a ≤ gap b :=
  Nat.le_of_dvd (gap_pos b) (gap_dvd_gap h)

theorem roundUnits_mul_mul (num : Nat) {den c : Nat} (hd : 0 < den) (hc : 0 < c) :
    roundUnits (num * c) (den * c) = roundUnits num den := by
  have cross : num * c * den = num * (den * c) := by rw [Nat.mul_assoc, Nat.mul_comm c]
  exact Nat.le_antisymm (roundUnits_mono (Nat.mul_pos hd hc) hd (Nat.le_of_eq cross))
    (roundUnits_mono hd (Nat.mul_pos hd hc) (Nat.le_of_eq cross.symm))

theorem ofUnits_mul_mul (negative : Bool) (num : Nat) {den c : Nat} (hd : 0 < den) (hc : 0 < c) :
    ofUnits negative (num * c) (den * c) = ofUnits negative num den := by
  rw [ofUnits, ofUnits]
  simp only [roundUnits_mul_mul num hd hc]

theorem oneUnits_eq_large_pow : ∃ k, 53 ≤ k ∧ oneUnits = Nat.pow 2 k := by
  unfold oneUnits
  exact ⟨1074, by decide, Eq.refl _⟩

theorem pow_eq_mul_gap {k : Nat} (h : 52 ≤ k) :
    Nat.pow 2 k = Nat.pow 2 52 * gap (Nat.pow 2 k) := by
  simp only [gap, Nat.pow_eq, Nat.log2_two_pow, ← Nat.pow_add]
  rw [Nat.add_sub_cancel' h]

theorem oneUnits_eq_mul_gap : oneUnits = Nat.pow 2 52 * gap oneUnits := by
  obtain ⟨k, large, one⟩ := oneUnits_eq_large_pow
  rw [one]
  exact pow_eq_mul_gap (Nat.le_of_succ_le large)

/-- Quotients up to one with small denominators are not rounded to the same number. -/
theorem roundUnits_lt_roundUnits {p q m n : Nat} (hq : 0 < q) (hn : 0 < n) (hp : p ≤ q)
    (hm : m ≤ n) (few : q * n < Nat.pow 2 52) (h : p * n < m * q) :
    roundUnits (p * oneUnits) q < roundUnits (m * oneUnits) n := by
  have narrow {a b : Nat} (hab : a ≤ b) (hb : 0 < b) : b * gap (a * oneUnits / b) ≤ b * gap oneUnits := by
    refine Nat.mul_le_mul_left b (gap_le_gap ?_)
    exact Nat.div_le_of_le_mul (Nat.mul_le_mul_right _ hab)
  have upper := Nat.le_trans (roundUnits_mul_le (p * oneUnits) hq)
    (Nat.add_le_add_left (narrow hp hq) _)
  have lower := Nat.le_trans (le_roundUnits_mul (m * oneUnits) hn)
    (Nat.add_le_add_left (narrow hm hn) _)
  -- Rounded to one number, both quotients would be nearer to each other than their denominators allow.
  apply Nat.lt_of_not_le
  intro crossed
  have scaledUpper := Nat.mul_le_mul_right n upper
  have scaledLower := Nat.mul_le_mul_right q lower
  have scaledCrossed := Nat.mul_le_mul_right (2 * (q * n)) crossed
  have apart : oneUnits * (p * n + 1) ≤ oneUnits * (m * q) := Nat.mul_le_mul_left _ h
  have fill : oneUnits ≤ q * n * gap oneUnits := by
    linarith
  have wide := Nat.mul_lt_mul_of_pos_right few (gap_pos oneUnits)
  rw [← oneUnits_eq_mul_gap] at wide
  omega

theorem magnitude_eq_roundUnits {num den m : Nat} (h : roundUnits num den ≤ m)
    (hm : m < overflowUnits) : magnitude num den = roundUnits num den :=
  Nat.min_eq_left (Nat.le_of_lt (Nat.lt_of_le_of_lt h hm))

theorem oneUnits_lt_overflowUnits : oneUnits < overflowUnits := by
  have whole := whole_lt_overflowUnits (n := 1) (by decide)
  rwa [Nat.one_mul] at whole

theorem magnitude_part {p q : Nat} (hq : 0 < q) (h : p ≤ q) :
    magnitude (p * oneUnits) q = roundUnits (p * oneUnits) q := by
  refine magnitude_eq_roundUnits (roundUnits_le hq gap_dvd_oneUnits ?_) oneUnits_lt_overflowUnits
  rw [Nat.mul_comm oneUnits]
  exact Nat.mul_le_mul_right _ h

/-- Quotients up to one with small denominators are rounded in exactly their order. -/
theorem ofUnits_le_ofUnits_iff {p q m n : Nat} (hq : 0 < q) (hn : 0 < n) (hp : p ≤ q) (hm : m ≤ n)
    (few : q * n < Nat.pow 2 52) :
    le (ofUnits false (p * oneUnits) q) (ofUnits false (m * oneUnits) n) = true ↔
      p * n ≤ m * q := by
  constructor
  · intro ordered
    apply Nat.le_of_not_lt
    intro above
    have apart := roundUnits_lt_roundUnits hn hq hm hp (Nat.mul_comm q n ▸ few) above
    obtain ⟨a, b, ha, hb, order⟩ := le_iff.1 ordered
    rw [rank_ofUnits, magnitude_part hq hp] at ha
    rw [rank_ofUnits, magnitude_part hn hm] at hb
    cases ha
    cases hb
    exact Nat.not_lt_of_le (Int.ofNat_le.1 order) apart
  · intro ordered
    refine ofUnits_le_ofUnits hq hn ?_
    rw [Nat.mul_right_comm p, Nat.mul_right_comm m]
    exact Nat.mul_le_mul_right _ ordered

/-- A number below a power of two is short of it by at least half the gap of that power. -/
theorem add_le_pow {w e : Nat} (hw : gap w ∣ w) (h : w < Nat.pow 2 (e + 53)) :
    w + Nat.pow 2 e ≤ Nat.pow 2 (e + 53) := by
  simp only [Nat.pow_eq] at h ⊢
  rcases Nat.lt_or_ge w (2 ^ (e + 52)) with low | high
  · have half : 2 ^ e ≤ 2 ^ (e + 52) := Nat.pow_le_pow_right Nat.two_pos (by omega)
    have double : 2 ^ (e + 53) = 2 ^ (e + 52) * 2 := Nat.pow_succ 2 (e + 52)
    omega
  · -- In the upper half both are multiples of the gap there.
    have top : gap w = 2 ^ e := by
      have log : w.log2 = e + 52 := by
        have nonzero : w ≠ 0 := Nat.ne_of_gt (Nat.lt_of_lt_of_le (Nat.two_pow_pos _) high)
        exact (Nat.log2_eq_iff nonzero).2 ⟨high, h⟩
      rw [gap, log, Nat.pow_eq, Nat.add_sub_cancel]
    rw [top] at hw
    have room : 2 ^ e ∣ 2 ^ (e + 53) - w :=
      Nat.dvd_sub (Nat.pow_dvd_pow 2 (by omega)) hw
    have step := Nat.le_of_dvd (Nat.sub_pos_of_lt h) room
    omega

theorem lt_divEven_of_lt_roundUnits {d : Nat} (h : d < roundUnits d 1) :
    Nat.pow 2 52 < divEven d (gap d) ∧ roundUnits d 1 = divEven d (gap d) * gap d := by
  have units : roundUnits d 1 = divEven d (gap d) * gap d := by
    rw [roundUnits, Nat.div_one, Nat.one_mul]
  refine ⟨?_, units⟩
  rw [units] at h
  rcases Nat.lt_or_ge d.log2 52 with small | large
  · -- Below `2 ^ 52` units nothing is rounded.
    have fine : gap d = 1 := by rw [gap, Nat.sub_eq_zero_of_le (Nat.le_of_lt small), Nat.pow_eq, Nat.pow_zero]
    have exact : divEven d 1 ≤ d := divEven_le_of_le Nat.one_pos (Nat.le_of_eq (Nat.mul_one d).symm)
    rw [fine] at h
    omega
  · have nonzero : d ≠ 0 := by
      rintro rfl
      rw [Nat.log2_zero] at large
      omega
    have leading : Nat.pow 2 52 * gap d ≤ d := by
      rw [gap, Nat.pow_eq, Nat.pow_eq, ← Nat.pow_add, Nat.add_sub_cancel' large]
      exact Nat.log2_self_le nonzero
    exact Nat.lt_of_mul_lt_mul_right (Nat.lt_of_le_of_lt leading h)

theorem share_add_lt {w q : Nat} (hw : gap w ∣ w) (proper : w < oneUnits)
    (large : Nat.pow 2 52 < q) : 2 * (w * q) + oneUnits < 2 * (q * oneUnits) := by
  obtain ⟨k, hk, one⟩ := oneUnits_eq_large_pow
  obtain ⟨e, rfl⟩ := Nat.exists_eq_add_of_le' hk
  rw [one] at proper ⊢
  have step := Nat.mul_le_mul_left (2 * q) (add_le_pow hw proper)
  have whole : Nat.pow 2 (e + 53) = 2 * (Nat.pow 2 52 * Nat.pow 2 e) := by
    simp only [Nat.pow_eq]
    rw [← Nat.pow_add, Nat.mul_comm, ← Nat.pow_succ, Nat.add_comm 52]
  have half : Nat.pow 2 52 * Nat.pow 2 e < q * Nat.pow 2 e :=
    Nat.mul_lt_mul_of_pos_right large (Nat.two_pow_pos e)
  generalize Nat.pow 2 (e + 53) = top at *
  linarith

/-- A proper share of a rounded whole number of units does not exceed the number before rounding. -/
theorem roundUnits_share_le {w d : Nat} (hw : gap w ∣ w) (proper : w < oneUnits) :
    roundUnits (w * roundUnits d 1) oneUnits ≤ d := by
  have onePos := oneUnits_pos
  rcases Nat.lt_or_ge d (roundUnits d 1) with up | down
  · obtain ⟨large, units⟩ := lt_divEven_of_lt_roundUnits up
    have gapPos := gap_pos d
    -- What the share leaves of the rounded number is more than half a gap.
    have short : 2 * (w * roundUnits d 1) + oneUnits * gap d <
        2 * (divEven d (gap d) * (oneUnits * gap d)) := by
      have scaled := Nat.mul_lt_mul_of_pos_right (share_add_lt hw proper large) gapPos
      rw [units]
      linarith
    have below : w * roundUnits d 1 < d * oneUnits := by
      have near := Nat.mul_le_mul_right oneUnits (roundUnits_mul_le d Nat.one_pos)
      rw [Nat.div_one, units] at near
      rw [units] at short ⊢
      linarith
    rcases gap_eq_or_lt_floorPower (Nat.div_le_of_le_mul (Nat.le_of_lt (Nat.mul_comm d _ ▸ below)))
      with same | ⟨lower, nonzero⟩
    · have steps : divEven (w * roundUnits d 1) (oneUnits * gap d) < divEven d (gap d) :=
        divEven_lt_of_lt (Nat.mul_pos onePos gapPos) short
      have most := divEven_le d (gap d)
      rw [roundUnits, same]
      refine Nat.le_trans (Nat.mul_le_mul_right _ ?_) (Nat.div_mul_le_self d (gap d))
      omega
    · refine Nat.le_trans (roundUnits_le onePos (gap_floorPower_dvd d) ?_) (floorPower_le nonzero)
      exact Nat.le_of_lt ((Nat.div_lt_iff_lt_mul onePos).1 lower)
  · refine Nat.le_trans (roundUnits_le onePos (gap_dvd_roundUnits d 1) ?_) down
    rw [Nat.mul_comm]
    exact Nat.mul_le_mul_left _ (Nat.le_of_lt proper)

end LinkTrials.Binary64
