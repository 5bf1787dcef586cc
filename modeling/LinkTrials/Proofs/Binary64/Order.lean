import LinkTrials.Proofs.Binary64.Rounding

/-!
The order of numbers, and what rounding does to it.

A number has its place on the line of units, and comparison compares places. A rounded magnitude has
the place of its rounding, cut off at the first power of two that no number reaches. Whole numbers
up to `2 ^ 53` are not rounded.
-/
namespace LinkTrials.Binary64

/-- One is a power of two; which one does not matter. -/
theorem oneUnits_eq_pow : ∃ k, oneUnits = Nat.pow 2 k := by
  unfold oneUnits
  exact ⟨_, rfl⟩

theorem oneUnits_pos : 0 < oneUnits := by
  obtain ⟨k, hk⟩ := oneUnits_eq_pow
  rw [hk]
  exact Nat.two_pow_pos k

theorem ofNat_literal (n : Nat) : (OfNat.ofNat n : Binary64) = ofNat n := rfl

theorem rank_of_ne_nan {x : Binary64} (h : x ≠ nan) : ∃ r, x.rank = some r := by
  cases x with
  | nan => exact absurd rfl h
  | infinite s => exact ⟨_, rfl⟩
  | finite s u fits => exact ⟨_, rfl⟩

theorem lt_of_rank {x y : Binary64} {a b : Int} (hx : x.rank = some a) (hy : y.rank = some b) :
    lt x y = decide (a < b) := by
  rw [lt, hx, hy]

theorem nan_lt (x : Binary64) : lt nan x = false := rfl

theorem lt_nan (x : Binary64) : lt x nan = false := by
  cases x <;> rfl

theorem le_iff {x y : Binary64} :
    le x y = true ↔ ∃ a b, x.rank = some a ∧ y.rank = some b ∧ a ≤ b := by
  rw [le]
  cases hx : x.rank with
  | none => simp
  | some a =>
      cases hy : y.rank with
      | none => simp
      | some b => simp

theorem le_trans {x y z : Binary64} (hxy : le x y = true) (hyz : le y z = true) :
    le x z = true := by
  obtain ⟨a, b, ha, hb, hab⟩ := le_iff.1 hxy
  obtain ⟨b', c, hb', hc, hbc⟩ := le_iff.1 hyz
  rw [hb] at hb'
  cases hb'
  exact le_iff.2 ⟨a, c, ha, hc, Int.le_trans hab hbc⟩

/-- The units of a rounded quotient, or those at which the finite numbers end. -/
def magnitude (num den : Nat) : Nat := min (roundUnits num den) overflowUnits

theorem rank_ofUnits (negative : Bool) (num den : Nat) :
    (ofUnits negative num den).rank =
      some (if negative then -(magnitude num den : Int) else magnitude num den) := by
  rw [ofUnits, magnitude]
  split
  · next h => rw [rank, Nat.min_eq_left (Nat.le_of_lt h)]
  · next h => rw [rank, Nat.min_eq_right (Nat.le_of_not_lt h)]

theorem magnitude_mono {num den num' den' : Nat} (hd : 0 < den) (hd' : 0 < den')
    (h : num * den' ≤ num' * den) : magnitude num den ≤ magnitude num' den' := by
  have := roundUnits_mono hd hd' h
  rw [magnitude, magnitude]
  omega

theorem magnitude_le {num den m : Nat} (hd : 0 < den) (hm : gap m ∣ m) (h : num ≤ m * den) :
    magnitude num den ≤ m :=
  Nat.le_trans (Nat.min_le_left _ _) (roundUnits_le hd hm h)

/-- Quotients that are not negative are rounded in their order. -/
theorem ofUnits_le_ofUnits {num den num' den' : Nat} (hd : 0 < den) (hd' : 0 < den')
    (h : num * den' ≤ num' * den) : le (ofUnits false num den) (ofUnits false num' den') = true :=
  le_iff.2 ⟨_, _, rank_ofUnits .., rank_ofUnits .., Int.ofNat_le.2 (magnitude_mono hd hd' h)⟩

theorem gap_dvd_whole {n : Nat} (h : n ≤ Nat.pow 2 53) : gap (n * oneUnits) ∣ n * oneUnits := by
  obtain ⟨k, hk⟩ := oneUnits_eq_pow
  rw [hk]
  exact gap_dvd_scaled h

theorem gap_dvd_oneUnits : gap oneUnits ∣ oneUnits := by
  have whole := gap_dvd_whole (n := 1) (by decide)
  rwa [Nat.one_mul] at whole

theorem whole_lt_overflowUnits {n : Nat} (h : n ≤ Nat.pow 2 53) :
    n * oneUnits < overflowUnits := by
  have scaled : n * oneUnits ≤ Nat.pow 2 53 * oneUnits := Nat.mul_le_mul_right _ h
  have bound : Nat.pow 2 53 * oneUnits < overflowUnits := by decide +kernel
  exact Nat.lt_of_le_of_lt scaled bound

theorem ofNat_eq_finite {n : Nat} (h : n ≤ Nat.pow 2 53) :
    ∃ fits, ofNat n = .finite false (n * oneUnits) fits := by
  have exact : roundUnits (n * oneUnits * 1) 1 = n * oneUnits :=
    roundUnits_exact Nat.one_pos (gap_dvd_whole h)
  rw [Nat.mul_one] at exact
  refine ⟨⟨whole_lt_overflowUnits h, gap_dvd_whole h⟩, ?_⟩
  rw [ofNat, ofUnits]
  simp only [exact, whole_lt_overflowUnits h, dite_true]

theorem rank_ofNat {n : Nat} (h : n ≤ Nat.pow 2 53) :
    (ofNat n).rank = some ((n * oneUnits : Nat) : Int) := by
  obtain ⟨fits, eq⟩ := ofNat_eq_finite h
  rw [eq]
  rfl

theorem rank_ofNat_zero : (ofNat 0).rank = some ((0 : Nat) : Int) := by
  have zero := rank_ofNat (Nat.zero_le (Nat.pow 2 53))
  rwa [Nat.zero_mul] at zero

theorem finite_add_finite (s t : Bool) {a b : Nat} (ha : Fits a) (hb : Fits b) :
    Binary64.finite s a ha + .finite t b hb = addUnits s t a b := rfl

theorem finite_sub_finite (s t : Bool) {a b : Nat} (ha : Fits a) (hb : Fits b) :
    Binary64.finite s a ha - .finite t b hb = addUnits s (!t) a b := rfl

theorem finite_mul_finite (s t : Bool) {a b : Nat} (ha : Fits a) (hb : Fits b) :
    Binary64.finite s a ha * .finite t b hb = ofUnits (s != t) (a * b) oneUnits := by
  change mul _ _ = _
  rw [mul]

theorem finite_div_finite (s t : Bool) {a b : Nat} (ha : Fits a) (hb : Fits b) (h : b ≠ 0) :
    Binary64.finite s a ha / .finite t b hb = ofUnits (s != t) (a * oneUnits) b := by
  change div _ _ = _
  rw [div, if_neg h]

/-- Subtraction of whole numbers up to `2 ^ 53` is not rounded. -/
theorem ofNat_sub_ofNat {m n : Nat} (hm : m ≤ Nat.pow 2 53) (h : n ≤ m) :
    ofNat m - ofNat n = ofNat (m - n) := by
  obtain ⟨fitsM, eqM⟩ := ofNat_eq_finite hm
  obtain ⟨fitsN, eqN⟩ := ofNat_eq_finite (Nat.le_trans h hm)
  rw [eqM, eqN, finite_sub_finite, addUnits, Bool.not_false, if_neg Bool.false_ne_true]
  rcases Nat.lt_or_eq_of_le h with hlt | rfl
  · rw [if_pos (Nat.mul_lt_mul_of_pos_right hlt oneUnits_pos), ← Nat.sub_mul]
    rfl
  · rw [if_neg (Nat.lt_irrefl _), if_neg (Nat.lt_irrefl _), Nat.sub_self, ofNat, Nat.zero_mul]

/-- A number from zero up to `n` units. -/
def UpTo (n : Nat) (x : Binary64) : Prop := ∃ a : Nat, x.rank = some (a : Int) ∧ a ≤ n

theorem upTo_ofNat {n : Nat} (h : n ≤ Nat.pow 2 53) : UpTo (n * oneUnits) (ofNat n) :=
  ⟨n * oneUnits, rank_ofNat h, Nat.le_refl _⟩

/-- Below the end of the finite numbers such a number is finite, and only zero carries a sign. -/
theorem UpTo.finite {n : Nat} {x : Binary64} (h : UpTo n x) (hn : n < overflowUnits) :
    ∃ s u fits, x = .finite s u fits ∧ u ≤ n ∧ (s = true → u = 0) := by
  obtain ⟨a, hrank, ha⟩ := h
  cases x with
  | nan => cases hrank
  | infinite s =>
      have hrank := Option.some.inj hrank
      cases s <;> simp only [Bool.false_eq_true, ite_false, ite_true] at hrank <;> omega
  | finite s u fits =>
      have hrank := Option.some.inj hrank
      refine ⟨s, u, fits, rfl, ?_⟩
      cases s with
      | false =>
          simp only [Bool.false_eq_true, ite_false] at hrank
          exact ⟨by omega, fun h => nomatch h⟩
      | true =>
          simp only [ite_true] at hrank
          exact ⟨by omega, fun _ => by omega⟩

theorem upTo_ofUnits {s : Bool} {num den n : Nat} (hd : 0 < den) (hn : gap n ∣ n)
    (h : num ≤ n * den) (hs : s = true → num = 0) : UpTo n (ofUnits s num den) := by
  refine ⟨magnitude num den, ?_, magnitude_le hd hn h⟩
  rw [rank_ofUnits]
  cases s with
  | false => rfl
  | true =>
      have none : num ≤ 0 * den := by rw [hs rfl]; exact Nat.zero_le _
      have zero : magnitude num den = 0 :=
        Nat.le_zero.1 (magnitude_le hd (Nat.dvd_zero _) none)
      simp [zero]

theorem isFinite_ofUnits {s : Bool} {num den : Nat} :
    (ofUnits s num den).isFinite = true ↔ roundUnits num den < overflowUnits := by
  rw [ofUnits]
  split
  · next fits => exact ⟨fun _ => fits, fun _ => rfl⟩
  · next beyond => exact iff_of_false Bool.false_ne_true beyond

theorem ofUnits_eq_finite {s : Bool} {num den : Nat} (h : (ofUnits s num den).isFinite = true) :
    ∃ fits, ofUnits s num den = .finite s (roundUnits num den) fits := by
  have bound := isFinite_ofUnits.1 h
  exact ⟨fits_roundUnits bound, by rw [ofUnits, dif_pos bound]⟩

/-- Division by a whole number takes the multiples of a magnitude back to that magnitude. -/
theorem UpTo.div {n k : Nat} {x : Binary64} (h : UpTo (n * k) x) (hn : gap n ∣ n)
    (hx : n * k < overflowUnits) (hk : 0 < k) (hk' : k ≤ Nat.pow 2 53) :
    UpTo n (x / ofNat k) := by
  obtain ⟨s, u, fits, rfl, hu, hs⟩ := h.finite hx
  obtain ⟨fitsK, eqK⟩ := ofNat_eq_finite hk'
  have hpos : 0 < k * oneUnits := Nat.mul_pos hk oneUnits_pos
  rw [eqK, finite_div_finite s false fits fitsK (Nat.ne_of_gt hpos)]
  refine upTo_ofUnits hpos hn ?_ ?_
  · rw [← Nat.mul_assoc]
    exact Nat.mul_le_mul_right _ hu
  · intro negative
    rw [hs (by simpa using negative), Nat.zero_mul]

/-- A share of a whole number is at most that number. -/
theorem UpTo.mul {k : Nat} {x : Binary64} (h : UpTo oneUnits x) (hk : k ≤ Nat.pow 2 53) :
    UpTo (k * oneUnits) (x * ofNat k) := by
  have one : 1 * oneUnits < overflowUnits := whole_lt_overflowUnits (by decide)
  obtain ⟨s, u, fits, rfl, hu, hs⟩ := h.finite (by rwa [Nat.one_mul] at one)
  obtain ⟨fitsK, eqK⟩ := ofNat_eq_finite hk
  rw [eqK, finite_mul_finite]
  refine upTo_ofUnits oneUnits_pos (gap_dvd_whole hk) ?_ ?_
  · rw [Nat.mul_comm]
    exact Nat.mul_le_mul_left _ hu
  · intro negative
    rw [hs (by simpa using negative), Nat.zero_mul]

end LinkTrials.Binary64
