import LinkTrials.Proofs.Binary64.Order

/-!
Arithmetic by places.

The place of a sum, a difference or a product of finite numbers is the exact one, rounded; what else
there is to the operands, the sign of a zero, has no influence on it. So operations on numbers at the
same places give numbers at the same place.
-/
namespace LinkTrials.Binary64

/-- Equal as numbers are compared: at one place. A zero is equal to the zero of the other sign, and
`nan` to nothing. -/
def Same (x y : Binary64) : Prop := ∃ a, x.rank = some a ∧ y.rank = some a

theorem Same.refl {x : Binary64} (h : x ≠ nan) : Same x x := by
  cases x with
  | nan => exact absurd rfl h
  | infinite s => exact ⟨_, rfl, rfl⟩
  | finite s n fits => exact ⟨_, rfl, rfl⟩

theorem Same.le_eq {x y : Binary64} (h : Same x y) (goal : Binary64) : le goal x = le goal y := by
  obtain ⟨a, hx, hy⟩ := h
  rw [le, le, hx, hy]

/-- A magnitude with its sign. -/
def signed (negative : Bool) (n : Nat) : Int := if negative then -n else n

@[simp] theorem signed_false (n : Nat) : signed false n = n := rfl

@[simp] theorem signed_true (n : Nat) : signed true n = -n := rfl

theorem rank_finite (s : Bool) {n : Nat} (fits : Fits n) :
    (finite s n fits).rank = some (signed s n) := rfl

/-- The place of an exact quotient after rounding. -/
def rounded (num : Int) (den : Nat) : Int :=
  if num < 0 then -(magnitude num.natAbs den : Int) else magnitude num.natAbs den

theorem natAbs_rounded (num : Int) (den : Nat) :
    (rounded num den).natAbs = magnitude num.natAbs den := by
  rw [rounded]
  split <;> simp

theorem magnitude_zero {den : Nat} (hd : 0 < den) : magnitude 0 den = 0 :=
  Nat.le_zero.1 (magnitude_le hd (Nat.dvd_zero _) (Nat.zero_le _))

theorem rounded_natCast (n den : Nat) : rounded n den = magnitude n den := by
  rw [rounded, if_neg (by omega), Int.natAbs_natCast]

theorem rounded_neg_natCast (n : Nat) {den : Nat} (hd : 0 < den) :
    rounded (-n) den = -(magnitude n den : Int) := by
  rw [rounded, Int.natAbs_neg, Int.natAbs_natCast]
  split
  · rfl
  · next natural =>
    have zero : n = 0 := by omega
    rw [zero, magnitude_zero hd]
    rfl

theorem rank_ofUnits_eq_rounded (s : Bool) (n : Nat) {den : Nat} (hd : 0 < den) :
    (ofUnits s n den).rank = some (rounded (signed s n) den) := by
  rw [rank_ofUnits]
  cases s with
  | false =>
      rw [signed_false, rounded_natCast]
      rfl
  | true =>
      rw [signed_true, rounded_neg_natCast n hd]
      rfl

theorem rank_addUnits (s t : Bool) (a b : Nat) :
    (addUnits s t a b).rank = some (rounded (signed s a + signed t b) 1) := by
  have place (r : Bool) (n : Nat) (h : signed r n = signed s a + signed t b) :
      (ofUnits r n 1).rank = some (rounded (signed s a + signed t b) 1) := by
    rw [rank_ofUnits_eq_rounded r n Nat.one_pos, h]
  rw [addUnits]
  split
  · next same =>
    subst same
    apply place
    cases s <;> simp only [signed_false, signed_true] <;> omega
  · next opposite =>
    have other : t = !s := by cases s <;> cases t <;> simp_all
    subst other
    -- The larger magnitude gives the sign; of equal ones nothing is left.
    split
    · apply place
      cases s <;> simp only [signed_false, signed_true, Bool.not_false, Bool.not_true] <;> omega
    · split
      · apply place
        cases s <;> simp only [signed_false, signed_true, Bool.not_false, Bool.not_true] <;> omega
      · apply place
        cases s <;> simp only [signed_false, signed_true, Bool.not_false, Bool.not_true] <;> omega

theorem signed_mul_signed (s t : Bool) (a b : Nat) :
    signed s a * signed t b = signed (s != t) (a * b) := by
  have product : ((a * b : Nat) : Int) = a * b := Int.natCast_mul a b
  cases s with
  | false =>
      cases t with
      | false => exact product.symm
      | true =>
          change (a : Int) * -b = -((a * b : Nat) : Int)
          rw [product, Int.mul_neg]
  | true =>
      cases t with
      | false =>
          change -(a : Int) * b = -((a * b : Nat) : Int)
          rw [product, Int.neg_mul]
      | true =>
          change -(a : Int) * -b = ((a * b : Nat) : Int)
          rw [product, Int.neg_mul_neg]

section Places

variable {x y : Binary64} {a b : Int}

theorem rank_add (hx : x.isFinite = true) (hy : y.isFinite = true) (ha : x.rank = some a)
    (hb : y.rank = some b) : (x + y).rank = some (rounded (a + b) 1) := by
  cases x with
  | nan | infinite s => cases hx
  | finite s m fits =>
      cases y with
      | nan | infinite t => cases hy
      | finite t n fits' =>
          cases ha
          cases hb
          exact rank_addUnits s t m n

theorem rank_sub (hx : x.isFinite = true) (hy : y.isFinite = true) (ha : x.rank = some a)
    (hb : y.rank = some b) : (x - y).rank = some (rounded (a - b) 1) := by
  have negated : (neg y).isFinite = true ∧ (neg y).rank = some (-b) := by
    cases y with
    | nan | infinite t => cases hy
    | finite t n fits =>
        cases hb
        refine ⟨rfl, ?_⟩
        cases t <;> simp [neg, rank]
  exact rank_add hx negated.1 ha negated.2

theorem rank_mul (hx : x.isFinite = true) (hy : y.isFinite = true) (ha : x.rank = some a)
    (hb : y.rank = some b) : (x * y).rank = some (rounded (a * b) oneUnits) := by
  cases x with
  | nan | infinite s => cases hx
  | finite s m fits =>
      cases y with
      | nan | infinite t => cases hy
      | finite t n fits' =>
          cases ha
          cases hb
          rw [finite_mul_finite, rank_ofUnits_eq_rounded _ _ oneUnits_pos, ← signed_mul_signed]
          rfl

end Places

section Same

variable {x x' y y' : Binary64}

theorem isFinite_of_rank {a : Int} (h : x.rank = some a) (ha : a.natAbs < overflowUnits) :
    x.isFinite = true := by
  cases x with
  | nan => cases h
  | infinite s =>
      cases h
      cases s <;> simp only [Bool.false_eq_true, ite_false, ite_true, Int.natAbs_neg,
        Int.natAbs_natCast, Nat.lt_irrefl] at ha
  | finite s n fits => rfl

theorem natAbs_rank_lt {a : Int} (h : x.rank = some a) (hx : x.isFinite = true) :
    a.natAbs < overflowUnits := by
  cases x with
  | nan | infinite s => cases hx
  | finite s n fits =>
      cases h
      cases s <;> simpa using fits.1

theorem Same.isFinite (h : Same x y) (hx : x.isFinite = true) : y.isFinite = true := by
  obtain ⟨a, ha, hb⟩ := h
  exact isFinite_of_rank hb (natAbs_rank_lt ha hx)

theorem Same.sub (hx : Same x x') (hy : Same y y') (fx : x.isFinite = true)
    (fy : y.isFinite = true) : Same (x - y) (x' - y') := by
  have fx' := hx.isFinite fx
  have fy' := hy.isFinite fy
  obtain ⟨a, ha, ha'⟩ := hx
  obtain ⟨b, hb, hb'⟩ := hy
  exact ⟨_, rank_sub fx fy ha hb, rank_sub fx' fy' ha' hb'⟩

theorem Same.mul (hx : Same x x') (hy : Same y y') (fx : x.isFinite = true)
    (fy : y.isFinite = true) : Same (x * y) (x' * y') := by
  have fx' := hx.isFinite fx
  have fy' := hy.isFinite fy
  obtain ⟨a, ha, ha'⟩ := hx
  obtain ⟨b, hb, hb'⟩ := hy
  exact ⟨_, rank_mul fx fy ha hb, rank_mul fx' fy' ha' hb'⟩

theorem Same.eq_of_not_finite (h : Same x y) (hx : x.isFinite = false) : x = y := by
  obtain ⟨a, ha, hb⟩ := h
  cases x with
  | nan => cases ha
  | finite s n fits => cases hx
  | infinite s =>
      cases ha
      cases y with
      | nan => cases hb
      | infinite t =>
          have pos : 0 < overflowUnits :=
            Nat.zero_lt_of_lt (whole_lt_overflowUnits (Nat.zero_le _))
          have places := Option.some.inj hb
          cases s <;> cases t <;>
            simp only [Bool.false_eq_true, ite_false, ite_true] at places <;> first | rfl | omega
      | finite t n fits =>
          have bound := natAbs_rank_lt hb rfl
          cases s <;> simp only [Bool.false_eq_true, ite_false, ite_true, Int.natAbs_neg,
            Int.natAbs_natCast, Nat.lt_irrefl] at bound

theorem Same.add (hx : Same x x') (hy : Same y y') (fx : x.isFinite = true) :
    Same (x + y) (x' + y') := by
  have fx' := hx.isFinite fx
  cases fy : y.isFinite with
  | true =>
      have fy' := hy.isFinite fy
      obtain ⟨a, ha, ha'⟩ := hx
      obtain ⟨b, hb, hb'⟩ := hy
      exact ⟨_, rank_add fx fy ha hb, rank_add fx' fy' ha' hb'⟩
  | false =>
      -- An infinity swallows what is added to it.
      obtain rfl := hy.eq_of_not_finite fy
      cases x with
      | nan | infinite s => cases fx
      | finite s m fits =>
          cases x' with
          | nan | infinite s' => cases fx'
          | finite s' m' fits' =>
              cases y with
              | nan => exact absurd hy (by rintro ⟨a, ha, -⟩; cases ha)
              | finite t n fits => cases fy
              | infinite t => exact ⟨_, rfl, rfl⟩

end Same

section Amounts

variable {x y : Binary64} {m n k : Nat}

theorem gap_dvd_power (e : Nat) : gap (Nat.pow 2 e * oneUnits) ∣ Nat.pow 2 e * oneUnits := by
  obtain ⟨k, hk⟩ := oneUnits_eq_pow
  rw [hk, Nat.pow_eq, Nat.pow_eq, ← Nat.pow_add, ← Nat.one_mul (2 ^ (e + k))]
  exact gap_dvd_scaled (by decide)

theorem power_lt_overflowUnits {e : Nat} (h : e ≤ 128) : Nat.pow 2 e * oneUnits < overflowUnits := by
  have scaled : Nat.pow 2 e * oneUnits ≤ Nat.pow 2 128 * oneUnits :=
    Nat.mul_le_mul_right _ (Nat.pow_le_pow_right Nat.two_pos h)
  have bound : Nat.pow 2 128 * oneUnits < overflowUnits := by decide +kernel
  exact Nat.lt_of_le_of_lt scaled bound

/-- Whole numbers beyond `2 ^ 53` are rounded, but not beyond a power of two. -/
theorem upTo_ofNat_power {e : Nat} (h : n ≤ Nat.pow 2 e) :
    UpTo (Nat.pow 2 e * oneUnits) (ofNat n) := by
  refine upTo_ofUnits Nat.one_pos (gap_dvd_power e) ?_ (fun negative => nomatch negative)
  rw [Nat.mul_one]
  exact Nat.mul_le_mul_right _ h

theorem UpTo.add (hx : UpTo m x) (hy : UpTo n y) (hk : gap k ∣ k) (h : m + n ≤ k)
    (hlt : k < overflowUnits) : UpTo k (x + y) := by
  obtain ⟨s, u, fits, rfl, hu, -⟩ := hx.finite (by omega)
  obtain ⟨t, v, fits', rfl, hv, -⟩ := hy.finite (by omega)
  obtain ⟨a, ha, hma⟩ := hx
  obtain ⟨b, hb, hnb⟩ := hy
  refine ⟨magnitude (a + b) 1, ?_, magnitude_le Nat.one_pos hk (by omega)⟩
  rw [rank_add rfl rfl ha hb, ← Int.natCast_add, rounded_natCast]

/-- A finite number that is not below zero. -/
def IsAmount (x : Binary64) : Prop := ∃ n < overflowUnits, UpTo n x

theorem UpTo.isAmount (h : UpTo n x) (hn : n < overflowUnits) : IsAmount x := ⟨n, hn, h⟩

theorem IsAmount.isFinite (h : IsAmount x) : x.isFinite = true := by
  obtain ⟨n, hn, range⟩ := h
  obtain ⟨s, u, fits, rfl, -, -⟩ := range.finite hn
  rfl

theorem ne_nan_of_isFinite (h : x.isFinite = true) : x ≠ nan := by
  rintro rfl
  cases h

theorem IsAmount.ne_nan (h : IsAmount x) : x ≠ nan := ne_nan_of_isFinite h.isFinite

theorem IsAmount.rank (h : IsAmount x) : ∃ u : Nat, x.rank = some (u : Int) ∧ Fits u := by
  obtain ⟨n, hn, range⟩ := h
  obtain ⟨s, u, fits, rfl, -, sign⟩ := range.finite hn
  refine ⟨u, ?_, fits⟩
  cases s with
  | false => rfl
  | true => rw [rank_finite, sign rfl]; rfl

theorem magnitude_le_fits {u : Nat} (fits : Fits u) (h : n ≤ u) : magnitude n 1 < overflowUnits :=
  Nat.lt_of_le_of_lt (magnitude_le Nat.one_pos fits.2 (by rwa [Nat.mul_one])) fits.1

/-- A difference is not farther from zero than the larger of the two. -/
theorem IsAmount.sub_isFinite (hx : IsAmount x) (hy : IsAmount y) : (x - y).isFinite = true := by
  obtain ⟨u, hu, fitsU⟩ := hx.rank
  obtain ⟨v, hv, fitsV⟩ := hy.rank
  refine isFinite_of_rank (rank_sub hx.isFinite hy.isFinite hu hv) ?_
  rw [natAbs_rounded]
  rcases Nat.le_total u v with h | h
  · exact magnitude_le_fits fitsV (by omega)
  · exact magnitude_le_fits fitsU (by omega)

end Amounts

section Magnitudes

variable {x y : Binary64} {u v : Nat}

theorem upTo_of_rank {n : Nat} (h : x.rank = some (u : Int)) (hu : u ≤ n) : UpTo n x := ⟨u, h, hu⟩

/-- A number at a place that is not negative; only zero may have a sign. -/
theorem eq_finite_of_rank (h : x.rank = some (u : Int)) (hu : u < overflowUnits) :
    ∃ s fits, x = .finite s u fits ∧ (s = true → u = 0) := by
  obtain ⟨s, v, fits, rfl, -, sign⟩ := (upTo_of_rank h (Nat.le_refl u)).finite hu
  have same : v = u := by
    rw [rank_finite] at h
    cases s with
    | false => exact Int.ofNat_inj.1 (Option.some.inj h)
    | true =>
        rw [sign rfl] at h ⊢
        exact Int.ofNat_inj.1 (Option.some.inj h)
  subst same
  exact ⟨s, fits, rfl, sign⟩

theorem fits_of_rank (h : x.rank = some (u : Int)) (hu : u < overflowUnits) : Fits u := by
  obtain ⟨_, fits, -, -⟩ := eq_finite_of_rank h hu
  exact fits

theorem rank_div (hx : x.rank = some (u : Int)) (hu : u < overflowUnits)
    (hy : y.rank = some (v : Int)) (hpos : 0 < v) (hv : v < overflowUnits) :
    (x / y).rank = some (magnitude (u * oneUnits) v : Int) := by
  obtain ⟨s, fits, rfl, sign⟩ := eq_finite_of_rank hx hu
  obtain ⟨t, fits', rfl, sign'⟩ := eq_finite_of_rank hy hv
  have positive : t = false := by
    cases t with
    | false => rfl
    | true => exact absurd (sign' rfl) (Nat.ne_of_gt hpos)
  subst positive
  rw [finite_div_finite s false fits fits' (Nat.ne_of_gt hpos), rank_ofUnits]
  cases s with
  | false => rfl
  | true =>
      rw [sign rfl, Nat.zero_mul, magnitude_zero hpos]
      rfl

end Magnitudes

end LinkTrials.Binary64
