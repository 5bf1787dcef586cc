import LinkTrials.Proofs.Binary64.Arithmetic
import LinkTrials.Proofs.Binary64.Nearest

/-!
Interpolation between two amounts, on the line of units.

A difference, a share of it and a sum are each rounded. What comes out lies between the two amounts
all the same, without any tolerance, and moves up with the share. From place to place of a sorted list
of amounts the interpolated value therefore never falls, neither between two ranks nor across one.
-/
namespace LinkTrials

open Binary64

/-- The units reached from `a` by the share `w` of the way up to `b`; a whole share is one. -/
def between (a b w : Nat) : Nat :=
  roundUnits (a + roundUnits (w * roundUnits (b - a) 1) oneUnits) 1

section Between

variable {a b w w' : Nat}

theorem le_between (ha : gap a ∣ a) (b w : Nat) : a ≤ between a b w := by
  refine le_roundUnits Nat.one_pos ha ?_
  rw [Nat.mul_one]
  exact Nat.le_add_right _ _

theorem between_le (hab : a ≤ b) (hb : gap b ∣ b) (hw : gap w ∣ w) (proper : w < oneUnits) :
    between a b w ≤ b := by
  have part : roundUnits (w * roundUnits (b - a) 1) oneUnits ≤ b - a := roundUnits_share_le hw proper
  refine roundUnits_le Nat.one_pos hb ?_
  omega

theorem between_mono (a b : Nat) (h : w ≤ w') : between a b w ≤ between a b w' := by
  have part : roundUnits (w * roundUnits (b - a) 1) oneUnits ≤
      roundUnits (w' * roundUnits (b - a) 1) oneUnits :=
    roundUnits_mono oneUnits_pos oneUnits_pos (Nat.mul_le_mul_right _ (Nat.mul_le_mul_right _ h))
  refine roundUnits_mono Nat.one_pos Nat.one_pos ?_
  omega

theorem rank_interpolated {below above weight : Binary64} (hbelow : below.rank = some (a : Int))
    (habove : above.rank = some (b : Int)) (hweight : weight.rank = some (w : Int)) (hab : a ≤ b)
    (fits : Fits b) (hw : gap w ∣ w) (proper : w < oneUnits) :
    (below + weight * (above - below)).rank = some (between a b w : Int) := by
  -- No result on the way is beyond `b`, so that each is finite and its place that of its rounding.
  have finite {x : Binary64} {n : Nat} (hx : x.rank = some (n : Int)) (hn : n ≤ b) :
      x.isFinite = true := by
    refine isFinite_of_rank hx ?_
    rw [Int.natAbs_natCast]
    exact Nat.lt_of_le_of_lt hn fits.1
  have wide : roundUnits (b - a) 1 ≤ b := by
    refine roundUnits_le Nat.one_pos fits.2 ?_
    rw [Nat.mul_one]
    exact Nat.sub_le b a
  have part : roundUnits (w * roundUnits (b - a) 1) oneUnits ≤ b - a := roundUnits_share_le hw proper
  have span : (above - below).rank = some ((roundUnits (b - a) 1 : Nat) : Int) := by
    rw [rank_sub (finite habove (Nat.le_refl b)) (finite hbelow hab) habove hbelow,
      ← Int.ofNat_sub hab, rounded_natCast, magnitude_eq_roundUnits wide fits.1]
  have share : (weight * (above - below)).rank =
      some ((roundUnits (w * roundUnits (b - a) 1) oneUnits : Nat) : Int) := by
    have weightFinite : weight.isFinite = true := by
      refine isFinite_of_rank hweight ?_
      rw [Int.natAbs_natCast]
      exact Nat.lt_trans proper oneUnits_lt_overflowUnits
    rw [rank_mul weightFinite (finite span wide) hweight span, ← Int.natCast_mul, rounded_natCast,
      magnitude_eq_roundUnits part (Nat.lt_of_le_of_lt (Nat.sub_le b a) fits.1)]
  rw [rank_add (finite hbelow hab) (finite share (Nat.le_trans part (Nat.sub_le b a))) hbelow share,
    ← Int.natCast_add, rounded_natCast]
  exact congrArg (fun n : Nat => some (n : Int))
    (magnitude_eq_roundUnits (between_le hab fits.2 hw proper) fits.1)

end Between

section Level

variable {ranks : Nat → Nat} {last u v : Nat}

/-- The units at place `u` among ranks that are one apart. -/
def level (ranks : Nat → Nat) (u : Nat) : Nat :=
  if u % oneUnits = 0 then ranks (u / oneUnits)
  else between (ranks (u / oneUnits)) (ranks (u / oneUnits + 1)) (u % oneUnits)

def rankAbove (u : Nat) : Nat := if u % oneUnits = 0 then u / oneUnits else u / oneUnits + 1

/-- Magnitudes of the format that ascend up to some last one. -/
structure Ascends (ranks : Nat → Nat) (last : Nat) : Prop where
  fits : ∀ i ≤ last, Fits (ranks i)
  le : ∀ i j, i ≤ j → j ≤ last → ranks i ≤ ranks j

/-- The fraction of a number of the format is one itself. -/
theorem gap_dvd_fraction (hu : gap u ∣ u) : gap (u % oneUnits) ∣ u % oneUnits := by
  have whole : gap (u % oneUnits) ∣ oneUnits :=
    Nat.dvd_trans (gap_dvd_gap (Nat.le_of_lt (Nat.mod_lt u oneUnits_pos))) gap_dvd_oneUnits
  exact (Nat.dvd_mod_iff whole).2 (Nat.dvd_trans (gap_dvd_gap (Nat.mod_le u oneUnits)) hu)

theorem div_le_rankAbove (u : Nat) : u / oneUnits ≤ rankAbove u := by
  rw [rankAbove]
  split
  · exact Nat.le_refl _
  · exact Nat.le_succ _

theorem rankAbove_le (h : u ≤ last * oneUnits) : rankAbove u ≤ last := by
  have whole : u / oneUnits ≤ last := Nat.div_le_of_le_mul (by rwa [Nat.mul_comm])
  rw [rankAbove]
  split
  · exact whole
  · next fraction =>
    refine Nat.lt_of_le_of_ne whole fun same => fraction ?_
    have parts := Nat.div_add_mod' u oneUnits
    rw [same] at parts
    omega

/-- A value lies between those of the ranks around its place. -/
theorem level_bounds (h : Ascends ranks last) (hu : gap u ∣ u) (range : u ≤ last * oneUnits) :
    ranks (u / oneUnits) ≤ level ranks u ∧ level ranks u ≤ ranks (rankAbove u) := by
  have above := rankAbove_le range
  rw [rankAbove] at above ⊢
  rw [level]
  split
  · exact ⟨Nat.le_refl _, Nat.le_refl _⟩
  · next fraction =>
    rw [if_neg fraction] at above
    have step := h.le (u / oneUnits) (u / oneUnits + 1) (Nat.le_succ _) above
    exact ⟨le_between (h.fits _ (Nat.le_of_succ_le above)).2 _ _,
      between_le step (h.fits _ above).2 (gap_dvd_fraction hu) (Nat.mod_lt u oneUnits_pos)⟩

/-- At a higher place there is no lower value. -/
theorem level_mono (h : Ascends ranks last) (hu : gap u ∣ u) (hv : gap v ∣ v) (huv : u ≤ v)
    (range : v ≤ last * oneUnits) : level ranks u ≤ level ranks v := by
  have upper := (level_bounds h hu (Nat.le_trans huv range)).2
  have lower := (level_bounds h hv range).1
  have whole : u / oneUnits ≤ v / oneUnits := Nat.div_le_div_right huv
  rcases Nat.lt_or_ge (v / oneUnits) (rankAbove u) with within | across
  · -- Both places are between the same two ranks.
    have fraction : u % oneUnits ≠ 0 := by
      intro none
      rw [rankAbove, if_pos none] at within
      exact Nat.not_lt_of_le whole within
    rw [rankAbove, if_neg fraction] at within
    have same : u / oneUnits = v / oneUnits := Nat.le_antisymm whole (Nat.le_of_lt_succ within)
    have share : u % oneUnits ≤ v % oneUnits := by
      have partsU := Nat.div_add_mod' u oneUnits
      have partsV := Nat.div_add_mod' v oneUnits
      rw [same] at partsU
      omega
    have fraction' : v % oneUnits ≠ 0 :=
      Nat.ne_of_gt (Nat.lt_of_lt_of_le (Nat.pos_of_ne_zero fraction) share)
    rw [level, level, if_neg fraction, if_neg fraction', same]
    exact between_mono _ _ share
  · have order := h.le _ _ across (Nat.le_trans (div_le_rankAbove v) (rankAbove_le range))
    exact Nat.le_trans upper (Nat.le_trans order lower)

end Level

end LinkTrials
