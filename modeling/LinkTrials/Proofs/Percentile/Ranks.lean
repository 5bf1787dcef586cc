import LinkTrials.Percentile
import LinkTrials.Proofs.Binary64.Order

/-!
The ranks that a percentile looks at.

Sorting keeps the samples. A percentile is cut down to the range from 0 to 100 and thus is a share
of the last place at most 1; so whatever number it is, both places that it looks at are places of
samples, and there is a percentile of any samples that can be counted without rounding. For `nan`
both places are the first.
-/
namespace LinkTrials

namespace Ranked

theorem insert_perm (x : Binary64) (xs : List Binary64) : (insert x xs).Perm (x :: xs) := by
  induction xs with
  | nil => exact .refl _
  | cons y rest ih =>
      rw [insert]
      split
      · exact (ih.cons y).trans (.swap x y rest)
      · exact .refl _

theorem foldl_insert_perm (xs sorted : List Binary64) :
    (xs.foldl (fun sorted x => insert x sorted) sorted).Perm (xs ++ sorted) := by
  induction xs generalizing sorted with
  | nil => exact .refl _
  | cons x rest ih =>
      have moved : (rest ++ insert x sorted).Perm (x :: (rest ++ sorted)) :=
        ((insert_perm x sorted).append_left rest).trans List.perm_middle
      exact (ih (insert x sorted)).trans moved

theorem ascending_perm (xs : List Binary64) : (ascending xs).Perm xs := by
  have sorted := foldl_insert_perm xs []
  rw [List.append_nil] at sorted
  exact (List.reverse_perm _).trans sorted

end Ranked

namespace Binary64

theorem UpTo.floorIndex_le {k : Nat} {x : Binary64} (h : UpTo (k * oneUnits) x)
    (hk : k ≤ Nat.pow 2 53) : x.floorIndex ≤ k := by
  obtain ⟨s, u, fits, rfl, hu, -⟩ := h.finite (whole_lt_overflowUnits hk)
  have whole : u / oneUnits ≤ k := Nat.div_le_of_le_mul (by rwa [Nat.mul_comm])
  rw [floorIndex]
  split
  · exact Nat.zero_le _
  · exact Nat.le_trans (Nat.min_le_left _ _) whole

theorem UpTo.ceilIndex_le {k : Nat} {x : Binary64} (h : UpTo (k * oneUnits) x)
    (hk : k ≤ Nat.pow 2 53) : x.ceilIndex ≤ k := by
  obtain ⟨s, u, fits, rfl, hu, -⟩ := h.finite (whole_lt_overflowUnits hk)
  have whole : (u + (oneUnits - 1)) / oneUnits ≤ k := by
    have hpos := oneUnits_pos
    generalize oneUnits = one at hu hpos
    refine Nat.le_of_lt_succ ((Nat.div_lt_iff_lt_mul hpos).2 ?_)
    rw [Nat.succ_mul]
    omega
  rw [ceilIndex]
  split
  · exact Nat.zero_le _
  · exact Nat.le_trans (Nat.min_le_left _ _) whole

/-- What is cut down to the range from zero to a whole number lies in it. -/
theorem upTo_clamp {k : Nat} {x : Binary64} (hk : k ≤ Nat.pow 2 53) (hx : x ≠ nan) :
    UpTo (k * oneUnits) (clamp (ofNat 0) (ofNat k) x) := by
  have zero := rank_ofNat_zero
  have top := rank_ofNat hk
  obtain ⟨r, hr⟩ := rank_of_ne_nan hx
  simp only [clamp, lt_of_rank hr zero, decide_eq_true_eq]
  split
  · -- Zero is not above the range.
    have within : ¬ ((k * oneUnits : Nat) : Int) < (0 : Nat) :=
      Int.not_lt.2 (Int.ofNat_le.2 (Nat.zero_le _))
    rw [lt_of_rank top zero, decide_eq_false within, if_neg Bool.false_ne_true]
    exact ⟨0, zero, Nat.zero_le _⟩
  · rw [lt_of_rank top hr]
    split
    · exact upTo_ofNat hk
    · next low high =>
      simp only [decide_eq_true_eq] at high
      exact ⟨r.toNat, by rw [hr, Int.toNat_of_nonneg (by omega)], by omega⟩

theorem clamp_nan (low high : Binary64) : clamp low high nan = nan := by
  simp only [clamp, nan_lt, lt_nan, Bool.false_eq_true, ite_false]

theorem nan_div (x : Binary64) : nan / x = nan := by
  change div nan x = nan
  rw [div]

theorem nan_mul (x : Binary64) : nan * x = nan := by
  change mul nan x = nan
  rw [mul]

end Binary64

open Binary64

/-- The place of a percentile among samples is `nan` or lies between the first and the last. -/
theorem percentilePlace_range {count : Nat} (p : Binary64) (hc : 0 < count)
    (hc' : count ≤ Nat.pow 2 53) :
    percentilePlace count p = nan ∨ UpTo ((count - 1) * oneUnits) (percentilePlace count p) := by
  have last : ofNat count - ofNat 1 = ofNat (count - 1) := ofNat_sub_ofNat hc' hc
  simp only [percentilePlace, ofNat_literal, last]
  by_cases hp : p = nan
  · exact .inl (by rw [hp, clamp_nan, nan_div, nan_mul])
  · have hundred : 100 ≤ Nat.pow 2 53 := by decide
    have percent := upTo_clamp hundred hp
    rw [Nat.mul_comm] at percent
    have share : UpTo oneUnits (clamp (ofNat 0) (ofNat 100) p / ofNat 100) :=
      percent.div gap_dvd_oneUnits (by rw [Nat.mul_comm]; exact whole_lt_overflowUnits hundred)
        (by decide) hundred
    exact .inr (share.mul (Nat.le_trans (Nat.sub_le _ _) hc'))

/-- Both places that a percentile looks at are places of samples. -/
theorem percentilePlace_indices {count : Nat} (p : Binary64) (hc : 0 < count)
    (hc' : count ≤ Nat.pow 2 53) :
    (percentilePlace count p).floorIndex < count ∧ (percentilePlace count p).ceilIndex < count := by
  have hlast : count - 1 ≤ Nat.pow 2 53 := Nat.le_trans (Nat.sub_le _ _) hc'
  rcases percentilePlace_range p hc hc' with hnan | range
  · rw [hnan]
    exact ⟨hc, hc⟩
  · have below := range.floorIndex_le hlast
    have above := range.ceilIndex_le hlast
    omega

theorem valueAt_isSome {sorted : Array Binary64} {place : Binary64}
    (hl : place.floorIndex < sorted.size) (hu : place.ceilIndex < sorted.size) :
    (valueAt sorted place).isSome = true := by
  simp only [valueAt, Array.getElem?_eq_getElem hl, Array.getElem?_eq_getElem hu]
  split <;> rfl

/-- There is a percentile of any samples, whatever number asks for it. -/
theorem percentile_isSome {xs : List Binary64} (p : Binary64) (hxs : xs ≠ [])
    (hlen : xs.length ≤ Nat.pow 2 53) : (percentile xs p).isSome = true := by
  have hpos : 0 < xs.length := List.length_pos_iff.2 hxs
  have hsize : (Ranked.ascending xs).toArray.size = xs.length := (Ranked.ascending_perm xs).length_eq
  obtain ⟨hl, hu⟩ := percentilePlace_indices p hpos hlen
  rw [percentile, if_neg hxs]
  exact valueAt_isSome (Nat.lt_of_lt_of_eq hl hsize.symm) (Nat.lt_of_lt_of_eq hu hsize.symm)

end LinkTrials
