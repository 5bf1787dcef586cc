import Mathlib.Data.List.Forall2
import LinkTrials.Proofs.Binary64.Arithmetic
import LinkTrials.Proofs.Percentile.Ranks

/-!
Percentiles of the same samples in another order.

The places of sorted samples ascend, so they are those of the samples however these were ordered
before. Zeros of both signs are at one place and keep the order in which they came; but a percentile
is made of differences, products and sums, which only depend on places.
-/
namespace LinkTrials

namespace Binary64

variable {x y : Binary64}

/-- The position on the line of units, for a number that has one. -/
def place (x : Binary64) : Int := x.rank.getD 0

theorem rank_eq_place (h : x ≠ nan) : x.rank = some x.place := by
  obtain ⟨r, hr⟩ := rank_of_ne_nan h
  rw [place, hr, Option.getD_some]

theorem lt_eq_place (hx : x ≠ nan) (hy : y ≠ nan) : lt x y = decide (x.place < y.place) :=
  lt_of_rank (rank_eq_place hx) (rank_eq_place hy)

theorem same_of_place_eq (hx : x ≠ nan) (hy : y ≠ nan) (h : x.place = y.place) : Same x y :=
  ⟨x.place, rank_eq_place hx, h ▸ rank_eq_place hy⟩

end Binary64

open Binary64

namespace Ranked

/-- From left to right no place is above one before it. -/
def Descends (xs : List Binary64) : Prop := xs.Pairwise fun x y => y.place ≤ x.place

theorem insert_descends {x : Binary64} {sorted : List Binary64} (hx : x ≠ nan)
    (hs : ∀ y ∈ sorted, y ≠ nan) (h : Descends sorted) : Descends (insert x sorted) := by
  induction sorted with
  | nil => exact List.pairwise_singleton _ _
  | cons y rest ih =>
      obtain ⟨first, later⟩ := List.pairwise_cons.1 h
      obtain ⟨hy, hrest⟩ := List.forall_mem_cons.1 hs
      rw [insert, lt_eq_place hx hy]
      split
      · next below =>
        refine List.Pairwise.cons ?_ (ih hrest later)
        intro z hz
        rcases List.mem_cons.1 ((insert_perm x rest).mem_iff.1 hz) with rfl | hmem
        · exact Int.le_of_lt (of_decide_eq_true below)
        · exact first z hmem
      · next stays =>
        have above : y.place ≤ x.place := by simpa using stays
        refine List.Pairwise.cons ?_ h
        intro z hz
        rcases List.mem_cons.1 hz with rfl | hmem
        · exact above
        · exact Int.le_trans (first z hmem) above

theorem foldl_insert_descends {xs sorted : List Binary64} (hxs : ∀ x ∈ xs, x ≠ nan)
    (hs : ∀ y ∈ sorted, y ≠ nan) (h : Descends sorted) :
    Descends (xs.foldl (fun sorted x => insert x sorted) sorted) := by
  induction xs generalizing sorted with
  | nil => exact h
  | cons x rest ih =>
      obtain ⟨hx, hrest⟩ := List.forall_mem_cons.1 hxs
      refine ih hrest ?_ (insert_descends hx hs h)
      intro y hy
      rcases List.mem_cons.1 ((insert_perm x sorted).mem_iff.1 hy) with rfl | hmem
      · exact hx
      · exact hs y hmem

theorem ascending_places {xs : List Binary64} (h : ∀ x ∈ xs, x ≠ nan) :
    ((ascending xs).map place).Pairwise (· ≤ ·) := by
  rw [ascending, List.map_reverse, List.pairwise_reverse, List.pairwise_map]
  exact foldl_insert_descends h (fun y hy => nomatch hy) .nil

theorem forall₂_same_of_places {xs ys : List Binary64} (hx : ∀ x ∈ xs, x ≠ nan)
    (hy : ∀ y ∈ ys, y ≠ nan) (h : xs.map place = ys.map place) : List.Forall₂ Same xs ys := by
  induction xs generalizing ys with
  | nil =>
      rw [List.map_eq_nil_iff.1 h.symm]
      exact .nil
  | cons x rest ih =>
      cases ys with
      | nil => cases h
      | cons y others =>
          obtain ⟨hx, hrest⟩ := List.forall_mem_cons.1 hx
          obtain ⟨hy, hothers⟩ := List.forall_mem_cons.1 hy
          obtain ⟨first, later⟩ := List.cons.inj h
          exact .cons (same_of_place_eq hx hy first) (ih hrest hothers later)

theorem mem_ascending {xs : List Binary64} {x : Binary64} : x ∈ ascending xs ↔ x ∈ xs :=
  (ascending_perm xs).mem_iff

/-- The order of samples shows after sorting only in the signs of zeros. -/
theorem ascending_same_of_perm {xs ys : List Binary64} (h : xs.Perm ys)
    (hxs : ∀ x ∈ xs, x ≠ nan) : List.Forall₂ Same (ascending xs) (ascending ys) := by
  have hys : ∀ y ∈ ys, y ≠ nan := fun y hy => hxs y (h.mem_iff.2 hy)
  have perm : (ascending xs).Perm (ascending ys) :=
    (ascending_perm xs).trans (h.trans (ascending_perm ys).symm)
  refine forall₂_same_of_places (fun x hx => hxs x (mem_ascending.1 hx))
    (fun y hy => hys y (mem_ascending.1 hy)) ?_
  exact (perm.map place).eq_of_pairwise (fun _ _ _ _ => Int.le_antisymm)
    (ascending_places hxs) (ascending_places hys)

end Ranked

theorem rel_getElem? {xs ys : List Binary64} (h : List.Forall₂ Same xs ys) (i : Nat) :
    Option.Rel Same xs[i]? ys[i]? := by
  induction h generalizing i with
  | nil => exact .none
  | cons first _ ih =>
      cases i with
      | zero => exact .some first
      | succ i => exact ih i

theorem floorIndex_le_maxIndex (x : Binary64) : x.floorIndex ≤ maxIndex := by
  cases x with
  | nan => exact Nat.zero_le _
  | infinite s => cases s <;> simp [floorIndex]
  | finite s u fits =>
      rw [floorIndex]
      split
      · exact Nat.zero_le _
      · exact Nat.min_le_right _ _

/-- A place between two ranks lies a finite way above the lower one. -/
theorem weight_isFinite {x : Binary64} (h : x.floorIndex ≠ x.ceilIndex) :
    (x - ofNat x.floorIndex).isFinite = true := by
  have lower : IsAmount (ofNat x.floorIndex) := by
    refine (upTo_ofNat_power (e := 64) ?_).isAmount (power_lt_overflowUnits (by decide))
    exact Nat.le_trans (floorIndex_le_maxIndex x) (by decide)
  refine IsAmount.sub_isFinite ?_ lower
  cases x with
  | nan | infinite s => exact absurd rfl h
  | finite s u fits =>
      cases s with
      | true => simp [floorIndex, ceilIndex] at h
      | false => exact ⟨u, fits.1, u, rfl, Nat.le_refl u⟩

theorem interpolated_same {below below' above above' weight : Binary64}
    (hbelow : Same below below') (habove : Same above above') (hb : IsAmount below)
    (ha : IsAmount above) (hw : weight.isFinite = true) :
    Same (below + weight * (above - below)) (below' + weight * (above' - below')) := by
  have span := habove.sub hbelow ha.isFinite hb.isFinite
  have part := (Same.refl (ne_nan_of_isFinite hw)).mul span hw (ha.sub_isFinite hb)
  exact hbelow.add part hb.isFinite

theorem valueAt_same {xs ys : List Binary64} (h : List.Forall₂ Same xs ys)
    (hxs : ∀ x ∈ xs, IsAmount x) (place : Binary64) :
    Option.Rel Same (valueAt xs.toArray place) (valueAt ys.toArray place) := by
  have low := rel_getElem? h place.floorIndex
  have high := rel_getElem? h place.ceilIndex
  have amount (i : Nat) : ∀ x, xs[i]? = some x → IsAmount x :=
    fun x hx => hxs x (List.mem_of_getElem? hx)
  have lowAmount := amount place.floorIndex
  have highAmount := amount place.ceilIndex
  simp only [valueAt, List.getElem?_toArray]
  split
  · exact low
  · next apart =>
    have weight := weight_isFinite apart
    generalize xs[place.floorIndex]? = below, ys[place.floorIndex]? = below' at low lowAmount
    generalize xs[place.ceilIndex]? = above, ys[place.ceilIndex]? = above' at high highAmount
    cases low with
    | none => exact .none
    | some sameBelow =>
        cases high with
        | none => exact .none
        | some sameAbove =>
            exact .some (interpolated_same sameBelow sameAbove (lowAmount _ rfl)
              (highAmount _ rfl) weight)

/-- A percentile of amounts does not depend on their order. -/
theorem percentile_same_of_perm {xs ys : List Binary64} (h : xs.Perm ys)
    (hxs : ∀ x ∈ xs, IsAmount x) (p : Binary64) :
    Option.Rel Same (percentile xs p) (percentile ys p) := by
  rw [percentile, percentile, h.length_eq]
  by_cases none : xs = []
  · have none' : ys = [] := by
      subst none
      exact h.nil_eq.symm
    rw [if_pos none, if_pos none']
    exact .none
  · have none' : ys ≠ [] := by
      rintro rfl
      exact none h.eq_nil
    rw [if_neg none, if_neg none']
    refine valueAt_same (Ranked.ascending_same_of_perm h fun x hx => (hxs x hx).ne_nan) ?_ _
    intro x hx
    exact hxs x (Ranked.mem_ascending.1 hx)

end LinkTrials
