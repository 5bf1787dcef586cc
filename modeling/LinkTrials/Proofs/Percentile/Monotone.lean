import LinkTrials.Proofs.Percentile.Interpolation
import LinkTrials.Proofs.Percentile.Ordered

/-!
Percentiles of one list of samples.

Amounts that are sorted have ranks that ascend, and a percentile is the value at a place among them
that moves up with the percentage. So a higher percentile is not a lower value.
-/
namespace LinkTrials

namespace Binary64

variable {x low high : Binary64} {u k : Nat}

theorem rank_clamp {a b r : Int} (hlow : low.rank = some a) (hhigh : high.rank = some b)
    (hx : x.rank = some r) (hab : a ≤ b) :
    (clamp low high x).rank = some (max a (min b r)) := by
  simp only [clamp, lt_of_rank hx hlow, decide_eq_true_eq]
  split
  · next under =>
    have ordered : ¬ b < a := Int.not_lt.2 hab
    rw [lt_of_rank hhigh hlow, decide_eq_false ordered, if_neg Bool.false_ne_true, hlow]
    congr 1
    omega
  · rw [lt_of_rank hhigh hx]
    split
    · next beyond =>
      rw [hhigh]
      simp only [decide_eq_true_eq] at beyond
      congr 1
      omega
    · next within =>
      rw [hx]
      simp only [decide_eq_true_eq] at within
      congr 1
      omega

theorem ceil_div {one : Nat} (pos : 0 < one) (u : Nat) :
    (u + (one - 1)) / one = if u % one = 0 then u / one else u / one + 1 := by
  have parts := Nat.div_add_mod' u one
  have rest := Nat.mod_lt u pos
  split
  · next none =>
    refine Nat.div_eq_of_lt_le (by omega) ?_
    rw [Nat.add_one_mul]
    omega
  · next some =>
    refine Nat.div_eq_of_lt_le ?_ ?_
    · rw [Nat.add_one_mul]
      omega
    · rw [Nat.add_one_mul, Nat.add_one_mul]
      omega

theorem indices_of_rank (h : x.rank = some (u : Int)) (hu : u ≤ k * oneUnits)
    (hk : k ≤ Nat.pow 2 53) : x.floorIndex = u / oneUnits ∧ x.ceilIndex = rankAbove u := by
  have pos := oneUnits_pos
  have few : k ≤ maxIndex := Nat.le_trans hk (by decide)
  have above := rankAbove_le hu
  have below := Nat.le_trans (div_le_rankAbove u) above
  have ceil : (u + (oneUnits - 1)) / oneUnits = rankAbove u := ceil_div pos u
  obtain ⟨s, fits, rfl, sign⟩ :=
    eq_finite_of_rank h (Nat.lt_of_le_of_lt hu (whole_lt_overflowUnits hk))
  cases s with
  | false =>
      rw [floorIndex, ceilIndex, if_neg Bool.false_ne_true, if_neg Bool.false_ne_true, ceil]
      exact ⟨Nat.min_eq_left (Nat.le_trans below few), Nat.min_eq_left (Nat.le_trans above few)⟩
  | true =>
      obtain rfl := sign rfl
      rw [rankAbove, if_pos (Nat.zero_mod _), Nat.zero_div]
      exact ⟨rfl, rfl⟩

/-- How far a place is above the rank below it is not rounded. -/
theorem rank_fraction (h : x.rank = some (u : Int)) (hu : u ≤ k * oneUnits)
    (hk : k ≤ Nat.pow 2 53) :
    (x - ofNat x.floorIndex).rank = some ((u % oneUnits : Nat) : Int) := by
  have fits := fits_of_rank h (Nat.lt_of_le_of_lt hu (whole_lt_overflowUnits hk))
  have finite : x.isFinite = true := isFinite_of_rank h (by rw [Int.natAbs_natCast]; exact fits.1)
  have whole : u / oneUnits ≤ Nat.pow 2 53 :=
    Nat.le_trans (Nat.div_le_of_le_mul (by rwa [Nat.mul_comm])) hk
  have parts := Nat.div_add_mod' u oneUnits
  have exact : roundUnits (u % oneUnits * 1) 1 = u % oneUnits :=
    roundUnits_exact Nat.one_pos (gap_dvd_fraction fits.2)
  have small : u % oneUnits < overflowUnits := Nat.lt_of_le_of_lt (Nat.mod_le u oneUnits) fits.1
  rw [Nat.mul_one] at exact
  rw [(indices_of_rank h hu hk).1]
  obtain ⟨fitsW, eqW⟩ := ofNat_eq_finite whole
  have finiteW : (ofNat (u / oneUnits)).isFinite = true := by
    rw [eqW]
    rfl
  have difference : (u : Int) - (u / oneUnits * oneUnits : Nat) = (u % oneUnits : Nat) := by omega
  rw [rank_sub finite finiteW h (rank_ofNat whole), difference, rounded_natCast,
    magnitude_eq_roundUnits (Nat.le_of_eq exact) small, exact]

end Binary64

open Binary64

/-- A percentage cut down to the range from 0 to 100, in units. -/
def percentUnits (r : Int) : Nat := (max 0 (min ((100 * oneUnits : Nat) : Int) r)).toNat

/-- The place of a percentile among `count` samples, in units. -/
def placeUnits (count : Nat) (r : Int) : Nat :=
  magnitude (magnitude (percentUnits r * oneUnits) (100 * oneUnits) * ((count - 1) * oneUnits))
    oneUnits

theorem placeUnits_mono (count : Nat) {r r' : Int} (h : r ≤ r') :
    placeUnits count r ≤ placeUnits count r' := by
  have percent : percentUnits r ≤ percentUnits r' := by
    rw [percentUnits, percentUnits]
    omega
  have pos : 0 < 100 * oneUnits := Nat.mul_pos (by decide) oneUnits_pos
  have share := magnitude_mono pos pos
    (Nat.mul_le_mul_right (100 * oneUnits) (Nat.mul_le_mul_right oneUnits percent))
  exact magnitude_mono oneUnits_pos oneUnits_pos
    (Nat.mul_le_mul_right oneUnits (Nat.mul_le_mul_right ((count - 1) * oneUnits) share))

theorem percentUnits_le (r : Int) : percentUnits r ≤ 100 * oneUnits := by
  rw [percentUnits]
  omega

theorem rank_percentilePlace {count : Nat} {p : Binary64} {r : Int} (hp : p.rank = some r)
    (hc : 0 < count) (hc' : count ≤ Nat.pow 2 53) :
    (percentilePlace count p).rank = some (placeUnits count r : Int) ∧
      placeUnits count r ≤ (count - 1) * oneUnits := by
  have last : ofNat count - ofNat 1 = ofNat (count - 1) := ofNat_sub_ofNat hc' hc
  have few : count - 1 ≤ Nat.pow 2 53 := Nat.le_trans (Nat.sub_le _ _) hc'
  have hundred : 100 ≤ Nat.pow 2 53 := by decide
  have percent := percentUnits_le r
  have zero := rank_ofNat_zero
  have cut : (clamp (ofNat 0) (ofNat 100) p).rank = some (percentUnits r : Int) := by
    rw [rank_clamp zero (rank_ofNat hundred) hp (Int.natCast_nonneg _), percentUnits,
      Int.toNat_of_nonneg (Int.le_max_left _ _)]
    rfl
  have inside := whole_lt_overflowUnits hundred
  have share := rank_div cut (Nat.lt_of_le_of_lt percent inside) (rank_ofNat hundred)
    (Nat.mul_pos (by decide) oneUnits_pos) inside
  have proper : magnitude (percentUnits r * oneUnits) (100 * oneUnits) ≤ oneUnits := by
    refine magnitude_le (Nat.mul_pos (by decide) oneUnits_pos) gap_dvd_oneUnits ?_
    rw [Nat.mul_comm oneUnits]
    exact Nat.mul_le_mul_right _ percent
  constructor
  · have shareFinite := ((upTo_of_rank share proper).isAmount oneUnits_lt_overflowUnits).isFinite
    have lastFinite := ((upTo_ofNat few).isAmount (whole_lt_overflowUnits few)).isFinite
    simp only [percentilePlace, ofNat_literal, last]
    rw [rank_mul shareFinite lastFinite share (rank_ofNat few), ← Int.natCast_mul, rounded_natCast,
      placeUnits]
  · refine magnitude_le oneUnits_pos (gap_dvd_whole few) ?_
    rw [Nat.mul_comm]
    exact Nat.mul_le_mul_left _ proper

section Sorted

variable {xs : List Binary64}

/-- The units of the sample at a rank. -/
def rankAt (xs : List Binary64) (i : Nat) : Nat := ((xs[i]?.map Binary64.place).getD 0).toNat

theorem rank_getElem? (hxs : ∀ x ∈ xs, IsAmount x) {i : Nat} {x : Binary64} (h : xs[i]? = some x) :
    x.rank = some (rankAt xs i : Int) ∧ Fits (rankAt xs i) := by
  obtain ⟨u, hu, fits⟩ := (hxs x (List.mem_of_getElem? h)).rank
  have same : rankAt xs i = u := by
    rw [rankAt, h, Option.map_some, Option.getD_some, Binary64.place, hu]
    rfl
  rw [same]
  exact ⟨hu, fits⟩

theorem ascends_rankAt (hxs : ∀ x ∈ xs, IsAmount x)
    (sorted : (xs.map Binary64.place).Pairwise (· ≤ ·)) (hne : xs ≠ []) :
    Ascends (rankAt xs) (xs.length - 1) := by
  have pos := List.length_pos_iff.2 hne
  refine ⟨?_, ?_⟩
  · intro i hi
    exact (rank_getElem? hxs (List.getElem?_eq_getElem (by omega))).2
  · intro i j hij hj
    rcases Nat.lt_or_eq_of_le hij with before | rfl
    · have order := List.pairwise_iff_getElem.1 sorted i j (by rw [List.length_map]; omega)
        (by rw [List.length_map]; omega) before
      have inI : xs[i]? = some xs[i] := List.getElem?_eq_getElem (by omega)
      have inJ : xs[j]? = some xs[j] := List.getElem?_eq_getElem (by omega)
      rw [List.getElem_map, List.getElem_map] at order
      rw [rankAt, rankAt, inI, inJ]
      exact Int.toNat_le_toNat order
    · exact Nat.le_refl _

theorem rank_valueAt (hxs : ∀ x ∈ xs, IsAmount x)
    (sorted : (xs.map Binary64.place).Pairwise (· ≤ ·)) (hne : xs ≠ [])
    (few : xs.length ≤ Nat.pow 2 53) {x v : Binary64} {u : Nat} (hx : x.rank = some (u : Int))
    (hu : u ≤ (xs.length - 1) * oneUnits) (h : valueAt xs.toArray x = some v) :
    v.rank = some (level (rankAt xs) u : Int) := by
  have last : xs.length - 1 ≤ Nat.pow 2 53 := Nat.le_trans (Nat.sub_le _ _) few
  have fits := fits_of_rank hx (Nat.lt_of_le_of_lt hu (whole_lt_overflowUnits last))
  have ascends := ascends_rankAt hxs sorted hne
  obtain ⟨floor, ceil⟩ := indices_of_rank hx hu last
  have above := rankAbove_le hu
  simp only [valueAt, List.getElem?_toArray] at h
  rw [level]
  -- The indices are the same just if the place is a whole number.
  split at h
  · next same =>
    rw [floor, ceil, rankAbove] at same
    have whole : u % oneUnits = 0 := by
      apply Classical.byContradiction
      intro fraction
      rw [if_neg fraction] at same
      omega
    rw [if_pos whole]
    rw [floor] at h
    exact (rank_getElem? hxs h).1
  · next apart =>
    have fraction : u % oneUnits ≠ 0 := by
      intro whole
      rw [floor, ceil, rankAbove, if_pos whole] at apart
      exact apart rfl
    rw [if_neg fraction]
    rw [rankAbove, if_neg fraction] at ceil above
    split at h
    · next below upper hbelow hupper =>
      have weight := rank_fraction hx hu last
      rw [floor] at hbelow
      rw [ceil] at hupper
      obtain ⟨rankUpper, fitsUpper⟩ := rank_getElem? hxs hupper
      cases h
      exact rank_interpolated (rank_getElem? hxs hbelow).1 rankUpper weight
        (ascends.le _ _ (Nat.le_succ _) above) fitsUpper (gap_dvd_fraction fits.2)
        (Nat.mod_lt u oneUnits_pos)
    · cases h

end Sorted

theorem percentile_eq_some {xs : List Binary64} {p v : Binary64} (h : percentile xs p = some v) :
    xs ≠ [] ∧ valueAt (Ranked.ascending xs).toArray (percentilePlace xs.length p) = some v := by
  rw [percentile] at h
  split at h
  · cases h
  · next some => exact ⟨some, h⟩

/-- A percentile of amounts is a level among their ranks, at a place that depends on the percentage
alone. -/
theorem rank_percentile {xs : List Binary64} {p v : Binary64} {r : Int} (hxs : ∀ x ∈ xs, IsAmount x)
    (few : xs.length ≤ Nat.pow 2 53) (hp : p.rank = some r) (h : percentile xs p = some v) :
    Ascends (rankAt (Ranked.ascending xs)) (xs.length - 1) ∧
      gap (placeUnits xs.length r) ∣ placeUnits xs.length r ∧
      placeUnits xs.length r ≤ (xs.length - 1) * oneUnits ∧
      v.rank = some (level (rankAt (Ranked.ascending xs)) (placeUnits xs.length r) : Int) := by
  obtain ⟨hne, hv⟩ := percentile_eq_some h
  have length : (Ranked.ascending xs).length = xs.length := (Ranked.ascending_perm xs).length_eq
  have pos : 0 < xs.length := List.length_pos_iff.2 hne
  have sorted := Ranked.ascending_places fun x hx => (hxs x hx).ne_nan
  have amounts : ∀ x ∈ Ranked.ascending xs, IsAmount x :=
    fun x hx => hxs x (Ranked.mem_ascending.1 hx)
  rw [← length] at pos few hv ⊢
  have filled := List.length_pos_iff.1 pos
  obtain ⟨place, range⟩ := rank_percentilePlace hp pos few
  have last := Nat.le_trans (Nat.sub_le (Ranked.ascending xs).length 1) few
  have fits := fits_of_rank place (Nat.lt_of_le_of_lt range (whole_lt_overflowUnits last))
  exact ⟨ascends_rankAt amounts sorted filled, fits.2, range,
    rank_valueAt amounts sorted filled few place range hv⟩

/-- A higher percentile of amounts is not below a lower one. -/
theorem percentile_mono {xs : List Binary64} {p q v w : Binary64} (hxs : ∀ x ∈ xs, IsAmount x)
    (few : xs.length ≤ Nat.pow 2 53) (h : le p q = true) (hv : percentile xs p = some v)
    (hw : percentile xs q = some w) : le v w = true := by
  obtain ⟨r, r', hp, hq, order⟩ := le_iff.1 h
  obtain ⟨ascends, gapP, -, rankV⟩ := rank_percentile hxs few hp hv
  obtain ⟨-, gapQ, rangeQ, rankW⟩ := rank_percentile hxs few hq hw
  refine le_iff.2 ⟨_, _, rankV, rankW, Int.ofNat_le.2 ?_⟩
  exact level_mono ascends gapP gapQ (placeUnits_mono _ order) rangeQ

end LinkTrials
