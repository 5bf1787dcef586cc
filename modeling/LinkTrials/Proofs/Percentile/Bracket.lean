import LinkTrials.Proofs.Percentile.Monotone

/-!
Between which samples a percentile lies.

Whatever number asks for it, a percentile looks at two places that there are. Of amounts it is at
least the sample at the one and at most the sample at the other, without any tolerance. From 100 on
both places are the last, so the percentile is the greatest sample; down from zero, and for `nan`,
both are the first, and it is the least.
-/
namespace LinkTrials

open Binary64

variable {values : List Binary64} {p v : Binary64}

/-! ### The first and the last place -/

theorem percentilePlace_nan (count : Nat) : percentilePlace count nan = nan := by
  simp only [percentilePlace, clamp_nan, nan_div, nan_mul]

theorem magnitude_exact {m den : Nat} (hd : 0 < den) (fits : Fits m) :
    magnitude (m * den) den = m := by
  have exact := roundUnits_exact hd fits.2
  rw [magnitude_eq_roundUnits (Nat.le_of_eq exact) fits.1, exact]

theorem placeUnits_of_nonpos (count : Nat) {r : Int} (h : r ≤ 0) : placeUnits count r = 0 := by
  have none : percentUnits r = 0 := by
    rw [percentUnits]
    omega
  have pos : 0 < 100 * oneUnits := Nat.mul_pos (by decide) oneUnits_pos
  rw [placeUnits, none, Nat.zero_mul, magnitude_zero pos, Nat.zero_mul, magnitude_zero oneUnits_pos]

theorem placeUnits_of_hundred {count : Nat} (few : count ≤ Nat.pow 2 53) {r : Int}
    (h : ((100 * oneUnits : Nat) : Int) ≤ r) : placeUnits count r = (count - 1) * oneUnits := by
  have all : percentUnits r = 100 * oneUnits := by
    rw [percentUnits]
    omega
  have last : count - 1 ≤ Nat.pow 2 53 := Nat.le_trans (Nat.sub_le _ _) few
  have pos : 0 < 100 * oneUnits := Nat.mul_pos (by decide) oneUnits_pos
  rw [placeUnits, all, Nat.mul_comm (100 * oneUnits) oneUnits,
    magnitude_exact pos ⟨oneUnits_lt_overflowUnits, gap_dvd_oneUnits⟩, Nat.mul_comm oneUnits,
    magnitude_exact oneUnits_pos ⟨whole_lt_overflowUnits last, gap_dvd_whole last⟩]

/-- At a place that needs no interpolation there is the sample itself. -/
theorem valueAt_of_whole {sorted : Array Binary64} {place : Binary64} {k : Nat}
    (lower : place.floorIndex = k) (upper : place.ceilIndex = k) :
    valueAt sorted place = sorted[k]? := by
  rw [valueAt, lower, upper]
  exact if_pos rfl

theorem indices_of_low (hne : values ≠ []) (few : values.length ≤ Nat.pow 2 53)
    (h : p = nan ∨ le p 0 = true) :
    (percentilePlace values.length p).floorIndex = 0 ∧
      (percentilePlace values.length p).ceilIndex = 0 := by
  rcases h with rfl | low
  · rw [percentilePlace_nan]
    exact ⟨rfl, rfl⟩
  · obtain ⟨r, zero, hr, hzero, order⟩ := le_iff.1 low
    rw [ofNat_literal, rank_ofNat_zero] at hzero
    cases hzero
    obtain ⟨place, -⟩ := rank_percentilePlace hr (List.length_pos_iff.2 hne) few
    rw [placeUnits_of_nonpos _ order] at place
    obtain ⟨floor, ceil⟩ := indices_of_rank (k := 0) place (Nat.zero_le _) (Nat.zero_le _)
    rw [floor, ceil, rankAbove, Nat.zero_mod, if_pos rfl, Nat.zero_div]
    exact ⟨rfl, rfl⟩

theorem indices_of_high (hne : values ≠ []) (few : values.length ≤ Nat.pow 2 53)
    (h : le 100 p = true) :
    (percentilePlace values.length p).floorIndex = values.length - 1 ∧
      (percentilePlace values.length p).ceilIndex = values.length - 1 := by
  have hundred : (ofNat 100).rank = some ((100 * oneUnits : Nat) : Int) := rank_ofNat (by decide)
  obtain ⟨top, r, htop, hr, order⟩ := le_iff.1 h
  rw [ofNat_literal, hundred] at htop
  obtain rfl := Option.some.inj htop
  obtain ⟨place, range⟩ := rank_percentilePlace hr (List.length_pos_iff.2 hne) few
  have last : values.length - 1 ≤ Nat.pow 2 53 := Nat.le_trans (Nat.sub_le _ _) few
  obtain ⟨floor, ceil⟩ := indices_of_rank place range last
  rw [floor, ceil, placeUnits_of_hundred few order, rankAbove, Nat.mul_mod_left, if_pos rfl,
    Nat.mul_div_cancel _ oneUnits_pos]
  exact ⟨rfl, rfl⟩

/-! ### Sorted amounts -/

theorem le_of_place_le {x y : Binary64} (hx : x ≠ nan) (hy : y ≠ nan) (h : x.place ≤ y.place) :
    le x y = true :=
  le_iff.2 ⟨_, _, rank_eq_place hx, rank_eq_place hy, h⟩

/-- Sorted samples ascend from index to index. -/
theorem le_of_index_le (h : ∀ x ∈ values, x ≠ nan) {i j : Nat} {x y : Binary64} (order : i ≤ j)
    (hx : (Ranked.ascending values)[i]? = some x) (hy : (Ranked.ascending values)[j]? = some y) :
    le x y = true := by
  have sorted := Ranked.ascending_places h
  have known {k : Nat} {z : Binary64} (hz : (Ranked.ascending values)[k]? = some z) : z ≠ nan :=
    h z (Ranked.mem_ascending.1 (List.mem_of_getElem? hz))
  refine le_of_place_le (known hx) (known hy) ?_
  obtain ⟨hi, rfl⟩ := List.getElem?_eq_some_iff.1 hx
  obtain ⟨hj, rfl⟩ := List.getElem?_eq_some_iff.1 hy
  rcases Nat.lt_or_eq_of_le order with before | rfl
  · have places := List.pairwise_iff_getElem.1 sorted i j (by rwa [List.length_map])
      (by rwa [List.length_map]) before
    rwa [List.getElem_map, List.getElem_map] at places
  · exact Int.le_refl _

theorem exists_index {x : Binary64} (h : x ∈ values) :
    ∃ i < values.length, (Ranked.ascending values)[i]? = some x := by
  obtain ⟨i, hi, eq⟩ := List.getElem_of_mem (Ranked.mem_ascending.2 h)
  refine ⟨i, Nat.lt_of_lt_of_eq hi (Ranked.ascending_perm values).length_eq, ?_⟩
  rw [List.getElem?_eq_getElem hi, eq]

/-- Where both places are one, the percentile is the sample there. -/
theorem percentile_of_whole (hne : values ≠ []) {k : Nat}
    (lower : (percentilePlace values.length p).floorIndex = k)
    (upper : (percentilePlace values.length p).ceilIndex = k) :
    percentile values p = (Ranked.ascending values)[k]? := by
  rw [percentile, if_neg hne, valueAt_of_whole lower upper, List.getElem?_toArray]

theorem exists_percentile_of_whole {k : Nat} (within : k < values.length)
    (lower : (percentilePlace values.length p).floorIndex = k)
    (upper : (percentilePlace values.length p).ceilIndex = k) :
    ∃ x ∈ values, percentile values p = some x ∧ (Ranked.ascending values)[k]? = some x := by
  have hne : values ≠ [] := List.ne_nil_of_length_pos (Nat.zero_lt_of_lt within)
  have length := (Ranked.ascending_perm values).length_eq
  have here := List.getElem?_eq_getElem (Nat.lt_of_lt_of_eq within length.symm)
  exact ⟨_, Ranked.mem_ascending.1 (List.mem_of_getElem? here),
    (percentile_of_whole hne lower upper).trans here, here⟩

theorem percentile_of_low (hne : values ≠ []) (few : values.length ≤ Nat.pow 2 53)
    (numbers : ∀ x ∈ values, x ≠ nan) (low : p = nan ∨ le p 0 = true) :
    ∃ least ∈ values, percentile values p = some least ∧ ∀ x ∈ values, le least x = true := by
  obtain ⟨lower, upper⟩ := indices_of_low hne few low
  obtain ⟨least, member, eq, first⟩ :=
    exists_percentile_of_whole (List.length_pos_iff.2 hne) lower upper
  refine ⟨least, member, eq, fun x hx => ?_⟩
  obtain ⟨i, -, hi⟩ := exists_index hx
  exact le_of_index_le numbers (Nat.zero_le i) first hi

theorem percentile_of_high (hne : values ≠ []) (few : values.length ≤ Nat.pow 2 53)
    (numbers : ∀ x ∈ values, x ≠ nan) (high : le 100 p = true) :
    ∃ greatest ∈ values, percentile values p = some greatest ∧
      ∀ x ∈ values, le x greatest = true := by
  obtain ⟨lower, upper⟩ := indices_of_high hne few high
  obtain ⟨greatest, member, eq, last⟩ := exists_percentile_of_whole
    (Nat.sub_one_lt_of_lt (List.length_pos_iff.2 hne)) lower upper
  refine ⟨greatest, member, eq, fun x hx => ?_⟩
  obtain ⟨i, within, hi⟩ := exists_index hx
  exact le_of_index_le numbers (Nat.le_sub_one_of_lt within) hi last

/-- A percentile of amounts lies between the samples at its two places. -/
theorem percentile_bounds (amounts : ∀ x ∈ values, IsAmount x)
    (few : values.length ≤ Nat.pow 2 53) (hv : percentile values p = some v) {below above : Binary64}
    (hbelow : (Ranked.ascending values)[(percentilePlace values.length p).floorIndex]? = some below)
    (habove : (Ranked.ascending values)[(percentilePlace values.length p).ceilIndex]? = some above) :
    le below v = true ∧ le v above = true := by
  have hne := (percentile_eq_some hv).1
  have numbers : ∀ x ∈ values, x ≠ nan := fun x hx => (amounts x hx).ne_nan
  by_cases hp : p = nan
  · -- Whoever asks for `nan` gets the first sample, from both places.
    obtain ⟨lower, upper⟩ := indices_of_low hne few (.inl hp)
    have first := percentile_of_whole hne lower upper
    rw [hv] at first
    rw [lower] at hbelow
    rw [upper] at habove
    exact ⟨le_of_index_le numbers (Nat.le_refl 0) hbelow first.symm,
      le_of_index_le numbers (Nat.le_refl 0) first.symm habove⟩
  · obtain ⟨r, hr⟩ := rank_of_ne_nan hp
    have pos : 0 < values.length := List.length_pos_iff.2 hne
    have last : values.length - 1 ≤ Nat.pow 2 53 := Nat.le_trans (Nat.sub_le _ _) few
    have sorted : ∀ x ∈ Ranked.ascending values, IsAmount x :=
      fun x hx => amounts x (Ranked.mem_ascending.1 hx)
    obtain ⟨ascends, whole, range, rankV⟩ := rank_percentile amounts few hr hv
    obtain ⟨floor, ceil⟩ := indices_of_rank (rank_percentilePlace hr pos few).1 range last
    rw [floor] at hbelow
    rw [ceil] at habove
    obtain ⟨lower, upper⟩ := level_bounds ascends whole range
    exact ⟨le_iff.2 ⟨_, _, (rank_getElem? sorted hbelow).1, rankV, Int.ofNat_le.2 lower⟩,
      le_iff.2 ⟨_, _, rankV, (rank_getElem? sorted habove).1, Int.ofNat_le.2 upper⟩⟩

/-- A percentile of some samples looks at two of them, whatever number asks for it. If they are
amounts, it lies between these two, is the least from zero down and for `nan` and the greatest from
100 on, and does not fall as the number rises. -/
theorem percentile_between (hne : values ≠ []) (few : values.length < Nat.pow 2 53) :
    let sorted := Ranked.ascending values
    let place := percentilePlace values.length
    sorted.Perm values ∧
    (∀ p, (place p).floorIndex < sorted.length ∧ (place p).ceilIndex < sorted.length) ∧
    (∀ p, ∃ v, percentile values p = some v) ∧
    ((∀ x ∈ values, IsAmount x) →
      sorted.Pairwise (fun x y => le x y = true) ∧
      (∀ p v, percentile values p = some v →
        ∃ below above, sorted[(place p).floorIndex]? = some below ∧
          sorted[(place p).ceilIndex]? = some above ∧ le below v = true ∧ le v above = true) ∧
      (∀ p, p = nan ∨ le p 0 = true →
        ∃ least ∈ values, percentile values p = some least ∧ ∀ x ∈ values, le least x = true) ∧
      (∀ p, le 100 p = true →
        ∃ greatest ∈ values, percentile values p = some greatest ∧
          ∀ x ∈ values, le x greatest = true) ∧
      ∀ p q v w, le p q = true → percentile values p = some v → percentile values q = some w →
        le v w = true) := by
  have bound := Nat.le_of_lt few
  have pos : 0 < values.length := List.length_pos_iff.2 hne
  have length : (Ranked.ascending values).length = values.length :=
    (Ranked.ascending_perm values).length_eq
  have inside : ∀ p, (percentilePlace values.length p).floorIndex < (Ranked.ascending values).length ∧
      (percentilePlace values.length p).ceilIndex < (Ranked.ascending values).length := by
    intro p
    rw [length]
    exact percentilePlace_indices p pos bound
  refine ⟨Ranked.ascending_perm values, inside,
    fun p => Option.isSome_iff_exists.1 (percentile_isSome p hne bound), ?_⟩
  intro amounts
  have numbers : ∀ x ∈ values, x ≠ nan := fun x hx => (amounts x hx).ne_nan
  refine ⟨?_, ?_, ?_, ?_, ?_⟩
  · refine List.pairwise_iff_getElem.2 fun i j hi hj order => ?_
    exact le_of_index_le numbers (Nat.le_of_lt order) (List.getElem?_eq_getElem hi)
      (List.getElem?_eq_getElem hj)
  · intro p v hv
    have hbelow := List.getElem?_eq_getElem (inside p).1
    have habove := List.getElem?_eq_getElem (inside p).2
    exact ⟨_, _, hbelow, habove, percentile_bounds amounts bound hv hbelow habove⟩
  · intro p low
    exact percentile_of_low hne bound numbers low
  · intro p high
    exact percentile_of_high hne bound numbers high
  · intro p q v w order hv hw
    exact percentile_mono amounts bound order hv hw

/-- Two samples, and the number that is none. -/
theorem percentile_between_of_two :
    let values : List Binary64 := [4, 1]
    values ≠ [] ∧ values.length < Nat.pow 2 53 ∧ (∀ x ∈ values, IsAmount x) ∧
      ∃ least ∈ values, percentile values nan = some least ∧ ∀ x ∈ values, le least x = true := by
  intro values
  have hne : values ≠ [] := List.cons_ne_nil _ _
  have few : values.length < Nat.pow 2 53 := by decide
  have amounts : ∀ x ∈ values, IsAmount x := by
    have whole {n : Nat} (h : n ≤ Nat.pow 2 53) : IsAmount (ofNat n) :=
      (upTo_ofNat h).isAmount (whole_lt_overflowUnits h)
    exact List.forall_mem_cons.2 ⟨whole (n := 4) (by decide),
      List.forall_mem_singleton.2 (whole (n := 1) (by decide))⟩
  obtain ⟨-, -, -, sorted⟩ := percentile_between hne few
  exact ⟨hne, few, amounts, (sorted amounts).2.2.1 nan (.inl rfl)⟩

end LinkTrials
