import LinkTrials.Evaluation
import LinkTrials.Proofs.Binary64.Arithmetic

/-!
Shares of counts as numbers.

Counts that are not rounded have shares in the order of the quotients. The share that the sums of
some counts have is not below every single share, rounded or not; so a target that all of them reach
is reached by the sums.
-/
namespace LinkTrials.Evaluator

open Binary64

theorem share_eq_ofUnits {part whole : Nat} (hp : part ≤ Nat.pow 2 53)
    (hw : whole ≤ Nat.pow 2 53) (hpos : 0 < whole) :
    share part whole = ofUnits false (part * oneUnits * oneUnits) (whole * oneUnits) := by
  obtain ⟨fitsP, eqP⟩ := ofNat_eq_finite hp
  obtain ⟨fitsW, eqW⟩ := ofNat_eq_finite hw
  have nonzero : whole * oneUnits ≠ 0 := Nat.ne_of_gt (Nat.mul_pos hpos oneUnits_pos)
  rw [share, eqP, eqW, finite_div_finite _ _ _ _ nonzero, bne_self_eq_false]

/-- Shares are in the order of the quotients. -/
theorem share_le_share {part whole part' whole' : Nat} (hp : part ≤ whole)
    (hp' : part' ≤ whole') (hw : whole ≤ Nat.pow 2 53) (hw' : whole' ≤ Nat.pow 2 53)
    (hpos : 0 < whole) (hpos' : 0 < whole') (h : part * whole' ≤ part' * whole) :
    le (share part whole) (share part' whole') = true := by
  rw [share_eq_ofUnits (Nat.le_trans hp hw) hw hpos,
    share_eq_ofUnits (Nat.le_trans hp' hw') hw' hpos']
  apply ofUnits_le_ofUnits (Nat.mul_pos hpos oneUnits_pos) (Nat.mul_pos hpos' oneUnits_pos)
  have expand (a b : Nat) :
      a * oneUnits * oneUnits * (b * oneUnits) = a * b * (oneUnits * oneUnits * oneUnits) := by
    rw [Nat.mul_assoc a, Nat.mul_mul_mul_comm]
  rw [expand, expand]
  exact Nat.mul_le_mul_right _ h

theorem isShare_share {part whole : Nat} (h : part ≤ whole) (hw : whole ≤ Nat.pow 2 53)
    (hpos : 0 < whole) : (share part whole).isShare = true := by
  have hden : 0 < whole * oneUnits := Nat.mul_pos hpos oneUnits_pos
  have low : le (ofNat 0) (share part whole) = true := by
    rw [share_eq_ofUnits (Nat.le_trans h hw) hw hpos, ofNat]
    refine ofUnits_le_ofUnits Nat.one_pos hden ?_
    rw [Nat.zero_mul, Nat.zero_mul]
    exact Nat.zero_le _
  have high : le (share part whole) (ofNat 1) = true := by
    rw [share_eq_ofUnits (Nat.le_trans h hw) hw hpos, ofNat]
    refine ofUnits_le_ofUnits hden Nat.one_pos ?_
    rw [Nat.mul_one, Nat.one_mul, Nat.mul_comm oneUnits]
    exact Nat.mul_le_mul_right _ (Nat.mul_le_mul_right _ h)
  exact Bool.and_eq_true_iff.2 ⟨low, high⟩

theorem le_share_all {goal : Binary64} (h : goal.isShare = true) {whole : Nat} (hpos : 0 < whole)
    (hw : whole ≤ Nat.pow 2 53) : le goal (share whole whole) = true := by
  have target : le goal (ofNat 1) = true := (Bool.and_eq_true_iff.1 h).2
  refine Binary64.le_trans target ?_
  rw [share_eq_ofUnits hw hw hpos, ofNat]
  refine ofUnits_le_ofUnits Nat.one_pos (Nat.mul_pos hpos oneUnits_pos) (Nat.le_of_eq ?_)
  rw [Nat.mul_one, Nat.one_mul, Nat.mul_comm oneUnits]

/-- Of counts with more in the part and fewer beside it the part is a larger share. -/
theorem share_le_share_add {part rest part' rest' : Nat} (more : part ≤ part')
    (fewer : rest' ≤ rest) (hpos : 0 < part + rest) (hpos' : 0 < part' + rest') (hw : part + rest ≤ Nat.pow 2 53)
    (hw' : part' + rest' ≤ Nat.pow 2 53) :
    le (share part (part + rest)) (share part' (part' + rest')) = true := by
  refine share_le_share (Nat.le_add_right _ _) (Nat.le_add_right _ _) hw hw' hpos hpos' ?_
  rw [Nat.mul_add, Nat.mul_add, Nat.mul_comm part part']
  exact Nat.add_le_add_left (Nat.mul_le_mul more fewer) _

/-- A target that was reached, or not asked for as there was nothing, is reached with more in the part
and fewer beside it. -/
theorem le_share_of_more {goal : Binary64} (h : goal.isShare = true) {part rest part' rest' : Nat}
    (more : part ≤ part') (fewer : rest' ≤ rest) (size : part + rest ≤ part' + rest')
    (hpos' : 0 < part' + rest') (hw' : part' + rest' ≤ Nat.pow 2 53)
    (before : 0 < part + rest → le goal (share part (part + rest)) = true) :
    le goal (share part' (part' + rest')) = true := by
  rcases Nat.eq_zero_or_pos (part + rest) with none | some
  · have all : rest' = 0 := by omega
    rw [all, Nat.add_zero] at hpos' hw' ⊢
    exact le_share_all h hpos' hw'
  · exact Binary64.le_trans (before some)
      (share_le_share_add more fewer some hpos' (Nat.le_trans size hw') hw')

section LargeCounts

variable {n part part' whole : Nat}

theorem rank_count (n : Nat) : (ofNat n).rank = some (magnitude (n * oneUnits) 1 : Int) :=
  rank_ofUnits false (n * oneUnits) 1

theorem magnitude_count_lt (h : n ≤ Nat.pow 2 128) :
    magnitude (n * oneUnits) 1 < overflowUnits := by
  refine Nat.lt_of_le_of_lt (magnitude_le Nat.one_pos (gap_dvd_power 128) ?_)
    (power_lt_overflowUnits (Nat.le_refl _))
  rw [Nat.mul_one]
  exact Nat.mul_le_mul_right _ h

theorem magnitude_count_pos (h : 0 < n) : 0 < magnitude (n * oneUnits) 1 := by
  have least : oneUnits ≤ roundUnits (n * oneUnits) 1 := by
    refine le_roundUnits Nat.one_pos gap_dvd_oneUnits ?_
    rw [Nat.mul_one]
    exact Nat.le_mul_of_pos_left _ h
  have bound := whole_lt_overflowUnits (Nat.zero_le (Nat.pow 2 53))
  exact Nat.lt_min.2 ⟨Nat.lt_of_lt_of_le oneUnits_pos least, Nat.zero_lt_of_lt bound⟩

theorem rank_share (hp : part ≤ Nat.pow 2 128) (hw : whole ≤ Nat.pow 2 128) (hpos : 0 < whole) :
    (share part whole).rank =
      some (magnitude (magnitude (part * oneUnits) 1 * oneUnits)
        (magnitude (whole * oneUnits) 1) : Int) :=
  rank_div (rank_count part) (magnitude_count_lt hp) (rank_count whole) (magnitude_count_pos hpos)
    (magnitude_count_lt hw)

theorem share_ne_nan (hp : part ≤ Nat.pow 2 128) (hw : whole ≤ Nat.pow 2 128) (hpos : 0 < whole) :
    share part whole ≠ nan := by
  intro none
  have place := rank_share hp hw hpos
  rw [none] at place
  cases place

/-- A larger part of the same whole has no smaller share. -/
theorem share_mono (h : part ≤ part') (hp : part' ≤ Nat.pow 2 128) (hw : whole ≤ Nat.pow 2 128)
    (hpos : 0 < whole) : le (share part whole) (share part' whole) = true := by
  refine le_iff.2 ⟨_, _, rank_share (Nat.le_trans h hp) hw hpos, rank_share hp hw hpos, ?_⟩
  have counts := magnitude_mono Nat.one_pos Nat.one_pos
    (Nat.mul_le_mul_right 1 (Nat.mul_le_mul_right oneUnits h))
  have den := magnitude_count_pos hpos
  exact Int.ofNat_le.2 (magnitude_mono den den
    (Nat.mul_le_mul_right _ (Nat.mul_le_mul_right oneUnits counts)))

end LargeCounts

/-- A count added up over some series. -/
def total (count : Series → Nat) (series : List Series) : Nat :=
  series.foldr (fun s sum => count s + sum) 0

section Total

variable {part whole : Series → Nat} {series : List Series}

theorem total_le_total (h : ∀ s ∈ series, part s ≤ whole s) :
    total part series ≤ total whole series := by
  induction series with
  | nil => exact Nat.le_refl 0
  | cons s rest ih =>
      have first := h s List.mem_cons_self
      have later := ih fun t ht => h t (List.mem_cons_of_mem s ht)
      exact Nat.add_le_add first later

theorem le_total (count : Series → Nat) {s : Series} (h : s ∈ series) :
    count s ≤ total count series := by
  induction series with
  | nil => cases h
  | cons t rest ih =>
      rcases List.mem_cons.1 h with rfl | hmem
      · exact Nat.le_add_right _ _
      · exact Nat.le_trans (ih hmem) (Nat.le_add_left _ _)

theorem total_le_mul {count : Series → Nat} {bound : Nat} (h : ∀ s, count s ≤ bound)
    (series : List Series) : total count series ≤ series.length * bound := by
  induction series with
  | nil => exact Nat.zero_le _
  | cons s rest ih =>
      rw [total] at ih ⊢
      rw [List.foldr_cons, List.length_cons, Nat.succ_mul, Nat.add_comm]
      exact Nat.add_le_add ih (h s)

/-- If every quotient is above `a / b`, so is that of the sums. -/
theorem mul_total_lt {a b : Nat} (hne : series ≠ []) (h : ∀ s ∈ series, a * whole s < part s * b) :
    a * total whole series < total part series * b := by
  induction series with
  | nil => exact absurd rfl hne
  | cons s rest ih =>
      have first := h s List.mem_cons_self
      have later : a * total whole rest ≤ total part rest * b := by
        by_cases hrest : rest = []
        · subst hrest
          exact Nat.le_of_eq (Nat.zero_mul b).symm
        · exact Nat.le_of_lt (ih hrest fun t ht => h t (List.mem_cons_of_mem s ht))
      calc a * total whole (s :: rest)
          = a * whole s + a * total whole rest := Nat.mul_add _ _ _
        _ < part s * b + total part rest * b := Nat.add_lt_add_of_lt_of_le first later
        _ = total part (s :: rest) * b := (Nat.add_mul _ _ _).symm

/-- Among the quotients one is at most that of the sums. -/
theorem exists_mul_total_le (part whole : Series → Nat) (hne : series ≠ []) :
    ∃ s ∈ series, part s * total whole series ≤ total part series * whole s := by
  apply Classical.byContradiction
  intro none
  have above : ∀ s ∈ series, total part series * whole s < part s * total whole series := by
    intro s hs
    exact Nat.lt_of_not_le fun hle => none ⟨s, hs, hle⟩
  exact Nat.lt_irrefl _ (mul_total_lt hne above)

/-- A target that every share reaches is reached by the share of the sums. -/
theorem le_share_total {goal : Binary64} (hne : series ≠ [])
    (hpart : ∀ s ∈ series, part s ≤ whole s) (hpos : ∀ s ∈ series, 0 < whole s)
    (hmax : total whole series ≤ Nat.pow 2 53)
    (hgoal : ∀ s ∈ series, le goal (share (part s) (whole s)) = true) :
    le goal (share (total part series) (total whole series)) = true := by
  obtain ⟨s, hs, least⟩ := exists_mul_total_le part whole hne
  have bound := le_total whole hs
  refine Binary64.le_trans (hgoal s hs) ?_
  exact share_le_share (hpart s hs) (total_le_total hpart) (Nat.le_trans bound hmax) hmax
    (hpos s hs) (Nat.lt_of_lt_of_le (hpos s hs) bound) least

end Total

end LinkTrials.Evaluator
