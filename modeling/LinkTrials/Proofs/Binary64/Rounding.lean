import LinkTrials.Binary64.Basic

/-!
Rounding of magnitudes respects order.

A quotient below a magnitude of the format is not rounded beyond it, and neither is one above it;
so a magnitude of the format is its own rounding. Two quotients whose neighbours lie equally far
apart are rounded on one grid, any others have a power of two between them. Hence rounding is
monotone. No power of two is ever computed.
-/
namespace LinkTrials.Binary64

theorem le_divEven (num den : Nat) : num / den ≤ divEven num den := by
  rw [divEven]
  split
  · exact Nat.le_refl _
  · split <;> omega

theorem divEven_le_of_le {num den k : Nat} (hd : 0 < den) (h : num ≤ k * den) :
    divEven num den ≤ k := by
  have hq : num / den ≤ k := Nat.div_le_of_le_mul (by rwa [Nat.mul_comm])
  rcases Nat.lt_or_ge (num / den) k with hlt | hge
  · exact Nat.le_trans (divEven_le num den) hlt
  · -- The quotient is `k`, so nothing remains that could be rounded up.
    have hk : num / den = k := Nat.le_antisymm hq hge
    have hr : num % den = 0 := by
      have := Nat.div_add_mod num den
      rw [hk, Nat.mul_comm] at this
      omega
    simp [divEven, hr, hd, hk]

/-- Of equal whole parts, the one with the larger rest is not rounded lower. -/
theorem divEven_le_divEven_of_rest {num den num' den' : Nat}
    (hq : num / den = num' / den') (hr : num % den * den' ≤ num' % den' * den)
    (hd : 0 < den) (hd' : 0 < den') : divEven num den ≤ divEven num' den' := by
  have below : 2 * (num' % den') < den' → 2 * (num % den) < den := by
    intro h
    have scaled := Nat.mul_lt_mul_of_pos_right h hd
    refine Nat.lt_of_mul_lt_mul_right (a := den') ?_
    rw [Nat.mul_assoc, Nat.mul_comm den den']
    rw [Nat.mul_assoc] at scaled
    omega
  have within : 2 * (num' % den') ≤ den' → 2 * (num % den) ≤ den := by
    intro h
    have scaled := Nat.mul_le_mul_right den h
    refine Nat.le_of_mul_le_mul_right (c := den') ?_ hd'
    rw [Nat.mul_assoc, Nat.mul_comm den den']
    rw [Nat.mul_assoc] at scaled
    omega
  rw [divEven, divEven, hq]
  repeat' split
  all_goals omega

theorem div_le_div_of_cross {num den num' den' : Nat} (hd : 0 < den) (hd' : 0 < den')
    (h : num * den' ≤ num' * den) : num / den ≤ num' / den' := by
  rw [Nat.le_div_iff_mul_le hd']
  refine Nat.le_of_mul_le_mul_right (c := den) ?_ hd
  calc num / den * den' * den
      = num / den * den * den' := Nat.mul_right_comm _ _ _
    _ ≤ num * den' := Nat.mul_le_mul_right _ (Nat.div_mul_le_self num den)
    _ ≤ num' * den := h

theorem divEven_mono {num den num' den' : Nat} (hd : 0 < den) (hd' : 0 < den')
    (h : num * den' ≤ num' * den) : divEven num den ≤ divEven num' den' := by
  rcases Nat.lt_or_eq_of_le (div_le_div_of_cross hd hd' h) with hlt | heq
  · exact Nat.le_trans (divEven_le num den) (Nat.le_trans hlt (le_divEven num' den'))
  · refine divEven_le_divEven_of_rest heq ?_ hd hd'
    have expand : num * den' = num / den * den * den' + num % den * den' := by
      rw [← Nat.add_mul, Nat.div_add_mod']
    have expand' : num' * den = num' / den' * den' * den + num' % den' * den := by
      rw [← Nat.add_mul, Nat.div_add_mod']
    rw [expand, expand', heq, Nat.mul_right_comm] at h
    exact Nat.le_of_add_le_add_left h

theorem log2_le_log2 {a b : Nat} (h : a ≤ b) : a.log2 ≤ b.log2 := by
  by_cases ha : a = 0
  · subst ha
    rw [Nat.log2_zero]
    exact Nat.zero_le _
  · have hb : b ≠ 0 := by omega
    exact (Nat.le_log2 hb).2 (Nat.le_trans (Nat.log2_self_le ha) h)

theorem gap_dvd_gap {a b : Nat} (h : a ≤ b) : gap a ∣ gap b := by
  have := log2_le_log2 h
  exact Nat.pow_dvd_pow 2 (by omega)

/-- The least magnitude of the binade of `n`. -/
def floorPower (n : Nat) : Nat := Nat.pow 2 n.log2

theorem gap_floorPower_dvd (n : Nat) : gap (floorPower n) ∣ floorPower n := by
  have h := gap_dvd_scaled (d := 1) (e := n.log2) (by decide)
  rwa [Nat.one_mul] at h

theorem gap_dvd_floorPower (n : Nat) : gap n ∣ floorPower n := Nat.pow_dvd_pow 2 (by omega)

theorem floorPower_le {n : Nat} (h : n ≠ 0) : floorPower n ≤ n := Nat.log2_self_le h

theorem lt_floorPower {a b : Nat} (h : a.log2 < b.log2) : a < floorPower b := by
  by_cases ha : a = 0
  · subst ha
    exact Nat.two_pow_pos _
  · exact (Nat.log2_lt ha).1 h

/-- Either two magnitudes have neighbours equally far away, or a power of two lies between them. -/
theorem gap_eq_or_lt_floorPower {a b : Nat} (h : a ≤ b) :
    gap a = gap b ∨ a < floorPower b ∧ b ≠ 0 := by
  rcases Nat.lt_or_eq_of_le (log2_le_log2 h) with hlt | heq
  · refine .inr ⟨lt_floorPower hlt, ?_⟩
    rintro rfl
    rw [Nat.log2_zero] at hlt
    omega
  · exact .inl (by rw [gap, gap, heq])

/-- A quotient at most a magnitude of the format is not rounded above it. -/
theorem roundUnits_le {num den m : Nat} (hd : 0 < den) (hm : gap m ∣ m) (h : num ≤ m * den) :
    roundUnits num den ≤ m := by
  have hq : num / den ≤ m := Nat.div_le_of_le_mul (by rwa [Nat.mul_comm])
  obtain ⟨c, hc⟩ := Nat.dvd_trans (gap_dvd_gap hq) hm
  have steps : divEven num (den * gap (num / den)) ≤ c := by
    refine divEven_le_of_le (Nat.mul_pos hd (gap_pos _)) ?_
    rwa [Nat.mul_comm den, ← Nat.mul_assoc, Nat.mul_comm c, ← hc]
  calc roundUnits num den
      ≤ c * gap (num / den) := Nat.mul_le_mul_right _ steps
    _ = m := by rw [Nat.mul_comm, ← hc]

theorem le_roundUnits_of_dvd {num den m : Nat} (hm : gap (num / den) ∣ m) (h : m ≤ num / den) :
    m ≤ roundUnits num den := by
  obtain ⟨c, hc⟩ := hm
  have steps : c ≤ divEven num (den * gap (num / den)) := by
    refine Nat.le_trans ?_ (le_divEven _ _)
    rw [← Nat.div_div_eq_div_mul, Nat.le_div_iff_mul_le (gap_pos _), Nat.mul_comm, ← hc]
    exact h
  calc m
      = c * gap (num / den) := by rw [Nat.mul_comm, ← hc]
    _ ≤ roundUnits num den := Nat.mul_le_mul_right _ steps

theorem floorPower_le_roundUnits {num den : Nat} (h : num / den ≠ 0) :
    floorPower (num / den) ≤ roundUnits num den :=
  le_roundUnits_of_dvd (gap_dvd_floorPower _) (floorPower_le h)

/-- A quotient at least a magnitude of the format is not rounded below it. -/
theorem le_roundUnits {num den m : Nat} (hd : 0 < den) (hm : gap m ∣ m) (h : m * den ≤ num) :
    m ≤ roundUnits num den := by
  have hq : m ≤ num / den := (Nat.le_div_iff_mul_le hd).2 h
  rcases gap_eq_or_lt_floorPower hq with heq | ⟨hlt, hz⟩
  · exact le_roundUnits_of_dvd (heq ▸ hm) hq
  · exact Nat.le_trans (Nat.le_of_lt hlt) (floorPower_le_roundUnits hz)

/-- A magnitude of the format is its own rounding. -/
theorem roundUnits_exact {m den : Nat} (hd : 0 < den) (hm : gap m ∣ m) :
    roundUnits (m * den) den = m :=
  Nat.le_antisymm (roundUnits_le hd hm (Nat.le_refl _)) (le_roundUnits hd hm (Nat.le_refl _))

theorem roundUnits_mono {num den num' den' : Nat} (hd : 0 < den) (hd' : 0 < den')
    (h : num * den' ≤ num' * den) : roundUnits num den ≤ roundUnits num' den' := by
  rcases gap_eq_or_lt_floorPower (div_le_div_of_cross hd hd' h) with heq | ⟨hlt, hz⟩
  · rw [roundUnits, roundUnits, heq]
    have hw := gap_pos (num' / den')
    generalize gap (num' / den') = width at hw
    refine Nat.mul_le_mul_right _ (divEven_mono (Nat.mul_pos hd hw) (Nat.mul_pos hd' hw) ?_)
    rw [← Nat.mul_assoc, ← Nat.mul_assoc]
    exact Nat.mul_le_mul_right _ h
  · have within : num ≤ floorPower (num' / den') * den :=
      Nat.le_of_lt ((Nat.div_lt_iff_lt_mul hd).1 hlt)
    calc roundUnits num den
        ≤ floorPower (num' / den') := roundUnits_le hd (gap_floorPower_dvd _) within
      _ ≤ roundUnits num' den' := floorPower_le_roundUnits hz

end LinkTrials.Binary64
