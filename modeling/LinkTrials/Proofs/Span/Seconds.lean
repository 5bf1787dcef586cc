import LinkTrials.Span
import LinkTrials.Proofs.Binary64.Arithmetic
import LinkTrials.Proofs.Decimal.Interval

/-!
Spans as numbers of seconds.

The number of a span is rounded in up to three places: its whole seconds, its nanoseconds as a fraction of
a second, and their sum. Below `2 ^ 23` seconds all this moves it by less than half a nanosecond, so the
nearest nanosecond is the span again. From there on numbers are further apart than nanoseconds, and the
number of the nearest nanosecond is the number from which it was taken.
-/
namespace LinkTrials

namespace Binary64

variable {k n t x : Nat}

theorem gap_le_pow (h : x < Nat.pow 2 (k + 53)) : gap x ≤ Nat.pow 2 k := by
  refine Nat.pow_le_pow_right Nat.two_pos ?_
  by_cases hz : x = 0
  · subst hz
    rw [Nat.log2_zero]
    omega
  · have log := (Nat.log2_lt hz).2 h
    omega

theorem pow_le_gap (h : Nat.pow 2 (k + 52) ≤ x) : Nat.pow 2 k ≤ gap x := by
  have least := gap_le_gap h
  have wider : Nat.pow 2 (k + 52) < Nat.pow 2 (k + 53) :=
    Nat.pow_lt_pow_right (by decide) (Nat.lt_succ_self _)
  rwa [gap_of_between (Nat.le_refl _) wider] at least

/-- What is less than half a gap away from a magnitude is rounded to it, if the gap is no wider than those
at both. -/
theorem roundUnits_eq_of_near (fits : gap n ∣ n) (wide : t ≤ gap n) (wide' : t ≤ gap x)
    (below : 2 * n < 2 * x + t) (above : 2 * x < 2 * n + t) : roundUnits x 1 = n := by
  have steps : gap x ∣ n := by
    rcases Nat.le_total x n with le | ge
    · exact Nat.dvd_trans (gap_dvd_gap le) fits
    · rcases gap_eq_or_lt_floorPower ge with same | ⟨lt, hz⟩
      · rwa [← same]
      · -- The next power of two is a whole gap away.
        have room := Nat.dvd_sub (Nat.dvd_trans (gap_dvd_gap ge) (gap_dvd_floorPower x)) fits
        have step := Nat.le_of_dvd (Nat.sub_pos_of_lt lt) room
        have reach := floorPower_le hz
        omega
  obtain ⟨c, hc⟩ := steps
  rw [Nat.mul_comm] at hc
  rw [roundUnits, Nat.div_one, Nat.one_mul, divEven_eq (gap_pos x) (c := c), ← hc]
  · exact .inl (by omega)
  · exact .inl (by omega)

/-- One, as a power of two with room for all digits of a number behind the point. -/
theorem exists_oneUnits : ∃ e, oneUnits = Nat.pow 2 (e + 53) := by
  obtain ⟨k, hk, one⟩ := oneUnits_eq_large_pow
  obtain ⟨e, rfl⟩ := Nat.exists_eq_add_of_le' hk
  exact ⟨e, one⟩

theorem pow_add_eq (e i : Nat) : Nat.pow 2 (e + i) = Nat.pow 2 i * Nat.pow 2 e := by
  simp only [Nat.pow_eq]
  rw [Nat.pow_add, Nat.mul_comm]

end Binary64

namespace Span

open Binary64

/-! ### The number of a span in units -/

/-- A number of nanoseconds as a fraction of a second. -/
def nanoUnits (n : Nat) : Nat := roundUnits (n * oneUnits) perSecond

/-- The seconds of a span and its nanoseconds. -/
def sumUnits (d : Span) : Nat := roundUnits (d.secs * oneUnits) 1 + nanoUnits d.nanos

theorem perSecond_pos : 0 < perSecond := by decide

theorem perSecond_le : perSecond ≤ Nat.pow 2 53 := by decide

theorem upTo_nanos_div (d : Span) : UpTo oneUnits (ofNat d.nanos / ofNat perSecond) := by
  refine UpTo.div ?_ gap_dvd_oneUnits ?_ perSecond_pos perSecond_le
  · obtain ⟨a, ha, le⟩ := upTo_ofNat (Nat.le_trans (Nat.le_of_lt d.nanos_lt) perSecond_le)
    refine ⟨a, ha, Nat.le_trans le ?_⟩
    rw [Nat.mul_comm]
    exact Nat.mul_le_mul_left _ (Nat.le_of_lt d.nanos_lt)
  · rw [Nat.mul_comm]
    exact whole_lt_overflowUnits perSecond_le

/-- A span is at most as many seconds as there are indices, and one more. -/
theorem isAmount_toSeconds (d : Span) : IsAmount d.toSeconds := by
  have secs : UpTo (Nat.pow 2 64 * oneUnits) (ofNat d.secs) :=
    upTo_ofNat_power (Nat.le_of_lt d.secs_lt)
  have limit := power_lt_overflowUnits (e := 65) (by decide)
  refine (secs.add (upTo_nanos_div d) (gap_dvd_power 65) ?_ limit).isAmount limit
  generalize oneUnits = one
  simp only [Nat.pow_eq]
  omega

theorem ofNat_secs (d : Span) :
    ∃ fits, ofNat d.secs = .finite false (roundUnits (d.secs * oneUnits) 1) fits := by
  have secs : UpTo (Nat.pow 2 64 * oneUnits) (ofNat d.secs) :=
    upTo_ofNat_power (Nat.le_of_lt d.secs_lt)
  exact ofUnits_eq_finite (secs.isAmount (power_lt_overflowUnits (by decide))).isFinite

theorem ofNat_nanos_div (d : Span) :
    ∃ fits, ofNat d.nanos / ofNat perSecond = .finite false (nanoUnits d.nanos) fits := by
  have finite := ((upTo_nanos_div d).isAmount oneUnits_lt_overflowUnits).isFinite
  obtain ⟨fitsN, nanos⟩ := ofNat_eq_finite (Nat.le_trans (Nat.le_of_lt d.nanos_lt) perSecond_le)
  obtain ⟨fitsS, second⟩ := ofNat_eq_finite perSecond_le
  have nonzero := Nat.ne_of_gt (Nat.mul_pos perSecond_pos oneUnits_pos)
  have quotient : ofNat d.nanos / ofNat perSecond = ofUnits false (d.nanos * oneUnits) perSecond := by
    rw [nanos, second, finite_div_finite false false fitsN fitsS nonzero]
    exact ofUnits_mul_mul false _ perSecond_pos oneUnits_pos
  rw [quotient] at finite ⊢
  exact ofUnits_eq_finite finite

/-- The number of a span is the rounded sum of its rounded parts. -/
theorem toSeconds_eq (d : Span) :
    ∃ fits, d.toSeconds = .finite false (roundUnits (sumUnits d) 1) fits := by
  obtain ⟨fitsS, secs⟩ := ofNat_secs d
  obtain ⟨fitsN, nanos⟩ := ofNat_nanos_div d
  have sum : d.toSeconds = ofUnits false (sumUnits d) 1 := by
    rw [toSeconds, secs, nanos, finite_add_finite, addUnits, if_pos rfl, sumUnits]
  have finite := (isAmount_toSeconds d).isFinite
  rw [sum] at finite ⊢
  exact ofUnits_eq_finite finite

theorem div_perSecond (d : Span) : d.toNanos / perSecond = d.secs ∧ d.toNanos % perSecond = d.nanos := by
  have nanos := d.nanos_lt
  simp only [toNanos, perSecond]
  omega

/-- A finite number that is not negative is read by its nanoseconds. -/
theorem ofSeconds_finite {n : Nat} (fits : Fits n) {d : Span}
    (h : divEven (n * perSecond) oneUnits = d.toNanos) :
    ofSeconds (.finite false n fits) = .ok d := by
  obtain ⟨div, mod⟩ := div_perSecond d
  have parts : ofParts? 0 d.toNanos = some d := by
    simp only [ofParts?, div, mod, Nat.zero_add, d.secs_lt, dite_true]
  rw [ofSeconds, Bool.false_and, if_neg Bool.false_ne_true, h, parts]

/-! ### How far the roundings lead -/

/-- Up to `2 ^ 53` whole seconds are not rounded. -/
theorem sumUnits_eq {d : Span} (few : d.secs ≤ Nat.pow 2 53) :
    sumUnits d = d.secs * oneUnits + nanoUnits d.nanos := by
  have whole : roundUnits (d.secs * oneUnits * 1) 1 = d.secs * oneUnits :=
    roundUnits_exact Nat.one_pos (gap_dvd_whole few)
  rw [Nat.mul_one] at whole
  rw [sumUnits, whole]

theorem toNanos_mul_oneUnits (d : Span) :
    d.toNanos * oneUnits = d.secs * oneUnits * perSecond + d.nanos * oneUnits := by
  rw [toNanos, Nat.add_mul, Nat.mul_right_comm]

section Scale

variable {e : Nat}

/-- The nanoseconds are rounded by at most a fraction of their digits behind the point. -/
theorem nanoUnits_near (one : oneUnits = Nat.pow 2 (e + 53)) {n : Nat} (h : n < perSecond) :
    2 * (nanoUnits n * perSecond) ≤ 2 * (n * oneUnits) + perSecond * Nat.pow 2 e ∧
      2 * (n * oneUnits) ≤ 2 * (nanoUnits n * perSecond) + perSecond * Nat.pow 2 e := by
  have below : n * oneUnits / perSecond < Nat.pow 2 (e + 53) := by
    rw [← one, Nat.div_lt_iff_lt_mul perSecond_pos, Nat.mul_comm oneUnits]
    exact Nat.mul_lt_mul_of_pos_right h oneUnits_pos
  have narrow := Nat.mul_le_mul_left perSecond (gap_le_pow below)
  have upper := roundUnits_mul_le (n * oneUnits) perSecond_pos
  have lower := le_roundUnits_mul (n * oneUnits) perSecond_pos
  rw [nanoUnits]
  omega

theorem nanoUnits_lt (one : oneUnits = Nat.pow 2 (e + 53)) {n : Nat} (h : n < perSecond) :
    nanoUnits n < oneUnits := by
  have near := (nanoUnits_near one h).1
  have room : (n + 1) * oneUnits ≤ perSecond * oneUnits := Nat.mul_le_mul_right _ h
  have step := Nat.two_pow_pos e
  rw [pow_add_eq] at one
  refine Nat.lt_of_mul_lt_mul_right (a := perSecond) ?_
  rw [Nat.add_one_mul] at room
  rw [Nat.mul_comm oneUnits]
  rw [one] at near room ⊢
  generalize n * (Nat.pow 2 53 * Nat.pow 2 e) = units at near room
  generalize nanoUnits n = rounded at near ⊢
  simp only [Nat.pow_eq, perSecond] at *
  omega

theorem sumUnits_near (one : oneUnits = Nat.pow 2 (e + 53)) {d : Span}
    (few : d.secs ≤ Nat.pow 2 53) :
    2 * (sumUnits d * perSecond) ≤ 2 * (d.toNanos * oneUnits) + perSecond * Nat.pow 2 e ∧
      2 * (d.toNanos * oneUnits) ≤ 2 * (sumUnits d * perSecond) + perSecond * Nat.pow 2 e := by
  obtain ⟨above, below⟩ := nanoUnits_near one d.nanos_lt
  rw [sumUnits_eq few, toNanos_mul_oneUnits, Nat.add_mul]
  omega

theorem gap_sumUnits_le (one : oneUnits = Nat.pow 2 (e + 53)) {d : Span}
    (short : d.secs < Nat.pow 2 23) : gap (sumUnits d) ≤ Nat.pow 2 (e + 23) := by
  refine gap_le_pow ?_
  have room : (d.secs + 1) * oneUnits ≤ Nat.pow 2 23 * oneUnits := Nat.mul_le_mul_right _ short
  have nanos := nanoUnits_lt one d.nanos_lt
  have limit : Nat.pow 2 (e + 23 + 53) = Nat.pow 2 23 * oneUnits := by
    rw [one, ← pow_add_eq]
  rw [Nat.add_one_mul] at room
  rw [limit, sumUnits_eq (Nat.le_trans (Nat.le_of_lt short) (by decide))]
  omega

theorem le_gap_of_long (one : oneUnits = Nat.pow 2 (e + 53)) {n : Nat}
    (long : Nat.pow 2 23 * oneUnits ≤ n) : Nat.pow 2 (e + 24) ≤ gap n := by
  have limit : Nat.pow 2 (e + 24 + 52) = Nat.pow 2 23 * oneUnits := by
    rw [one, ← pow_add_eq]
  exact pow_le_gap (limit ▸ long)

theorem le_secs_of_near {n m : Nat} {d : Span} (long : m * oneUnits ≤ n)
    (near : divEven (n * perSecond) oneUnits = d.toNanos) : m ≤ d.secs := by
  rw [← (div_perSecond d).1, Nat.le_div_iff_mul_le perSecond_pos, ← near]
  refine Nat.le_trans ?_ (le_divEven _ _)
  rw [Nat.le_div_iff_mul_le oneUnits_pos, Nat.mul_right_comm]
  exact Nat.mul_le_mul_right _ long

/-- Below `2 ^ 23` seconds the sum is rounded by less than the nanoseconds can bear. -/
theorem divEven_sumUnits {d : Span} (short : d.secs < Nat.pow 2 23) :
    divEven (roundUnits (sumUnits d) 1 * perSecond) oneUnits = d.toNanos := by
  obtain ⟨e, one⟩ := exists_oneUnits
  obtain ⟨above, below⟩ := sumUnits_near one (Nat.le_trans (Nat.le_of_lt short) (by decide))
  have narrow := gap_sumUnits_le one short
  have upper := roundUnits_mul_le (sumUnits d) Nat.one_pos
  have lower := le_roundUnits_mul (sumUnits d) Nat.one_pos
  have step := Nat.two_pow_pos e
  rw [Nat.div_one, Nat.mul_one, Nat.one_mul] at upper lower
  rw [pow_add_eq] at narrow one
  -- Both roundings together stay below half a nanosecond.
  refine divEven_eq oneUnits_pos (.inl ?_) (.inl ?_)
  all_goals
    generalize d.toNanos * oneUnits = nanos at *
    simp only [Nat.pow_eq, perSecond] at *
    omega

/-- From `2 ^ 23` seconds on a number is the number of its nearest nanosecond. -/
theorem roundUnits_sumUnits {n : Nat} {d : Span} (fits : gap n ∣ n)
    (long : Nat.pow 2 23 * oneUnits ≤ n) (few : d.secs ≤ Nat.pow 2 53)
    (near : divEven (n * perSecond) oneUnits = d.toNanos) : roundUnits (sumUnits d) 1 = n := by
  obtain ⟨e, one⟩ := exists_oneUnits
  have long' : Nat.pow 2 23 * oneUnits ≤ sumUnits d := by
    rw [sumUnits_eq few]
    exact Nat.le_trans (Nat.mul_le_mul_right _ (le_secs_of_near long near)) (Nat.le_add_right _ _)
  obtain ⟨above, below⟩ := sumUnits_near one few
  have upper := divEven_mul_le (n * perSecond) oneUnits_pos
  have lower := le_divEven_mul (n * perSecond) oneUnits_pos
  have step := Nat.two_pow_pos e
  rw [near] at upper lower
  -- The sum is away from the nanosecond by its own rounding, and the number by that of the reader.
  refine roundUnits_eq_of_near fits (le_gap_of_long one long) (le_gap_of_long one long') ?_ ?_
  all_goals
    rw [pow_add_eq] at one ⊢
    generalize d.toNanos * oneUnits = nanos at *
    simp only [Nat.pow_eq, perSecond] at *
    omega

end Scale

/-! ### There and back -/

theorem ofSeconds_toSeconds {d : Span} (short : d.secs < Nat.pow 2 23) :
    ofSeconds d.toSeconds = .ok d := by
  obtain ⟨fits, number⟩ := toSeconds_eq d
  rw [number]
  exact ofSeconds_finite fits (divEven_sumUnits short)

/-- A number of no more seconds than there are indices is read as its nearest nanosecond. -/
theorem exists_ofSeconds {n m : Nat} (fits : Fits n) (few : m < 18446744073709551616)
    (h : n ≤ m * oneUnits) :
    ∃ d, ofSeconds (.finite false n fits) = .ok d ∧ d.secs ≤ m ∧
      divEven (n * perSecond) oneUnits = d.toNanos := by
  have most : divEven (n * perSecond) oneUnits ≤ m * perSecond := by
    refine divEven_le_of_le oneUnits_pos ?_
    rw [Nat.mul_right_comm]
    exact Nat.mul_le_mul_right _ h
  generalize nanos : divEven (n * perSecond) oneUnits = k at most
  have secs : k / perSecond ≤ m := Nat.div_le_of_le_mul (by rwa [Nat.mul_comm])
  let d : Span := ⟨k / perSecond, k % perSecond, Nat.lt_of_le_of_lt secs few, Nat.mod_lt _ perSecond_pos⟩
  have whole : k = d.toNanos := (Nat.div_add_mod' k perSecond).symm
  exact ⟨d, ofSeconds_finite fits (nanos.trans whole), secs, whole⟩

/-- Rounding does not lead below whole seconds. -/
theorem le_roundUnits_sumUnits {d : Span} {m : Nat} (few : m ≤ Nat.pow 2 53) (h : m ≤ d.secs) :
    m * oneUnits ≤ roundUnits (sumUnits d) 1 := by
  have hm := gap_dvd_whole few
  have secs : m * oneUnits ≤ roundUnits (d.secs * oneUnits) 1 := by
    refine le_roundUnits Nat.one_pos hm ?_
    rw [Nat.mul_one]
    exact Nat.mul_le_mul_right _ h
  refine le_roundUnits Nat.one_pos hm ?_
  rw [Nat.mul_one, sumUnits]
  exact Nat.le_trans secs (Nat.le_add_right _ _)

/-- A longer span has the number of the span that is read from its own. -/
theorem exists_ofSeconds_toSeconds {d : Span} (long : Nat.pow 2 23 ≤ d.secs) {m : Nat}
    (few : m ≤ Nat.pow 2 53) (below : roundUnits (sumUnits d) 1 ≤ m * oneUnits) :
    ∃ d', ofSeconds d.toSeconds = .ok d' ∧ d'.toSeconds = d.toSeconds := by
  obtain ⟨fits, number⟩ := toSeconds_eq d
  have limit : Nat.pow 2 53 < 18446744073709551616 := by decide
  obtain ⟨d', read, secs, nanos⟩ := exists_ofSeconds fits (Nat.lt_of_le_of_lt few limit) below
  have least := le_roundUnits_sumUnits (by decide) long
  have same := roundUnits_sumUnits fits.2 least (Nat.le_trans secs few) nanos
  obtain ⟨fits', number'⟩ := toSeconds_eq d'
  refine ⟨d', by rw [number, read], ?_⟩
  rw [number, number']
  simp only [same]

end Span

end LinkTrials
