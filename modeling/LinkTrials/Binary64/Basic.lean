/-!
Binary floating-point numbers of 64 bits as exact values.

Every finite number of the format is a whole multiple of `2 ^ -1074`, so a finite number is a sign
and that multiple, its `units`. Arithmetic is exact arithmetic on units followed by one rounding,
and comparison is comparison of integers. `fits_roundUnits` says that a rounded magnitude below
the bound of the format belongs to it.
-/
namespace LinkTrials

namespace Binary64

/-- The magnitude one, in units. -/
def oneUnits : Nat := Nat.pow 2 1074

/-- The first power of two that no finite number reaches, in units. -/
def overflowUnits : Nat := Nat.pow 2 2098

/-- The distance between neighbouring magnitudes in the binade of `n` units: a significand has 53
bits, and below `2 ^ 53` units every whole number of units is a magnitude. -/
def gap (n : Nat) : Nat := Nat.pow 2 (n.log2 - 52)

/-- `n` units are a finite magnitude of the format. -/
def Fits (n : Nat) : Prop := n < overflowUnits ∧ gap n ∣ n

instance (n : Nat) : Decidable (Fits n) := inferInstanceAs (Decidable (_ ∧ _))

/-- The whole number nearest to `num / den`; of two equally near ones the even one. -/
def divEven (num den : Nat) : Nat :=
  let quotient := num / den
  let remainder := num % den
  if 2 * remainder < den then quotient
  else if den < 2 * remainder then quotient + 1
  else quotient + quotient % 2

/-- The magnitude nearest to `num / den` units, a tie going to the even significand. The result
may be as large as `overflowUnits` or beyond; then it stands for an infinity. -/
def roundUnits (num den : Nat) : Nat :=
  let width := gap (num / den)
  divEven num (den * width) * width

theorem gap_pos (n : Nat) : 0 < gap n := Nat.two_pow_pos _

theorem divEven_le (num den : Nat) : divEven num den ≤ num / den + 1 := by
  unfold divEven
  dsimp only
  split
  · omega
  · split <;> omega

theorem lt_two_pow_gap (n : Nat) : n < Nat.pow 2 53 * gap n := by
  unfold gap
  rw [Nat.pow_eq, Nat.pow_eq, ← Nat.pow_add]
  by_cases h : n = 0
  · subst h; exact Nat.two_pow_pos _
  · refine (Nat.log2_lt h).1 ?_
    omega

/-- A significand of at most `2 ^ 53` scaled by a power of two is representable. -/
theorem gap_dvd_scaled {d e : Nat} (h : d ≤ Nat.pow 2 53) :
    gap (d * Nat.pow 2 e) ∣ d * Nat.pow 2 e := by
  unfold gap
  simp only [Nat.pow_eq] at h ⊢
  rcases Nat.lt_or_ge d (2 ^ 53) with hd | hd
  · -- The significand has at most 53 bits, so the gap divides the power of two.
    refine Nat.dvd_trans (Nat.pow_dvd_pow 2 ?_) (Nat.dvd_mul_left _ _)
    by_cases hz : d = 0
    · subst hz; simp
    · have hpos : d * 2 ^ e ≠ 0 := Nat.mul_ne_zero hz (Nat.ne_of_gt (Nat.two_pow_pos e))
      have hlt : d * 2 ^ e < 2 ^ (53 + e) := by
        rw [Nat.pow_add]
        exact Nat.mul_lt_mul_of_pos_right hd (Nat.two_pow_pos e)
      have := (Nat.log2_lt hpos).2 hlt
      omega
  · have : d = 2 ^ 53 := Nat.le_antisymm h hd
    subst this
    rw [← Nat.pow_add, Nat.log2_two_pow]
    exact Nat.pow_dvd_pow 2 (by omega)

theorem gap_dvd_roundUnits (num den : Nat) : gap (roundUnits num den) ∣ roundUnits num den := by
  unfold roundUnits
  dsimp only
  have hlt := lt_two_pow_gap (num / den)
  have hq : num / (den * gap (num / den)) < Nat.pow 2 53 := by
    rw [← Nat.div_div_eq_div_mul]
    exact (Nat.div_lt_iff_lt_mul (gap_pos _)).2 hlt
  have hd := divEven_le num (den * gap (num / den))
  exact gap_dvd_scaled (e := (num / den).log2 - 52) (by omega)

/-- A rounded magnitude below the bound is a magnitude of the format. -/
theorem fits_roundUnits {num den : Nat} (h : roundUnits num den < overflowUnits) :
    Fits (roundUnits num den) :=
  ⟨h, gap_dvd_roundUnits num den⟩

end Binary64

/-- A binary floating-point number of 64 bits. There is one `nan`. -/
inductive Binary64 where
  | nan
  | infinite (negative : Bool)
  | finite (negative : Bool) (units : Nat) (fits : Binary64.Fits units)
deriving DecidableEq

namespace Binary64

/-- The number nearest to `num / den` units, or an infinity beyond the finite numbers. -/
def ofUnits (negative : Bool) (num den : Nat) : Binary64 :=
  if h : roundUnits num den < overflowUnits then
    .finite negative (roundUnits num den) (fits_roundUnits h)
  else .infinite negative

/-- The number nearest to a whole number. -/
def ofNat (n : Nat) : Binary64 := ofUnits false (n * oneUnits) 1

instance (n : Nat) : OfNat Binary64 n := ⟨ofNat n⟩

instance : Inhabited Binary64 := ⟨ofNat 0⟩

def isNaN : Binary64 → Bool
  | .nan => true
  | _ => false

def isFinite : Binary64 → Bool
  | .finite .. => true
  | _ => false

def neg : Binary64 → Binary64
  | .nan => .nan
  | .infinite s => .infinite !s
  | .finite s n h => .finite (!s) n h

/-- The position of a number on the line of units; `nan` has none. -/
def rank : Binary64 → Option Int
  | .nan => none
  | .infinite s => some (if s then -overflowUnits else overflowUnits)
  | .finite s n _ => some (if s then -n else n)

/-- Strictly below. Never true of `nan`; the two zeros are at one place. -/
def lt (x y : Binary64) : Bool :=
  match x.rank, y.rank with
  | some a, some b => decide (a < b)
  | _, _ => false

/-- At most. Never true of `nan`. -/
def le (x y : Binary64) : Bool :=
  match x.rank, y.rank with
  | some a, some b => decide (a ≤ b)
  | _, _ => false

/-- The sum of two signed magnitudes. A sum of zero is negative only if both addends are. -/
def addUnits (s t : Bool) (a b : Nat) : Binary64 :=
  if s = t then ofUnits s (a + b) 1
  else if b < a then ofUnits s (a - b) 1
  else if a < b then ofUnits t (b - a) 1
  else ofUnits false 0 1

def add : Binary64 → Binary64 → Binary64
  | .nan, _ | _, .nan => .nan
  | .infinite s, .infinite t => if s = t then .infinite s else .nan
  | .infinite s, .finite .. => .infinite s
  | .finite .., .infinite t => .infinite t
  | .finite s a _, .finite t b _ => addUnits s t a b

def sub (x y : Binary64) : Binary64 := add x (neg y)

def mul : Binary64 → Binary64 → Binary64
  | .nan, _ | _, .nan => .nan
  | .infinite s, .infinite t => .infinite (s != t)
  | .infinite s, .finite t b _ => if b = 0 then .nan else .infinite (s != t)
  | .finite s a _, .infinite t => if a = 0 then .nan else .infinite (s != t)
  | .finite s a _, .finite t b _ => ofUnits (s != t) (a * b) oneUnits

def div : Binary64 → Binary64 → Binary64
  | .nan, _ | _, .nan => .nan
  | .infinite _, .infinite _ => .nan
  | .infinite s, .finite t _ _ => .infinite (s != t)
  | .finite s _ _, .infinite t => ofUnits (s != t) 0 1
  | .finite s a _, .finite t b _ =>
    if b = 0 then (if a = 0 then .nan else .infinite (s != t))
    else ofUnits (s != t) (a * oneUnits) b

instance : Add Binary64 := ⟨add⟩
instance : Sub Binary64 := ⟨sub⟩
instance : Mul Binary64 := ⟨mul⟩
instance : Div Binary64 := ⟨div⟩
instance : Neg Binary64 := ⟨neg⟩

/-- `x` moved to the nearer end of the interval from `low` to `high` if it lies outside; `nan`
stays. -/
def clamp (low high x : Binary64) : Binary64 :=
  let raised := if lt x low then low else x
  if lt high raised then high else raised

/-- The largest unsigned number of 64 bits. -/
def maxIndex : Nat := UInt64.size - 1

/-- The largest whole number at most `x`, as an index: `nan` and negative numbers give 0. -/
def floorIndex : Binary64 → Nat
  | .nan => 0
  | .infinite s => if s then 0 else maxIndex
  | .finite s n _ => if s then 0 else min (n / oneUnits) maxIndex

/-- The least whole number at least `x`, as an index: `nan` and negative numbers give 0. -/
def ceilIndex : Binary64 → Nat
  | .nan => 0
  | .infinite s => if s then 0 else maxIndex
  | .finite s n _ => if s then 0 else min ((n + (oneUnits - 1)) / oneUnits) maxIndex

/-- The number nearest to the decimal `m * 10 ^ e`. Decimals far beyond the range of the format
are settled by their length, without computing the power. -/
def ofDecimal (negative : Bool) (m : Nat) (e : Int) : Binary64 :=
  let length : Int := (Nat.toDigits 10 m).length
  if m = 0 ∨ length + e < -400 then ofUnits negative 0 1
  else if 400 < length + e then .infinite negative
  else if 0 ≤ e then ofUnits negative (m * Nat.pow 10 e.toNat * oneUnits) 1
  else ofUnits negative (m * oneUnits) (Nat.pow 10 (-e).toNat)

end Binary64

end LinkTrials
