import LinkTrials.Binary64.Basic

/-!
The decimal with the fewest digits that identifies a finite magnitude.

`readsBack` says which decimals lie among the reals that round to a magnitude: from halfway to the
neighbour below to halfway to the neighbour above, the ends included exactly when the significand
is even. `shortest` searches the decimal grids from one digit on and takes the first grid that has
a point there.
-/
namespace LinkTrials

/-- The decimal `digits * 10 ^ exponent`. -/
structure Decimal where
  digits : Nat
  exponent : Int
deriving DecidableEq, Repr

namespace Decimal

open Binary64 (oneUnits gap)

/-- Which of two equally near decimals is taken. -/
inductive Tie where
  | even
  | up
deriving DecidableEq, Repr

/-- The decimal compared with `quarters / 4` units. -/
def compareQuarters (d : Decimal) (quarters : Nat) : Ordering :=
  compare (4 * (d.digits * Nat.pow 10 d.exponent.toNat) * oneUnits)
    (quarters * Nat.pow 10 (-d.exponent).toNat)

/-- Lower end of the reals that round to `n` units, in quarter units. Below a power of two the
neighbour is half as far away as above it. -/
def lowerQuarters (n : Nat) : Nat :=
  if n = Nat.pow 2 52 * gap n ∧ 1 < gap n then 4 * n - gap n else 4 * n - 2 * gap n

/-- Upper end of the reals that round to `n` units, in quarter units. -/
def upperQuarters (n : Nat) : Nat := 4 * n + 2 * gap n

/-- The decimal rounds to the magnitude of `n` units. -/
def readsBack (n : Nat) (d : Decimal) : Bool :=
  let even := n / gap n % 2 == 0
  let low := d.compareQuarters (lowerQuarters n)
  let high := d.compareQuarters (upperQuarters n)
  (low == .gt || (even && low == .eq)) && (high == .lt || (even && high == .eq))

def length (n : Nat) : Nat := (Nat.toDigits 10 n).length

/-- The exponent `p` with `10 ^ (p - 1) ≤ n units < 10 ^ p`, for a positive `n`. -/
def magnitude (n : Nat) : Int :=
  if oneUnits ≤ n then length (n / oneUnits)
  else 1 - (length ((oneUnits - 1) / n) : Int)

/-- The two neighbours of `n` units on the grid of step `10 ^ e`, the lower one rounded down. -/
def floorOnGrid (n : Nat) (e : Int) : Nat :=
  n * Nat.pow 10 (-e).toNat / (oneUnits * Nat.pow 10 e.toNat)

/-- Of two neighbours on a grid around `n` units the upper one is taken: it is nearer, or as near and
taken by `tie`. -/
def upperTaken (tie : Tie) (n below : Nat) (e : Int) : Bool :=
  match compareQuarters ⟨2 * below + 1, e⟩ (8 * n) with
  | .gt => false
  | .lt => true
  | .eq => match tie with
    | .up => true
    | .even => below % 2 != 0

/-- The point of the grid of step `10 ^ e` that reads back as `n` units, if there is one; of two
the nearer, and of two equally near ones as `tie` says. -/
def onGrid? (tie : Tie) (n : Nat) (e : Int) : Option Decimal :=
  let below := floorOnGrid n e
  let low : Decimal := ⟨below, e⟩
  let high : Decimal := ⟨below + 1, e⟩
  if readsBack n low then
    some (if readsBack n high && upperTaken tie n below e then high else low)
  else if readsBack n high then some high
  else none

/-- The exact decimal value of `n` units. -/
def exact (n : Nat) : Decimal := ⟨n * Nat.pow 5 1074, -1074⟩

/-- The same value without trailing zeros; `limit` bounds how many are dropped. -/
def strip : Nat → Decimal → Decimal
  | 0, d => d
  | limit + 1, d =>
    if d.digits % 10 = 0 ∧ d.digits ≠ 0 then strip limit ⟨d.digits / 10, d.exponent + 1⟩ else d

/-- The shortest decimal that reads back as `n` units, for a positive `n`. Seventeen digits always
suffice; the exact value stands in for a search that finds nothing. -/
def shortest (tie : Tie) (n : Nat) : Decimal :=
  let top := magnitude n
  -- Coarse grids first, so that the first hit has the fewest digits.
  let found := (List.range 17).findSome? fun k => onGrid? tie n (top - (k + 1 : Nat))
  found.elim (exact n) (strip 17)

end Decimal

end LinkTrials
