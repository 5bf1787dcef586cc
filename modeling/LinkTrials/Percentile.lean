import LinkTrials.Binary64.Basic

/-!
Percentiles of samples, interpolated between the two nearest ranks.

Samples are sorted by insertion. Samples that do not compare, as `nan` does not with anything, keep
their order.
-/
namespace LinkTrials

namespace Ranked

/-- A sample put into a list that descends from the left: it moves right past every sample above it,
up to the first that is not. -/
def insert (x : Binary64) : List Binary64 → List Binary64
  | [] => [x]
  | y :: rest => if Binary64.lt x y then y :: insert x rest else x :: y :: rest

/-- The samples in descending order, of equal ones the last first. -/
def descending (xs : List Binary64) : List Binary64 := xs.foldl (fun sorted x => insert x sorted) []

/-- The samples in ascending order, equal ones in their own order. -/
def ascending (xs : List Binary64) : List Binary64 := (descending xs).reverse

end Ranked

/-- The place of a percentile among `count` sorted samples, where the first has place zero. -/
def percentilePlace (count : Nat) (p : Binary64) : Binary64 :=
  Binary64.clamp 0 100 p / 100 * (Binary64.ofNat count - 1)

/-- The value at a place of a sorted list; between two samples it is interpolated. -/
def valueAt (sorted : Array Binary64) (place : Binary64) : Option Binary64 :=
  let lower := place.floorIndex
  let upper := place.ceilIndex
  if lower = upper then sorted[lower]?
  else
    match sorted[lower]?, sorted[upper]? with
    | some below, some above =>
      some (below + (place - Binary64.ofNat lower) * (above - below))
    | _, _ => none

def percentile (xs : List Binary64) (p : Binary64) : Option Binary64 :=
  if xs = [] then none
  else valueAt (Ranked.ascending xs).toArray (percentilePlace xs.length p)

end LinkTrials
