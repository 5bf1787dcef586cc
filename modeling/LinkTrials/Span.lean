import LinkTrials.Binary64.Basic

/-!
Spans of time: whole seconds up to the largest unsigned number of 64 bits, and nanoseconds below
one second. Sums stop at the longest span. A span reads as a number of seconds, and a number of
seconds is rounded to the nearest nanosecond.
-/
namespace LinkTrials

/-- A length of time. -/
structure Span where
  secs : Nat
  nanos : Nat
  secs_lt : secs < 18446744073709551616 := by omega
  nanos_lt : nanos < 1000000000 := by omega
deriving DecidableEq

namespace Span

/-- Nanoseconds in a second. -/
abbrev perSecond : Nat := 1000000000

def max : Span := ⟨18446744073709551615, 999999999, by decide, by decide⟩

def ofSecs (secs : Nat) (h : secs < 18446744073709551616 := by decide) : Span := ⟨secs, 0, h, by decide⟩

instance : Inhabited Span := ⟨ofSecs 0⟩

/-- Seconds and any number of nanoseconds, full seconds among them carried over; none if that is
longer than the longest span. -/
def ofParts? (secs nanos : Nat) : Option Span :=
  if h : secs + nanos / perSecond < 18446744073709551616 then
    some ⟨secs + nanos / perSecond, nanos % perSecond, h, Nat.mod_lt _ (by decide)⟩
  else none

def toNanos (d : Span) : Nat := d.secs * perSecond + d.nanos

def shorter (a b : Span) : Bool :=
  decide (a.secs < b.secs) || (decide (a.secs = b.secs) && decide (a.nanos < b.nanos))

/-- One span after the other, or the longest span if that is too long. -/
def addOrMax (a b : Span) : Span :=
  (ofParts? (a.secs + b.secs) (a.nanos + b.nanos)).getD max

/-- The span as a number of seconds: the whole seconds and the fraction are each rounded, and so is
their sum. -/
def toSeconds (d : Span) : Binary64 :=
  Binary64.ofNat d.secs + Binary64.ofNat d.nanos / Binary64.ofNat perSecond

/-- Why a number of seconds is no span. -/
inductive Fault where
  | negative
  | unbounded
deriving DecidableEq, Repr

def Fault.message : Fault → String
  | .negative => "cannot convert float seconds to Duration: value is negative"
  | .unbounded => "cannot convert float seconds to Duration: value is either too big or NaN"

/-- The span of a number of seconds, rounded to the nearest nanosecond, ties to even. -/
def ofSeconds (x : Binary64) : Except Fault Span :=
  match x with
  | .nan => .error .unbounded
  | .infinite negative => .error (if negative then .negative else .unbounded)
  | .finite negative units _ =>
    if negative && units != 0 then .error .negative
    else
      match ofParts? 0 (Binary64.divEven (units * perSecond) Binary64.oneUnits) with
      | some d => .ok d
      | none => .error .unbounded

/-- Carrying full seconds out of the nanoseconds keeps the length. -/
theorem toNanos_ofParts? {secs nanos : Nat} {d : Span} (h : ofParts? secs nanos = some d) :
    d.toNanos = secs * perSecond + nanos := by
  unfold ofParts? at h
  split at h
  · cases h
    simp only [toNanos, perSecond]
    omega
  · cases h

theorem shorter_iff (a b : Span) : a.shorter b = true ↔ a.toNanos < b.toNanos := by
  have ha := a.nanos_lt
  have hb := b.nanos_lt
  simp only [shorter, toNanos, perSecond, Bool.or_eq_true, Bool.and_eq_true, decide_eq_true_eq]
  omega

end Span

end LinkTrials
