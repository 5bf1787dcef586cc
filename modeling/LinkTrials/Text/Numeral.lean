import LinkTrials.Binary64.Basic

/-!
Numbers and truth values written as text, read strictly: the whole text is the value, with no
blanks around it. A sign is allowed where noted, digits are ASCII.
-/
namespace LinkTrials.Text

def digit? (c : Char) : Option Nat := if c.isDigit then some (c.toNat - '0'.toNat) else none

/-- Why a text is no whole number of a given range. -/
inductive IntegerFault where
  | empty
  | badDigit
  | tooLarge
  | tooSmall
deriving DecidableEq, Repr

def IntegerFault.message : IntegerFault → String
  | .empty => "cannot parse integer from empty string"
  | .badDigit => "invalid digit found in string"
  | .tooLarge => "number too large to fit in target type"
  | .tooSmall => "number too small to fit in target type"

/-- Digits read from the left onto `value`; the first fault is reported, where a value that leaves
the range is noticed at the digit that takes it beyond `limit`. -/
def readDigits (limit : Nat) (beyond : IntegerFault) : Nat → List Char → Except IntegerFault Nat
  | value, [] => .ok value
  | value, c :: rest =>
    match digit? c with
    | none => .error .badDigit
    | some d =>
      if limit < value * 10 + d then .error beyond
      else readDigits limit beyond (value * 10 + d) rest

/-- A whole number from 0 to `limit`, optionally with a plus sign. -/
def readNat (limit : Nat) (s : String) : Except IntegerFault Nat :=
  match s.toList with
  | [] => .error .empty
  | ['+'] | ['-'] => .error .badDigit
  | '+' :: rest => readDigits limit .tooLarge 0 rest
  | cs => readDigits limit .tooLarge 0 cs

/-- An integer from `-(limit + 1)` to `limit`, optionally with a sign. -/
def readInt (limit : Nat) (s : String) : Except IntegerFault Int :=
  match s.toList with
  | [] => .error .empty
  | ['+'] | ['-'] => .error .badDigit
  | '+' :: rest => (readDigits limit .tooLarge 0 rest).map Int.ofNat
  | '-' :: rest => (readDigits (limit + 1) .tooSmall 0 rest).map fun n => -Int.ofNat n
  | cs => (readDigits limit .tooLarge 0 cs).map Int.ofNat

/-- Why a text is no truth value: it is neither of the two words. -/
inductive BoolFault where
  | otherWord
deriving DecidableEq, Repr

def BoolFault.message : BoolFault → String
  | .otherWord => "provided string was not `true` or `false`"

def readBool (s : String) : Except BoolFault Bool :=
  if s = "true" then .ok true
  else if s = "false" then .ok false
  else .error .otherWord

/-- Why a text is no number. -/
inductive NumberFault where
  | empty
  | malformed
deriving DecidableEq, Repr

def NumberFault.message : NumberFault → String
  | .empty => "cannot parse float from empty string"
  | .malformed => "invalid float literal"

/-- The number that a list of digits spells, with `start` in front. -/
def digitsValue (start : Nat) (ds : List Char) : Nat :=
  ds.foldl (fun value c => value * 10 + (c.toNat - '0'.toNat)) start

/-- An exponent part: nothing at all, or `e` or `E` with an optional sign and at least one digit. -/
def exponent? : List Char → Option Int
  | [] => some 0
  | c :: rest =>
    if c = 'e' ∨ c = 'E' then
      let (negative, ds) := match rest with
        | '-' :: r => (true, r)
        | '+' :: r => (false, r)
        | r => (false, r)
      if ds ≠ [] ∧ ds.all Char.isDigit then
        some (if negative then -(digitsValue 0 ds : Int) else digitsValue 0 ds)
      else none
    else none

/-- An unsigned decimal: digits with an optional point among or around them, at least one digit,
and an optional exponent. -/
def decimal? (negative : Bool) (cs : List Char) : Option Binary64 :=
  let whole := cs.takeWhile Char.isDigit
  let (fraction, rest) := match cs.dropWhile Char.isDigit with
    | '.' :: r => (r.takeWhile Char.isDigit, r.dropWhile Char.isDigit)
    | r => ([], r)
  if whole = [] ∧ fraction = [] then none
  else
    (exponent? rest).map fun e =>
      Binary64.ofDecimal negative (digitsValue (digitsValue 0 whole) fraction)
        (e - fraction.length)

/-- The names of the numbers that have no digits, in any case. -/
def named? (negative : Bool) (cs : List Char) : Option Binary64 :=
  let name := String.ofList (cs.map Char.toLower)
  if name = "inf" ∨ name = "infinity" then some (.infinite negative)
  else if name = "nan" then some .nan
  else none

/-- A number with an optional sign: a decimal, correctly rounded, or a name. -/
def readNumber (s : String) : Except NumberFault Binary64 :=
  match s.toList with
  | [] => .error .empty
  | cs =>
    let (negative, body) := match cs with
      | '-' :: r => (true, r)
      | '+' :: r => (false, r)
      | r => (false, r)
    match (decimal? negative body).or (named? negative body) with
    | some x => .ok x
    | none => .error .malformed

end LinkTrials.Text
