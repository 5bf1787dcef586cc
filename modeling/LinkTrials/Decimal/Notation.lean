import LinkTrials.Decimal.Shortest

/-!
Decimals and binary numbers as text.

`positional` and `scientific` lay out a decimal without choosing digits; `Binary64.text` is the
shortest text that identifies a number, never with an exponent, and `Binary64.fixed` rounds the
exact value to a given number of places.
-/
namespace LinkTrials

namespace Decimal

/-- All digits in place, with zeros up to the point: `1200`, `0.012`. -/
def positional (d : Decimal) : List Char :=
  let ds := Nat.toDigits 10 d.digits
  let places := (-d.exponent).toNat
  if places = 0 then ds ++ List.replicate d.exponent.toNat '0'
  else if places < ds.length then
    ds.take (ds.length - places) ++ '.' :: ds.drop (ds.length - places)
  else '0' :: '.' :: (List.replicate (places - ds.length) '0' ++ ds)

/-- The exponent of the leading digit. -/
def leading (d : Decimal) : Int := d.exponent + length d.digits - 1

/-- One digit before the point and the exponent of that digit with its sign: `1.2e+20`. -/
def scientific (d : Decimal) : List Char :=
  let mantissa := match Nat.toDigits 10 d.digits with
    | [] => []
    | [c] => [c]
    | c :: rest => c :: '.' :: rest
  let sign := if d.leading < 0 then '-' else '+'
  mantissa ++ 'e' :: sign :: Nat.toDigits 10 d.leading.natAbs

/-- `whole` as a number with the given count of digits behind the point. -/
def withPlaces (places whole : Nat) : List Char :=
  let ds := Nat.toDigits 10 whole
  let padded := List.replicate (places + 1 - ds.length) '0' ++ ds
  padded.take (padded.length - places) ++ '.' :: padded.drop (padded.length - places)

end Decimal

namespace Binary64

def signText (negative : Bool) : List Char := if negative then ['-'] else []

/-- The shortest positional text that reads back as the number, upward between two equally near
candidates; a whole number has no point. -/
def text : Binary64 → String
  | .nan => "NaN"
  | .infinite s => String.ofList (signText s ++ "inf".toList)
  | .finite s n _ =>
    String.ofList (signText s ++
      if n = 0 then ['0'] else (Decimal.shortest .up n).positional)

/-- The exact value rounded to `places` digits behind the point, a tie to the even digit. -/
def fixed (places : Nat) : Binary64 → String
  | .nan => "NaN"
  | .infinite s => String.ofList (signText s ++ "inf".toList)
  | .finite s n _ =>
    String.ofList (signText s ++ Decimal.withPlaces places (divEven (n * Nat.pow 10 places) oneUnits))

end Binary64

end LinkTrials
