import LinkTrials.Json.Reading
import LinkTrials.Proofs.Decimal.Notation

/-!
Numbers of JSON texts read back.

A whole number is read as itself. A binary number is written as its shortest decimal, and the reader
takes a decimal apart into a significand and a power of ten and multiplies or divides their roundings:
`Binary64.reread` is what comes out. It is the number that was written if significand and power are
whole numbers that need no rounding, and not always otherwise. It is finite in any case.
-/
namespace LinkTrials

open Binary64 Text

namespace Json

variable {whole fraction ds rest : List Char}

/-- A number ends before this text. -/
def EndsNumber (rest : List Char) : Prop :=
  ∀ c ∈ rest.head?, c.isDigit = false ∧ c ≠ '.' ∧ c ≠ 'e' ∧ c ≠ 'E'

theorem endsNumber_nil : EndsNumber [] := fun _ h => nomatch h

theorem endsNumber_cons {c : Char} (h : c.isDigit = false ∧ c ≠ '.' ∧ c ≠ 'e' ∧ c ≠ 'E')
    (rest : List Char) : EndsNumber (c :: rest) := by
  intro a ha
  cases ha
  exact h

theorem EndsNumber.endsDigits (h : EndsNumber rest) : EndsDigits rest := fun c hc => (h c hc).1

/-- The digits in front of a point or an exponent: zero, or without a zero in front. -/
structure IsLead (whole : List Char) : Prop where
  digits : AllDigits whole
  nonempty : whole ≠ []
  lead : whole = ['0'] ∨ '0' ∉ whole.head?

theorem isLead_toDigits (n : Nat) : IsLead (Nat.toDigits 10 n) :=
  ⟨allDigits_toDigits n, Nat.toDigits_ne_nil, Decimal.whole_lead_toDigits n⟩

/-! ### The parts of a number -/

theorem significand_eq {s : Nat} (room : digitsValue s ds ≤ maxNatural) :
    significand s ds = (digitsValue s ds, 0) := by
  induction ds generalizing s with
  | nil => rfl
  | cons c ds ih =>
      have next := le_digitsValue (s * 10 + (c.toNat - '0'.toNat)) ds
      rw [significand, if_neg (Nat.not_lt_of_le (Nat.le_trans next room))]
      exact ih room

/-- What a reader makes of a decimal. -/
def scaledReading (negative : Bool) (d : Decimal) : Reading :=
  match scaled? negative d.digits d.exponent with
  | some x => .number (.real x)
  | none => .hugeNumber

/-- The digits behind the point, if there is one. -/
def behind : Option (List Char) → List Char
  | none => []
  | some ds => ds

/-- The exponent that a sign and digits spell, if they are there. -/
def shift : Option (Bool × List Char) → Int
  | none => 0
  | some (below, ds) => if below then -(digitsValue 0 ds : Int) else digitsValue 0 ds

theorem ofParts_whole (room : digitsValue 0 whole ≤ maxNatural) :
    ofParts false whole none none = .number (.natural (digitsValue 0 whole)) := by
  simp [ofParts, significand_eq room]

/-- A number with a point or an exponent is a decimal to the reader. -/
theorem ofParts_decimal (negative : Bool) {fraction : Option (List Char)}
    {exponent : Option (Bool × List Char)} (marked : fraction ≠ none ∨ exponent ≠ none)
    (room : digitsValue (digitsValue 0 whole) (behind fraction) ≤ maxNatural)
    (small : ∀ below ds, exponent = some (below, ds) → digitsValue 0 ds ≤ maxExponent) :
    ofParts negative whole fraction exponent =
      scaledReading negative ⟨digitsValue (digitsValue 0 whole) (behind fraction),
        shift exponent - (behind fraction).length⟩ := by
  have first := significand_eq (Nat.le_trans (le_digitsValue _ (behind fraction)) room)
  have place {e e' : Int} (h : e = e') :
      scaledReading negative ⟨digitsValue (digitsValue 0 whole) (behind fraction), e⟩ =
        scaledReading negative ⟨digitsValue (digitsValue 0 whole) (behind fraction), e'⟩ := by
    rw [h]
  cases exponent with
  | none =>
      cases fraction with
      | none => exact absurd rfl (marked.resolve_right fun h => h rfl)
      | some fs =>
          have second : significand (digitsValue 0 whole) fs = _ := significand_eq room
          simp only [ofParts, first, second, Option.isSome_some, true_or, if_true]
          exact place (by simp [shift, behind])
  | some parts =>
      obtain ⟨below, ds⟩ := parts
      have fits : ¬ maxExponent < ds.foldl (fun e c => e * 10 + (c.toNat - '0'.toNat)) 0 :=
        Nat.not_lt_of_le (small below ds rfl)
      have sum (places : Nat) :
          (if below then ((0 : Nat) : Int) - places - digitsValue 0 ds
            else ((0 : Nat) : Int) - places + digitsValue 0 ds) = shift (some (below, ds)) - places := by
        cases below <;> simp only [shift, Bool.false_eq_true, if_true, if_false] <;> omega
      cases fraction with
      | none =>
          simp only [ofParts, first, if_neg fits]
          exact place (sum 0)
      | some fs =>
          have second : significand (digitsValue 0 whole) fs = _ := significand_eq room
          simp only [ofParts, first, second, if_neg fits]
          exact place (sum fs.length)

/-! ### From the text to the parts -/

def isExponentMark (c : Char) : Bool := c == 'e' || c == 'E'

/-- What stands behind the digits of a number, be they before or behind its point. -/
def afterDigits (negative : Bool) (whole : List Char) (fraction : Option (List Char)) :
    List Char → Reading × Option (List Char)
  | [] => (ofParts negative whole fraction none, some [])
  | c :: rest =>
    if isExponentMark c then readExponent negative whole fraction rest
    else (ofParts negative whole fraction none, some (c :: rest))

theorem afterDigits_of_ends (negative : Bool) (whole : List Char) (fraction : Option (List Char))
    (ends : EndsNumber rest) :
    afterDigits negative whole fraction rest = (ofParts negative whole fraction none, some rest) := by
  cases rest with
  | nil => rfl
  | cons c rest =>
      obtain ⟨_, _, low, high⟩ := ends c rfl
      simp [afterDigits, isExponentMark, low, high]

theorem afterDigits_exponent (negative below : Bool) (whole : List Char)
    (fraction : Option (List Char)) (hd : AllDigits ds) (some : ds ≠ []) (ends : EndsDigits rest) :
    afterDigits negative whole fraction ('e' :: (if below then '-' else '+') :: (ds ++ rest)) =
      (ofParts negative whole fraction (.some (below, ds)), .some rest) := by
  have take := takeWhile_digits hd ends
  have drop := dropWhile_digits hd ends
  obtain ⟨c, ds, rfl⟩ := List.exists_cons_of_ne_nil some
  have digit := hd c List.mem_cons_self
  rw [List.cons_append] at take drop
  cases below <;> simp [afterDigits, isExponentMark, readExponent, digit, take, drop]

theorem readNumber_whole (negative : Bool) (hw : IsLead whole) (ends : EndsDigits rest)
    (noPoint : '.' ∉ rest.head?) :
    readNumber negative (whole ++ rest) = afterDigits negative whole none rest := by
  have take := takeWhile_digits hw.digits ends
  have drop := dropWhile_digits hw.digits ends
  have lead := hw.lead
  have nonempty := hw.nonempty
  unfold readNumber
  simp only [take, drop]
  split
  · exact absurd rfl nonempty
  · exact absurd rfl nonempty
  · simp at lead
  · exact absurd rfl noPoint
  · rfl
  · rfl

theorem readNumber_point (negative : Bool) (hw : IsLead whole) (hf : AllDigits fraction)
    (some : fraction ≠ []) (ends : EndsDigits rest) :
    readNumber negative (whole ++ '.' :: (fraction ++ rest)) =
      afterDigits negative whole (.some fraction) rest := by
  have point : EndsDigits ('.' :: (fraction ++ rest)) := endsDigits_cons (by decide) _
  have take := takeWhile_digits hw.digits point
  have drop := dropWhile_digits hw.digits point
  have takeF := takeWhile_digits hf ends
  have dropF := dropWhile_digits hf ends
  have lead := hw.lead
  have nonempty := hw.nonempty
  unfold readNumber
  simp only [take, drop]
  split
  · exact absurd rfl nonempty
  · exact absurd rfl nonempty
  · simp at lead
  · next shape =>
    cases shape
    simp only [takeF, dropF]
    split
    · exact absurd rfl some
    · exact absurd rfl some
    · rfl
    · rfl
  · next noPoint _ _ shape =>
    cases shape
    exact (noPoint rfl).elim
  · next shape => cases shape

/-! ### Decimals laid out -/

/-- A decimal as the writer of JSON lays it out. -/
def layout (d : Decimal) : List Char :=
  if -5 ≤ d.leading ∧ d.leading ≤ 15 then
    if 0 ≤ d.exponent then d.positional ++ ['.', '0'] else d.positional
  else d.scientific

/-- The decimal that the digits of the layout spell. -/
def laidOut (d : Decimal) : Decimal :=
  if -5 ≤ d.leading ∧ d.leading ≤ 15 ∧ 0 ≤ d.exponent then
    ⟨d.digits * Nat.pow 10 (d.exponent.toNat + 1), -1⟩
  else d

/-- A decimal that a significand and an exponent of the reader have room for. -/
structure IsModest (d : Decimal) : Prop where
  positive : d.digits ≠ 0
  digits : d.digits ≤ Nat.pow 10 17
  leading : d.leading.natAbs ≤ maxExponent

theorem IsModest.room {d : Decimal} (h : IsModest d) : d.digits ≤ maxNatural :=
  Nat.le_trans h.digits (by decide)

theorem IsModest.isLead {d : Decimal} (h : IsModest d) (k : Nat) :
    IsLead (Nat.toDigits 10 d.digits ++ List.replicate k '0') := by
  refine ⟨(allDigits_toDigits _).append (allDigits_zeros k), ?_, .inr ?_⟩
  · exact List.append_ne_nil_of_left_ne_nil Nat.toDigits_ne_nil _
  · have lead := head_toDigits_ne_zero h.positive
    cases text : Nat.toDigits 10 d.digits with
    | nil => exact absurd text Nat.toDigits_ne_nil
    | cons c ds => rwa [text] at lead

theorem laidOut_room {d : Decimal} (whole : 0 ≤ d.exponent) (short : d.leading ≤ 15) :
    d.digits * Nat.pow 10 (d.exponent.toNat + 1) ≤ maxNatural := by
  have places : Decimal.length d.digits + (d.exponent.toNat + 1) ≤ 17 := by
    rw [Decimal.leading] at short
    omega
  calc d.digits * Nat.pow 10 (d.exponent.toNat + 1)
      ≤ Nat.pow 10 (Decimal.length d.digits) * Nat.pow 10 (d.exponent.toNat + 1) :=
        Nat.mul_le_mul_right _ (Nat.le_of_lt (Decimal.lt_pow_length _))
    _ = Nat.pow 10 (Decimal.length d.digits + (d.exponent.toNat + 1)) := (Nat.pow_add ..).symm
    _ ≤ Nat.pow 10 17 := Nat.pow_le_pow_right (by decide) places
    _ ≤ maxNatural := by decide

theorem readNumber_whole_point (negative : Bool) {d : Decimal} (h : IsModest d)
    (whole : 0 ≤ d.exponent) (short : d.leading ≤ 15) (ends : EndsNumber rest) :
    readNumber negative (d.positional ++ ['.', '0'] ++ rest) =
      (scaledReading negative ⟨d.digits * Nat.pow 10 (d.exponent.toNat + 1), -1⟩, some rest) := by
  obtain ⟨_, text⟩ | ⟨negative', _⟩ := d.positional_cases
  · have zero : AllDigits ['0'] := allDigits_zeros 1
    have value : digitsValue (digitsValue 0
        (Nat.toDigits 10 d.digits ++ List.replicate d.exponent.toNat '0')) (behind (some ['0'])) =
        d.digits * Nat.pow 10 (d.exponent.toNat + 1) := by
      have last (n : Nat) : digitsValue n (behind (some ['0'])) = n * 10 := rfl
      rw [last, digitsValue_append, digitsValue_toDigits, digitsValue_zeros, Nat.mul_assoc]
      rfl
    have parts := readNumber_point negative (h.isLead d.exponent.toNat) zero (List.cons_ne_nil _ _)
      ends.endsDigits
    rw [afterDigits_of_ends _ _ _ ends, ofParts_decimal negative (.inl (by simp))
      (value ▸ laidOut_room whole short) (by simp), value] at parts
    rw [text, List.append_assoc]
    exact parts
  · omega

theorem readNumber_positional (negative : Bool) {d : Decimal} (h : IsModest d)
    (broken : d.exponent < 0) (ends : EndsNumber rest) :
    readNumber negative (d.positional ++ rest) = (scaledReading negative d, some rest) := by
  obtain ⟨whole, _⟩ | ⟨_, whole, fraction, split, text⟩ := d.positional_cases
  · omega
  · have some : fraction ≠ [] := by
      rintro rfl
      have place := split.exponent
      rw [List.length_nil] at place
      omega
    have lead : IsLead whole := ⟨split.whole_digits, split.whole_nonempty, split.whole_lead⟩
    have value : digitsValue (digitsValue 0 whole) (behind (.some fraction)) = d.digits := split.value
    have place : shift none - (behind (.some fraction)).length = d.exponent := by
      rw [split.exponent, shift, behind, Int.zero_sub]
    rw [text, List.append_assoc, List.cons_append,
      readNumber_point negative lead split.fraction_digits some ends.endsDigits,
      afterDigits_of_ends _ _ _ ends,
      ofParts_decimal negative (.inl (by simp)) (value ▸ h.room) (by simp), value, place]

theorem shift_leading (d : Decimal) :
    shift (some (decide (d.leading < 0), Nat.toDigits 10 d.leading.natAbs)) = d.leading := by
  rw [shift, digitsValue_toDigits]
  split
  · next below =>
    have := of_decide_eq_true below
    omega
  · next above =>
    have := of_decide_eq_false (Bool.eq_false_iff.2 above)
    omega

theorem IsLead.first {c : Char} {cs : List Char} (h : IsLead (c :: cs)) : IsLead [c] := by
  refine ⟨fun a ha => h.digits a ?_, List.cons_ne_nil _ _, h.lead.imp_left fun zero => ?_⟩
  · rw [List.mem_singleton.1 ha]
    exact List.mem_cons_self
  · rw [(List.cons.inj zero).1]

/-- The exponent that is written behind the digits of a decimal puts the point in its place. -/
theorem afterDigits_scientific (negative : Bool) {d : Decimal} (h : IsModest d)
    (ends : EndsNumber rest) {fraction : Option (List Char)}
    (value : digitsValue (digitsValue 0 whole) (behind fraction) = d.digits)
    (place : d.leading - (behind fraction).length = d.exponent) :
    afterDigits negative whole fraction
        ('e' :: (if d.leading < 0 then '-' else '+') :: (Nat.toDigits 10 d.leading.natAbs ++ rest)) =
      (scaledReading negative d, some rest) := by
  have sign : (if d.leading < 0 then '-' else '+') =
      if decide (d.leading < 0) then '-' else '+' := by simp
  have small : ∀ below ds, some (decide (d.leading < 0), Nat.toDigits 10 d.leading.natAbs) =
      some (below, ds) → digitsValue 0 ds ≤ maxExponent := by
    rintro below ds ⟨⟩
    rw [digitsValue_toDigits]
    exact h.leading
  rw [sign, afterDigits_exponent negative _ whole fraction (allDigits_toDigits _)
    Nat.toDigits_ne_nil ends.endsDigits, ofParts_decimal negative (.inr (by simp)) (value ▸ h.room)
    small, value, shift_leading, place]

theorem readNumber_scientific (negative : Bool) {d : Decimal} (h : IsModest d)
    (ends : EndsNumber rest) :
    readNumber negative (d.scientific ++ rest) = (scaledReading negative d, some rest) := by
  have value := digitsValue_toDigits d.digits
  have lead := h.isLead 0
  rw [List.replicate_zero, List.append_nil] at lead
  have size : d.leading = d.exponent + (Nat.toDigits 10 d.digits).length - 1 := rfl
  have mark {cs : List Char} : EndsDigits ('e' :: cs) := endsDigits_cons (by decide) cs
  rw [Decimal.scientific, List.append_assoc]
  -- A point stands behind the first digit only if more digits follow.
  cases text : Nat.toDigits 10 d.digits with
  | nil => exact absurd text Nat.toDigits_ne_nil
  | cons c cs =>
      rw [text] at lead value size
      cases cs with
      | nil =>
          have place : d.leading - (behind none).length = d.exponent := by
            rw [size]
            simp [behind]
          refine (readNumber_whole negative lead mark (by simp)).trans ?_
          exact afterDigits_scientific negative h ends value place
      | cons c' cs =>
          have place : d.leading - (behind (some (c' :: cs))).length = d.exponent := by
            rw [size, behind, List.length_cons]
            omega
          have fraction : AllDigits (c' :: cs) :=
            fun a ha => lead.digits a (List.mem_cons_of_mem _ ha)
          refine (readNumber_point negative lead.first fraction (List.cons_ne_nil _ _) mark).trans ?_
          exact afterDigits_scientific negative h ends value place

theorem readNumber_layout (negative : Bool) {d : Decimal} (h : IsModest d) (ends : EndsNumber rest) :
    readNumber negative (layout d ++ rest) = (scaledReading negative (laidOut d), some rest) := by
  rw [layout, laidOut]
  split
  · next fixed =>
    split
    · next whole =>
      rw [if_pos ⟨fixed.1, fixed.2, whole⟩]
      exact readNumber_whole_point negative h whole fixed.2 ends
    · next broken =>
      rw [if_neg fun all => broken all.2.2]
      exact readNumber_positional negative h (by omega) ends
  · next floating =>
    rw [if_neg fun all => floating ⟨all.1, all.2.1⟩]
    exact readNumber_scientific negative h ends

end Json

end LinkTrials
