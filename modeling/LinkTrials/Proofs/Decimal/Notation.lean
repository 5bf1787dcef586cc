import LinkTrials.Decimal.Notation
import LinkTrials.Proofs.Decimal.Shortest
import LinkTrials.Proofs.Text.Digits

/-!
A number written out is read back.

The text of a decimal is a list of digits, or two with a point between them. Either way its digits spell
the digits of the decimal, and the place of the point its exponent. With what is known of the shortest
decimal, the text of a finite number is read as the number.
-/
namespace LinkTrials

open Binary64 Text

namespace Decimal

/-- The digits of a decimal on both sides of the point. -/
structure IsSplit (d : Decimal) (whole fraction : List Char) : Prop where
  whole_digits : AllDigits whole
  fraction_digits : AllDigits fraction
  whole_nonempty : whole ≠ []
  /-- The whole part is zero or starts with another digit than zero. -/
  whole_lead : whole = ['0'] ∨ '0' ∉ whole.head?
  value : digitsValue (digitsValue 0 whole) fraction = d.digits
  exponent : d.exponent = -fraction.length

theorem whole_lead_toDigits (n : Nat) :
    Nat.toDigits 10 n = ['0'] ∨ '0' ∉ (Nat.toDigits 10 n).head? := by
  by_cases hz : n = 0
  · exact .inl (hz ▸ Nat.toDigits_zero 10)
  · exact .inr (head_toDigits_ne_zero hz)

theorem isSplit_take {d : Decimal} {places : Nat} (h : d.exponent = -places)
    (short : places < length d.digits) :
    IsSplit d ((Nat.toDigits 10 d.digits).take (length d.digits - places))
      ((Nat.toDigits 10 d.digits).drop (length d.digits - places)) := by
  have digits := allDigits_toDigits d.digits
  obtain ⟨k, hk⟩ : ∃ k, length d.digits - places = k + 1 := ⟨length d.digits - places - 1, by omega⟩
  refine ⟨digits.take _, digits.drop _, ?_, ?_, ?_, ?_⟩
  · rw [hk]
    cases lead : Nat.toDigits 10 d.digits with
    | nil => exact absurd lead Nat.toDigits_ne_nil
    | cons c ds => exact List.cons_ne_nil _ _
  · rw [hk]
    rcases whole_lead_toDigits d.digits with zero | lead
    · rw [zero]
      exact .inl (congrArg (List.cons '0') (List.take_nil))
    · refine .inr ?_
      cases text : Nat.toDigits 10 d.digits with
      | nil => exact absurd text Nat.toDigits_ne_nil
      | cons c ds => rwa [text] at lead
  · rw [← digitsValue_append, List.take_append_drop, digitsValue_toDigits]
  · rw [List.length_drop]
    simp only [length] at short ⊢
    omega

theorem isSplit_zero {d : Decimal} {places : Nat} (h : d.exponent = -places)
    (long : length d.digits ≤ places) :
    IsSplit d ['0'] (List.replicate (places - length d.digits) '0' ++ Nat.toDigits 10 d.digits) := by
  refine ⟨allDigits_zeros 1, (allDigits_zeros _).append (allDigits_toDigits _), List.cons_ne_nil _ _,
    .inl rfl, ?_, ?_⟩
  · have zero : digitsValue 0 ['0'] = 0 := rfl
    rw [zero, digitsValue_append, digitsValue_zeros, Nat.zero_mul, digitsValue_toDigits]
  · rw [List.length_append, List.length_replicate]
    simp only [length] at long ⊢
    omega

theorem positional_cases (d : Decimal) :
    0 ≤ d.exponent ∧
      d.positional = Nat.toDigits 10 d.digits ++ List.replicate d.exponent.toNat '0' ∨
    d.exponent < 0 ∧
      ∃ whole fraction, IsSplit d whole fraction ∧ d.positional = whole ++ '.' :: fraction := by
  rcases Int.lt_or_le d.exponent 0 with negative | whole
  · refine .inr ⟨negative, ?_⟩
    have places : d.exponent = -((-d.exponent).toNat : Int) := by omega
    have some : (-d.exponent).toNat ≠ 0 := by omega
    rw [positional, if_neg some]
    split
    · next short => exact ⟨_, _, isSplit_take places short, rfl⟩
    · next long => exact ⟨_, _, isSplit_zero places (Nat.le_of_not_lt long), rfl⟩
  · have none : (-d.exponent).toNat = 0 := by omega
    exact .inl ⟨whole, by rw [positional, if_pos none]⟩

end Decimal

namespace Text

theorem decimal?_whole (s : Bool) {ds : List Char} (h : AllDigits ds) (some : ds ≠ []) :
    decimal? s ds = .some (ofDecimal s (digitsValue 0 ds) 0) := by
  have take := takeWhile_digits h endsDigits_nil
  have drop := dropWhile_digits h endsDigits_nil
  rw [List.append_nil] at take drop
  simp [decimal?, take, drop, some, exponent?, digitsValue]

theorem decimal?_point (s : Bool) {whole fraction : List Char} (hw : AllDigits whole)
    (hf : AllDigits fraction) (some : whole ≠ []) :
    decimal? s (whole ++ '.' :: fraction) =
      .some (ofDecimal s (digitsValue (digitsValue 0 whole) fraction) (-fraction.length)) := by
  have point : EndsDigits ('.' :: fraction) := endsDigits_cons (by decide) _
  have takeF := takeWhile_digits hf endsDigits_nil
  have dropF := dropWhile_digits hf endsDigits_nil
  rw [List.append_nil] at takeF dropF
  simp [decimal?, takeWhile_digits hw point, dropWhile_digits hw point, takeF, dropF, some, exponent?]

theorem decimal?_positional (s : Bool) (d : Decimal) :
    decimal? s d.positional = some (ofDecimal s d.digits d.exponent) := by
  rcases d.positional_cases with ⟨whole, text⟩ | ⟨_, whole, fraction, split, text⟩
  · have digits := (allDigits_toDigits d.digits).append (allDigits_zeros d.exponent.toNat)
    have shifted := Decimal.same_shift d.digits d.exponent.toNat 0
    have place : (0 : Int) + d.exponent.toNat = d.exponent := by omega
    rw [place] at shifted
    rw [text, decimal?_whole s digits (by simp [Nat.toDigits_ne_nil]), digitsValue_append,
      digitsValue_toDigits, digitsValue_zeros]
    exact congrArg some (shifted.ofDecimal s)
  · rw [text, decimal?_point s split.whole_digits split.fraction_digits split.whole_nonempty,
      split.value, split.exponent]

theorem head_positional (d : Decimal) : ∃ c rest, d.positional = c :: rest ∧ c.isDigit = true := by
  have first {ds : List Char} (h : AllDigits ds) (some : ds ≠ []) (rest : List Char) :
      ∃ c tail, ds ++ rest = c :: tail ∧ c.isDigit = true := by
    cases ds with
    | nil => exact absurd rfl some
    | cons c ds => exact ⟨c, ds ++ rest, rfl, h c List.mem_cons_self⟩
  rcases d.positional_cases with ⟨_, text⟩ | ⟨_, whole, fraction, split, text⟩
  · rw [text]
    exact first (allDigits_toDigits _) Nat.toDigits_ne_nil _
  · rw [text]
    exact first split.whole_digits split.whole_nonempty _

theorem readNumber_signed (s : Bool) {c : Char} {rest : List Char} {x : Binary64}
    (digit : c.isDigit = true) (h : decimal? s (c :: rest) = some x) :
    readNumber (String.ofList (signText s ++ c :: rest)) = .ok x := by
  have notMinus : c ≠ '-' := by rintro rfl; exact absurd digit (by decide)
  have notPlus : c ≠ '+' := by rintro rfl; exact absurd digit (by decide)
  rw [readNumber, String.toList_ofList]
  cases s <;> simp [signText, h, notMinus, notPlus]

/-- The text of a finite number is read as that number. -/
theorem readNumber_text {x : Binary64} (h : x.isFinite = true) : readNumber x.text = .ok x := by
  cases x with
  | nan => cases h
  | infinite s => cases h
  | finite s n fits =>
      rw [Binary64.text]
      split
      · next zero =>
        subst zero
        have digits : AllDigits ['0'] := allDigits_zeros 1
        refine readNumber_signed s (by decide) ?_
        rw [decimal?_whole s digits (List.cons_ne_nil _ _)]
        refine congrArg some ((Decimal.ofDecimal_eq s ⟨0, 0⟩).trans ?_)
        refine ofUnits_of_roundUnits s (roundUnits_eq_zero (Decimal.den_pos _) ?_) fits
        rw [Decimal.num, Nat.zero_mul]
        exact Nat.zero_le _
      · next hz =>
        obtain ⟨c, rest, text, digit⟩ := head_positional (Decimal.shortest .up n)
        rw [text]
        refine readNumber_signed s digit ?_
        rw [← text, decimal?_positional]
        exact congrArg some (Decimal.ofDecimal_of_readsBack s fits (Decimal.readsBack_shortest .up hz))

end Text

end LinkTrials
