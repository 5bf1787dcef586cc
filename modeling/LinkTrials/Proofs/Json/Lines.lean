import LinkTrials.Proofs.Json.Layout
import LinkTrials.Proofs.Json.Reread

/-!
JSON texts on one line.

Numbers, words and brackets do not break a line, and in a string every character that would is written as an
escape. So a text breaks its line only where its layout does, and the notation without blanks never does.
-/
namespace LinkTrials.Json

open Text

variable {cs ds : List Char}

/-- No line feed and no carriage return. -/
def IsLine (cs : List Char) : Prop := ∀ c ∈ cs, c ≠ '\n' ∧ c ≠ '\r'

instance (cs : List Char) : Decidable (IsLine cs) := List.decidableBAll _ cs

theorem isLine_nil : IsLine [] := List.forall_mem_nil _

theorem isLine_cons {c : Char} : IsLine (c :: cs) ↔ (c ≠ '\n' ∧ c ≠ '\r') ∧ IsLine cs :=
  List.forall_mem_cons

theorem isLine_append : IsLine (cs ++ ds) ↔ IsLine cs ∧ IsLine ds := List.forall_mem_append

/-! ### Numbers -/

theorem isLine_digits (h : AllDigits ds) : IsLine ds := by
  intro c hc
  refine ⟨?_, ?_⟩ <;> (rintro rfl; exact absurd (h _ hc) (by decide))

theorem isLine_toDigits (n : Nat) : IsLine (Nat.toDigits 10 n) := isLine_digits (allDigits_toDigits n)

theorem isLine_positional (d : Decimal) : IsLine d.positional := by
  rcases d.positional_cases with ⟨_, text⟩ | ⟨_, whole, fraction, split, text⟩
  · rw [text]
    exact isLine_digits ((allDigits_toDigits _).append (allDigits_zeros _))
  · rw [text]
    exact isLine_append.2 ⟨isLine_digits split.whole_digits,
      isLine_cons.2 ⟨by decide, isLine_digits split.fraction_digits⟩⟩

theorem isLine_scientific (d : Decimal) : IsLine d.scientific := by
  have digits := isLine_toDigits d.digits
  have exponent := isLine_toDigits d.leading.natAbs
  rw [Decimal.scientific]
  refine isLine_append.2 ⟨?_, isLine_cons.2 ⟨by decide, isLine_cons.2 ⟨?_, exponent⟩⟩⟩
  · cases text : Nat.toDigits 10 d.digits with
    | nil => exact isLine_nil
    | cons c rest =>
        rw [text, isLine_cons] at digits
        cases rest with
        | nil => exact isLine_cons.2 ⟨digits.1, isLine_nil⟩
        | cons c' rest => exact isLine_cons.2 ⟨digits.1, isLine_cons.2 ⟨by decide, digits.2⟩⟩
  · split <;> decide

theorem isLine_layout (d : Decimal) : IsLine (layout d) := by
  rw [layout]
  split
  · split
    · exact isLine_append.2 ⟨isLine_positional d, by decide⟩
    · exact isLine_positional d
  · exact isLine_scientific d

theorem isLine_realText (x : Binary64) : IsLine (realText x) := by
  cases x with
  | nan | infinite s => exact (by decide : IsLine ['n', 'u', 'l', 'l'])
  | finite s n fits =>
      rw [realText_finite]
      refine isLine_append.2 ⟨?_, ?_⟩
      · cases s <;> decide
      · cases n with
        | zero => exact (by decide : IsLine ['0', '.', '0'])
        | succ n => exact isLine_layout _

theorem Number.isLine_text (n : Number) : IsLine n.text := by
  cases n with
  | natural n => exact isLine_toDigits n
  | negative n => exact isLine_cons.2 ⟨by decide, isLine_toDigits n⟩
  | real x => exact isLine_realText x

/-! ### Strings -/

theorem isLine_control : ∀ n < 0x20,
    IsLine ['\\', 'u', '0', '0', Nat.digitChar (n / 16), Nat.digitChar (n % 16)] := by
  decide

theorem isLine_escapedChar (c : Char) : IsLine (escapedChar c) := by
  rw [escapedChar]
  repeat' split
  any_goals decide
  · next control => exact isLine_control _ control
  · next feed back _ _ => exact isLine_cons.2 ⟨⟨feed, back⟩, isLine_nil⟩

theorem isLine_stringText (s : String) : IsLine (stringText s) := by
  rw [stringText]
  refine isLine_cons.2 ⟨by decide, isLine_append.2 ⟨?_, by decide⟩⟩
  intro c hc
  obtain ⟨d, _, inside⟩ := List.mem_flatMap.1 hc
  exact isLine_escapedChar d c inside

/-! ### Values -/

namespace Layout

variable {l : Layout}

/-- The blanks of the layout break no line. -/
structure IsFlat (l : Layout) : Prop where
  gap : ∀ level, IsLine (l.gap level)
  space : IsLine l.space

mutual

theorem isLine_chars (h : l.IsFlat) (level : Nat) : (j : Json) → IsLine (l.chars level j)
  | .null | .bool true | .bool false | .list [] | .object [] => by
    rw [chars]
    decide
  | .number n => by
    rw [chars]
    exact n.isLine_text
  | .string s => by
    rw [chars]
    exact isLine_stringText s
  | .list (j :: rest) => by
    rw [chars, isLine_cons, isLine_append, isLine_append]
    exact ⟨by decide, h.gap _, isLine_chars h (level + 1) j, isLine_items h level rest⟩
  | .object ((k, j) :: rest) => by
    rw [chars, isLine_cons, isLine_append, isLine_append, isLine_cons, isLine_append, isLine_append]
    exact ⟨by decide, h.gap _, isLine_stringText k, by decide, h.space,
      isLine_chars h (level + 1) j, isLine_members h level rest⟩

theorem isLine_items (h : l.IsFlat) (level : Nat) : (items : List Json) →
    IsLine (l.items level items)
  | [] => by
    rw [items]
    exact isLine_append.2 ⟨h.gap level, by decide⟩
  | j :: rest => by
    rw [items, isLine_cons, isLine_append, isLine_append]
    exact ⟨by decide, h.gap _, isLine_chars h (level + 1) j, isLine_items h level rest⟩

theorem isLine_members (h : l.IsFlat) (level : Nat) : (members : List (String × Json)) →
    IsLine (l.members level members)
  | [] => by
    rw [members]
    exact isLine_append.2 ⟨h.gap level, by decide⟩
  | (k, j) :: rest => by
    rw [members, isLine_cons, isLine_append, isLine_append, isLine_cons, isLine_append, isLine_append]
    exact ⟨by decide, h.gap _, isLine_stringText k, by decide, h.space,
      isLine_chars h (level + 1) j, isLine_members h level rest⟩

end

end Layout

end LinkTrials.Json
