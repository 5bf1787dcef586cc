import LinkTrials.Proofs.Environment.Assignments
import LinkTrials.Proofs.Text.Digits

/-!
Plain files of assignments.

Most files need neither quotes nor escapes: a line is a name, `=` and a text that stands for itself. Such
a line assigns that text to that name, whatever other variables hold, and a file of such lines has
exactly these assignments in their order.
-/
namespace LinkTrials.Dotfile

/-- A letter or `_`, and then letters, digits, `_` and `.`; the word `export` has a meaning of its
own. -/
def PlainName (name : String) : Prop :=
  name ≠ "export" ∧ ∃ first rest, name.toList = first :: rest ∧
    (first.isAlpha = true ∨ first = '_') ∧ ∀ c ∈ rest, c.isAlphanum = true ∨ c = '_' ∨ c = '.'

/-- No blank, no zero and nothing that quotes, escapes or names a variable, and no comment. -/
def PlainText (text : String) : Prop :=
  text.toList.head? ≠ some '#' ∧
    ∀ c ∈ text.toList, Text.isBlank c = false ∧ c ∉ ['\x00', '"', '$', '\'', '\\']

/-- A name and a text that may stand on a line as they are. -/
structure Plain (p : String × String) : Prop where
  name : PlainName p.1
  text : PlainText p.2

def plainLine (p : String × String) : String := p.1 ++ "=" ++ p.2

section Line

variable {p : String × String}

theorem isNamePart_iff (c : Char) :
    isNamePart c = true ↔ c.isAlphanum = true ∨ c = '_' ∨ c = '.' := by
  simp [isNamePart, or_assoc]

theorem isBlank_of_isNamePart {c : Char} (h : isNamePart c = true) : Text.isBlank c = false := by
  rw [isNamePart_iff, Char.isAlphanum, Bool.or_eq_true] at h
  rcases h with (letter | digit) | rfl | rfl
  · exact Text.isBlank_of_isAlpha letter
  · exact Text.isBlank_of_isDigit digit
  · decide
  · decide

theorem PlainName.isNamePart (h : PlainName p.1) : ∀ c ∈ p.1.toList, Dotfile.isNamePart c = true := by
  obtain ⟨-, first, rest, split, start, parts⟩ := h
  intro c hc
  rw [isNamePart_iff]
  rw [split, List.mem_cons] at hc
  rcases hc with rfl | later
  · rcases start with letter | rfl
    · exact .inl (by rw [Char.isAlphanum, letter, Bool.true_or])
    · exact .inr (.inl rfl)
  · exact parts c later

theorem toList_plainLine (p : String × String) :
    (plainLine p).toList = p.1.toList ++ '=' :: p.2.toList := by
  rw [plainLine, String.toList_append, String.toList_append, List.append_assoc]
  rfl

/-- No character of a plain line is blank. -/
theorem Plain.isBlank (h : Plain p) : ∀ c ∈ (plainLine p).toList, Text.isBlank c = false := by
  intro c hc
  rw [toList_plainLine, List.mem_append, List.mem_cons] at hc
  rcases hc with name | rfl | text
  · exact isBlank_of_isNamePart (h.name.isNamePart c name)
  · decide
  · exact (h.text.2 c text).1

end Line

/-! ### Files -/

/-- The bytes of a text. -/
def bytesOf (s : String) : List UInt8 := s.toUTF8.data.toList

theorem lines_append {bytes : List UInt8} (noFeed : 10 ∉ bytes) (front rest : List UInt8) :
    lines front (bytes ++ 10 :: rest) = withoutReturn (front.reverse ++ bytes) :: lines [] rest := by
  induction bytes generalizing front with
  | nil => simp [lines]
  | cons b bytes ih =>
      rw [List.mem_cons, not_or] at noFeed
      rw [List.cons_append, lines, if_neg (Ne.symm noFeed.1), ih noFeed.2, List.reverse_cons,
        List.append_assoc]
      rfl

end LinkTrials.Dotfile
