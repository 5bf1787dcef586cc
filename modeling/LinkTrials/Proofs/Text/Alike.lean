import Mathlib.Data.List.Forall2
import Mathlib.Data.List.TakeWhile
import LinkTrials.Proofs.Text.Numerals
import LinkTrials.Text.UpperCase

/-!
Texts that a reader of names and numerals takes for the same.

Blanks around a text, the case of a letter of ASCII and the choice between hyphen and underscore make no
difference to the upper case of a text or to what is trimmed from it, and a numeral has none of these
characters. A name in ASCII is compared with the upper case of a text; which characters beyond ASCII the
upper case of a character beyond ASCII has does not matter there.
-/
namespace LinkTrials.Text

/-! ### Blanks around a text -/

def AllBlank (cs : List Char) : Prop := ∀ c ∈ cs, isBlank c = true

instance (cs : List Char) : Decidable (AllBlank cs) := List.decidableBAll _ cs

variable {front back cs ds : List Char}

theorem trimFront_append (h : AllBlank front) (cs : List Char) :
    trimFront (front ++ cs) = trimFront cs :=
  List.dropWhile_append_of_pos h

theorem trimBack_append (h : AllBlank back) (cs : List Char) : trimBack (cs ++ back) = trimBack cs := by
  rw [trimBack, trimBack, List.reverse_append]
  exact congrArg List.reverse
    (List.dropWhile_append_of_pos fun c hc => h c (List.mem_reverse.1 hc))

theorem trimBack_of_allBlank (h : AllBlank back) : trimBack back = [] := by
  have nothing := trimBack_append h []
  rwa [List.nil_append] at nothing

/-- Blanks behind a text do not come before anything else. -/
theorem trimBack_trimFront_append (h : AllBlank back) (cs : List Char) :
    trimBack (trimFront (cs ++ back)) = trimBack (trimFront cs) := by
  rw [trimFront, List.dropWhile_append]
  split
  · next nothing =>
    have rest : AllBlank (back.dropWhile isBlank) := fun c hc =>
      h c ((List.dropWhile_suffix isBlank).subset hc)
    rw [trimBack_of_allBlank rest, trimFront, List.isEmpty_iff.1 nothing]
    rfl
  · exact trimBack_append h _

theorem trim_surrounded (hf : AllBlank front) (hb : AllBlank back) (cs : List Char) :
    trim (String.ofList (front ++ cs ++ back)) = trim (String.ofList cs) := by
  rw [trim, trim, String.toList_ofList, String.toList_ofList, List.append_assoc,
    trimFront_append hf, trimBack_trimFront_append hb]

/-- Trimming takes blanks away from both ends, until there is none. -/
theorem surrounded_trim (s : String) :
    (∃ front back, AllBlank front ∧ AllBlank back ∧ s.toList = front ++ (trim s).toList ++ back) ∧
    (∀ c ∈ (trim s).toList.head?, isBlank c = false) ∧
    ∀ c ∈ (trim s).toList.getLast?, isBlank c = false := by
  have all (cs : List Char) : AllBlank (cs.takeWhile isBlank) := fun c hc =>
    List.mem_takeWhile_imp hc
  have parts (cs : List Char) : cs.takeWhile isBlank ++ trimFront cs = cs :=
    List.takeWhile_append_dropWhile
  have text : (trim s).toList = trimBack (trimFront s.toList) := by rw [trim, String.toList_ofList]
  rw [text]
  refine ⟨⟨s.toList.takeWhile isBlank, ((trimFront s.toList).reverse.takeWhile isBlank).reverse,
    all _, fun c hc => all _ c (List.mem_reverse.1 hc), ?_⟩, ?_, ?_⟩
  · have back := congrArg List.reverse (parts (trimFront s.toList).reverse)
    rw [List.reverse_append, List.reverse_reverse] at back
    rw [List.append_assoc, trimBack]
    exact (parts s.toList).symm.trans (congrArg (s.toList.takeWhile isBlank ++ ·) back.symm)
  · intro c hc
    obtain ⟨rest, same⟩ := trimBack_prefix (trimFront s.toList)
    apply isBlank_head_trimFront s.toList
    rw [← same, List.head?_append, Option.mem_def.1 hc]
    rfl
  · intro c hc
    rw [trimBack, List.getLast?_reverse] at hc
    exact isBlank_head_trimFront _ c hc

/-! ### Letters -/

variable {c d : Char}

/-- Only a letter has another upper case, and that is a letter, too. -/
theorem toUpper_eq_or_isAlpha (c : Char) :
    c.toUpper = c ∨ c.isAlpha = true ∧ c.toUpper.isAlpha = true := by
  by_cases small : 'a'.val ≤ c.val ∧ c.val ≤ 'z'.val
  · right
    have low : 97 ≤ c.toNat := small.1
    have high : c.toNat ≤ 122 := small.2
    have upper : c.toUpper.toNat = c.toNat - 32 := by
      have shifted := congrArg (fun d : Char => d.val.toNat) (dif_pos small :
        c.toUpper = ⟨c.val + ('A'.val - 'a'.val), _⟩)
      change c.toUpper.val.toNat = (c.val + ('A'.val - 'a'.val)).toNat at shifted
      rw [UInt32.toNat_add] at shifted
      change c.toUpper.val.toNat = _
      have gap : ('A'.val - 'a'.val).toNat = 2 ^ 32 - 32 := by decide
      have same : c.val.toNat = c.toNat := rfl
      omega
    rw [isAlpha_iff, isAlpha_iff]
    omega
  · exact .inl (dif_neg small)

theorem isAlpha_toUpper (c : Char) : c.toUpper.isAlpha = c.isAlpha := by
  rcases toUpper_eq_or_isAlpha c with same | ⟨letter, upper⟩
  · rw [same]
  · rw [letter, upper]

/-! ### Characters that make no difference -/

/-- The same but for the case of a letter of ASCII, or a hyphen and an underscore. -/
def Alike (c d : Char) : Prop := c.toUpper = d.toUpper ∨ (c = '-' ∨ c = '_') ∧ (d = '-' ∨ d = '_')

instance (c d : Char) : Decidable (Alike c d) := inferInstanceAs (Decidable (_ ∨ _))

/-- Letters of ASCII, hyphens and underscores. -/
def IsWordChar (c : Char) : Prop := c.isAlpha = true ∨ c = '-' ∨ c = '_'

theorem Alike.symm (h : Alike c d) : Alike d c := h.imp Eq.symm And.symm

/-- Characters that are alike but not the same are those that words are made of. -/
theorem Alike.eq_or_isWordChar (h : Alike c d) : c = d ∨ IsWordChar c ∧ IsWordChar d := by
  rcases h with same | ⟨hc, hd⟩
  · have letters : c.isAlpha = d.isAlpha := by rw [← isAlpha_toUpper, same, isAlpha_toUpper]
    rcases toUpper_eq_or_isAlpha c with hc | ⟨letter, -⟩
    · rcases toUpper_eq_or_isAlpha d with hd | ⟨letter, -⟩
      · exact .inl (hc.symm.trans (same.trans hd))
      · exact .inr ⟨.inl (letters.trans letter), .inl letter⟩
    · exact .inr ⟨.inl letter, .inl (letters.symm.trans letter)⟩
  · exact .inr ⟨.inr hc, .inr hd⟩

theorem IsWordChar.ascii (h : IsWordChar c) : 0x20 < c.toNat ∧ c.toNat < 0x80 := by
  rcases h with letter | rfl | rfl
  · have range := isAlpha_iff.1 letter
    omega
  · decide
  · decide

theorem IsWordChar.not_isDigit (h : IsWordChar c) : c.isDigit ≠ true := by
  rcases h with letter | rfl | rfl
  · intro digit
    have range := isAlpha_iff.1 letter
    have upper : c.toNat ≤ 57 := (Char.isDigit_iff_toNat.1 digit).2
    omega
  · decide
  · decide

theorem IsWordChar.ne_plus (h : IsWordChar c) : c ≠ '+' := by
  rintro rfl
  rcases h with letter | hyphen | underscore
  · exact absurd letter (by decide)
  · exact absurd hyphen (by decide)
  · exact absurd underscore (by decide)

theorem Alike.isBlank_eq (h : Alike c d) : isBlank c = isBlank d := by
  rcases h.eq_or_isWordChar with rfl | ⟨hc, hd⟩
  · rfl
  · rw [isBlank_of_between hc.ascii.1 (by have := hc.ascii.2; omega),
      isBlank_of_between hd.ascii.1 (by have := hd.ascii.2; omega)]

theorem forall₂_trimFront (h : List.Forall₂ Alike cs ds) :
    List.Forall₂ Alike (trimFront cs) (trimFront ds) := by
  induction h with
  | nil => exact .nil
  | @cons c d cs ds alike rest ih =>
      rw [trimFront, trimFront, List.dropWhile_cons, List.dropWhile_cons, alike.isBlank_eq]
      split
      · exact ih
      · exact .cons alike rest

theorem forall₂_trimBack (h : List.Forall₂ Alike cs ds) :
    List.Forall₂ Alike (trimBack cs) (trimBack ds) :=
  List.rel_reverse (forall₂_trimFront (List.rel_reverse h))

theorem forall₂_trim {s t : String} (h : List.Forall₂ Alike s.toList t.toList) :
    List.Forall₂ Alike (trim s).toList (trim t).toList := by
  rw [trim, trim, String.toList_ofList, String.toList_ofList]
  exact forall₂_trimBack (forall₂_trimFront h)

/-- A numeral has no character that could be exchanged. -/
theorem IsNumeral.eq_of_alike {limit n : Nat} (hn : IsNumeral limit n cs)
    (h : List.Forall₂ Alike cs ds) : cs = ds := by
  have digits := hn.mem
  clear hn
  induction h with
  | nil => rfl
  | @cons c d cs ds alike _ ih =>
      have first : c = d := by
        rcases alike.eq_or_isWordChar with same | ⟨word, _⟩
        · exact same
        · rcases digits c List.mem_cons_self with plus | digit
          · exact absurd plus word.ne_plus
          · exact absurd digit word.not_isDigit
      rw [first, ih fun c hc => digits c (List.mem_cons_of_mem _ hc)]

/-! ### Upper case -/

/-- Within ASCII. -/
def IsAscii (c : Char) : Prop := c.toNat < 0x80

instance (c : Char) : Decidable (IsAscii c) := inferInstanceAs (Decidable (c.toNat < 0x80))

def AllAscii (cs : List Char) : Prop := ∀ c ∈ cs, IsAscii c

instance (cs : List Char) : Decidable (AllAscii cs) := List.decidableBAll _ cs

/-- The upper case of every character, of one or more characters. Where the one of `upperChar` lies in
ASCII it is that one; elsewhere it does not lie in ASCII either. -/
structure Uppercasing where
  upper : Char → List Char
  inside : ∀ c, (∀ d ∈ upperChar c, IsAscii d) → upper c = upperChar c
  outside : ∀ c, (∃ d ∈ upperChar c, ¬IsAscii d) → ∃ d ∈ upper c, ¬IsAscii d

/-- Characters that never are part of a name may stand for themselves. -/
instance : Inhabited Uppercasing := ⟨⟨upperChar, fun _ _ => rfl, fun _ h => h⟩⟩

/-- A hyphen becomes an underscore. -/
def underscored (c : Char) : Char := if c = '-' then '_' else c

theorem isAscii_underscored : IsAscii (underscored c) ↔ IsAscii c := by
  rw [underscored]
  split
  · next hyphen =>
    rw [hyphen]
    exact iff_of_true (by decide) (by decide)
  · exact Iff.rfl

theorem isAlpha_underscored (c : Char) : (underscored c).isAlpha = c.isAlpha := by
  rw [underscored]
  split
  · next hyphen =>
    rw [hyphen]
    decide
  · rfl

theorem map_underscored_ne {name : List Char} (ascii : AllAscii name)
    (h : ∃ d ∈ cs, ¬IsAscii d) : cs.map underscored ≠ name := by
  rintro rfl
  obtain ⟨d, hd, beyond⟩ := h
  exact beyond (isAscii_underscored.1 (ascii _ (List.mem_map_of_mem hd)))

/-- What is spelled in ASCII does not depend on the upper case beyond ASCII. -/
theorem Uppercasing.spells_iff (full : Uppercasing) {name : List Char}
    (ascii : AllAscii name) (cs : List Char) :
    (cs.flatMap full.upper).map underscored = name ↔
      (cs.flatMap upperChar).map underscored = name := by
  by_cases all : ∀ c ∈ cs, ∀ d ∈ upperChar c, IsAscii d
  · rw [List.flatMap_congr fun c hc => full.inside c (all c hc)]
  · simp only [not_forall] at all
    obtain ⟨c, hc, d, hd, beyond⟩ := all
    obtain ⟨e, he, beyond'⟩ := full.outside c ⟨d, hd, beyond⟩
    exact iff_of_false
      (map_underscored_ne ascii ⟨e, List.mem_flatMap.2 ⟨c, hc, he⟩, beyond'⟩)
      (map_underscored_ne ascii ⟨d, List.mem_flatMap.2 ⟨c, hc, hd⟩, beyond⟩)

theorem upperChar_of_ascii (h : IsAscii c) : upperChar c = [c.toUpper] := by
  have other {e : Char} (he : ¬IsAscii e) : c ≠ e := fun same => he (same ▸ h)
  rw [upperChar, if_neg (other (by decide)), if_neg (other (by decide)), if_neg (other (by decide)),
    if_neg (other (by decide)), if_neg (other (by decide)), if_neg (other (by decide)),
    if_neg (other (by decide)), if_neg (other (by decide)),
    if_neg (not_or.2 ⟨other (by decide), other (by decide)⟩)]

/-- The upper case of a numeral does not begin with a letter. -/
theorem IsNumeral.head_upper {limit n : Nat} (h : IsNumeral limit n cs) :
    ∀ c ∈ ((cs.flatMap upperChar).map underscored).head?, c.isAlpha ≠ true := by
  obtain ⟨d, first, sign⟩ := h.head
  obtain ⟨rest, rfl⟩ := List.head?_eq_some_iff.1 first
  have ascii : IsAscii d := by
    rcases sign with rfl | digit
    · decide
    · exact Nat.lt_of_le_of_lt (Char.isDigit_iff_toNat.1 digit).2 (by decide)
  intro c hc
  rw [List.flatMap_cons, upperChar_of_ascii ascii] at hc
  cases hc
  rw [isAlpha_underscored, isAlpha_toUpper]
  rcases sign with rfl | digit
  · decide
  · exact fun letter => IsWordChar.not_isDigit (.inl letter) digit

theorem Alike.upper_eq (h : Alike c d) :
    (upperChar c).map underscored = (upperChar d).map underscored := by
  rcases h.eq_or_isWordChar with rfl | ⟨hc, hd⟩
  · rfl
  · rw [upperChar_of_ascii hc.ascii.2, upperChar_of_ascii hd.ascii.2]
    rcases h with same | ⟨rfl | rfl, rfl | rfl⟩
    · rw [same]
    all_goals decide

theorem upper_eq_of_alike (h : List.Forall₂ Alike cs ds) :
    (cs.flatMap upperChar).map underscored = (ds.flatMap upperChar).map underscored := by
  induction h with
  | nil => rfl
  | cons alike _ ih =>
      rw [List.flatMap_cons, List.flatMap_cons, List.map_append, List.map_append, alike.upper_eq, ih]

end LinkTrials.Text
