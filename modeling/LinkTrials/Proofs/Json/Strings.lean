import LinkTrials.Json.Reading

/-!
Strings that are read as they were written.

A character is written as one unit of a string, itself or an escape of its number, and each of these
units spells the character. Only controls are written with their number, so no unit is taken for half of
a pair.
-/
namespace LinkTrials.Json

variable {c : Char} {rest : List Char}

/-- A unit that spells one character, whatever stands behind it. -/
def Spells (u : Unit16) (c : Char) : Prop :=
  ∀ ending units, spell ending (u :: units) = (spell ending units).map (c :: ·)

theorem spells_char (c : Char) : Spells (.char c) c := fun _ _ => rfl

theorem spells_control (h : c.toNat < 0x20) : Spells (.escaped c.toNat) c := by
  intro ending units
  have trail : isTrailSurrogate c.toNat = false := by
    simp only [isTrailSurrogate, Bool.and_eq_false_iff, decide_eq_false_iff_not]
    omega
  have lead : isLeadSurrogate c.toNat = false := by
    simp only [isLeadSurrogate, Bool.and_eq_false_iff, decide_eq_false_iff_not]
    omega
  rw [spell.eq_def]
  simp only [trail, lead, Bool.false_eq_true, if_false, Char.ofNat_toNat]

theorem hex4?_control : ∀ n < 0x20,
    hex4? '0' '0' (Nat.digitChar (n / 16)) (Nat.digitChar (n % 16)) = some n := by
  decide

/-- A string that begins with a unit. -/
def withUnit (u : Unit16) : List Unit16 × StringEnd × List Char → List Unit16 × StringEnd × List Char
  | (units, ending, after) => (u :: units, ending, after)

theorem scanString_letter {letter : Char} (h : letterEscape? letter = some c) (rest : List Char) :
    scanString ('\\' :: letter :: rest) = withUnit (.char c) (scanString rest) := by
  have plain : letter ≠ 'u' := by
    rintro rfl
    cases h
  rw [scanString, h]
  · rfl
  all_goals simp [plain]

theorem scanString_control (h : c.toNat < 0x20) (rest : List Char) :
    scanString ('\\' :: 'u' :: '0' :: '0' :: Nat.digitChar (c.toNat / 16) ::
      Nat.digitChar (c.toNat % 16) :: rest) = withUnit (.escaped c.toNat) (scanString rest) := by
  rw [scanString, hex4?_control _ h]
  rfl

theorem scanString_plain (quote : c ≠ '"') (backslash : c ≠ '\\') (h : ¬ c.toNat < 0x20)
    (rest : List Char) : scanString (c :: rest) = withUnit (.char c) (scanString rest) := by
  rw [scanString, if_neg h]
  · rfl
  all_goals simp [quote, backslash]

theorem scanString_escapedChar (c : Char) (rest : List Char) :
    ∃ u, Spells u c ∧ scanString (escapedChar c ++ rest) = withUnit u (scanString rest) := by
  unfold escapedChar
  repeat' split
  · next eq => subst eq; exact ⟨_, spells_char _, scanString_letter rfl rest⟩
  · next eq => subst eq; exact ⟨_, spells_char _, scanString_letter rfl rest⟩
  · next eq => subst eq; exact ⟨_, spells_char _, scanString_letter rfl rest⟩
  · next eq => subst eq; exact ⟨_, spells_char _, scanString_letter rfl rest⟩
  · next eq => subst eq; exact ⟨_, spells_char _, scanString_letter rfl rest⟩
  · next eq => subst eq; exact ⟨_, spells_char _, scanString_letter rfl rest⟩
  · next eq => subst eq; exact ⟨_, spells_char _, scanString_letter rfl rest⟩
  · next control => exact ⟨_, spells_control control, scanString_control control rest⟩
  · next quote backslash _ _ _ _ _ control =>
    exact ⟨_, spells_char c, scanString_plain quote backslash control rest⟩

theorem scanString_text (cs rest : List Char) :
    ∃ units, scanString (cs.flatMap escapedChar ++ '"' :: rest) = (units, .closed, rest) ∧
      spell .closed units = .ok cs := by
  induction cs with
  | nil => exact ⟨[], by rw [List.flatMap_nil, List.nil_append, scanString], rfl⟩
  | cons c cs ih =>
      obtain ⟨units, scanned, spelled⟩ := ih
      obtain ⟨u, spells, first⟩ := scanString_escapedChar c (cs.flatMap escapedChar ++ '"' :: rest)
      refine ⟨u :: units, ?_, ?_⟩
      · rw [List.flatMap_cons, List.append_assoc, first, scanned]
        rfl
      · rw [spells, spelled]
        rfl

/-- A string is read back, with what stands behind it. -/
theorem readString_text (s : String) (rest : List Char) :
    readString (s.toList.flatMap escapedChar ++ '"' :: rest) = (.ok s, .ok rest) := by
  obtain ⟨units, scanned, spelled⟩ := scanString_text s.toList rest
  simp only [readString, scanned, spelled, Except.map, String.ofList_toList, if_true]

end LinkTrials.Json
