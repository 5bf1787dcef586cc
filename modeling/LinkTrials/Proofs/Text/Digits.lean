import Mathlib.Tactic.Ring
import LinkTrials.Text.Blank
import LinkTrials.Text.Numeral

/-!
Lists of digits and what they spell.

A list of digits followed by something else is told apart from it again, its value grows digit by digit,
and the digits of a number spell that number. So a number that is written out in full is read back as
itself by every reader that has room for it, and nothing is trimmed from it.
-/
namespace LinkTrials.Text

/-- Nothing but digits. -/
def AllDigits (ds : List Char) : Prop := ∀ c ∈ ds, c.isDigit = true

/-- The text goes on with something else than a digit, or not at all. -/
def EndsDigits (rest : List Char) : Prop := ∀ c ∈ rest.head?, c.isDigit = false

variable {ds rest : List Char}

theorem endsDigits_nil : EndsDigits [] := fun _ h => nomatch h

theorem endsDigits_cons {c : Char} (h : c.isDigit = false) (rest : List Char) :
    EndsDigits (c :: rest) := by
  intro a ha
  cases ha
  exact h

theorem allDigits_toDigits (n : Nat) : AllDigits (Nat.toDigits 10 n) :=
  fun _ h => Nat.isDigit_of_mem_toDigits (by decide) (by decide) h

theorem allDigits_zeros (k : Nat) : AllDigits (List.replicate k '0') := by
  intro c h
  rw [List.eq_of_mem_replicate h]
  rfl

theorem AllDigits.append {es : List Char} (hd : AllDigits ds) (he : AllDigits es) :
    AllDigits (ds ++ es) :=
  fun c h => (List.mem_append.1 h).elim (hd c) (he c)

theorem AllDigits.take (h : AllDigits ds) (k : Nat) : AllDigits (ds.take k) :=
  fun c hc => h c (List.mem_of_mem_take hc)

theorem AllDigits.drop (h : AllDigits ds) (k : Nat) : AllDigits (ds.drop k) :=
  fun c hc => h c (List.mem_of_mem_drop hc)

theorem takeWhile_digits (h : AllDigits ds) (ends : EndsDigits rest) :
    (ds ++ rest).takeWhile Char.isDigit = ds := by
  rw [List.takeWhile_append_of_pos h]
  cases rest with
  | nil => exact List.append_nil ds
  | cons c rest => rw [List.takeWhile_cons_of_neg (by simp [ends c rfl]), List.append_nil]

theorem dropWhile_digits (h : AllDigits ds) (ends : EndsDigits rest) :
    (ds ++ rest).dropWhile Char.isDigit = rest := by
  rw [List.dropWhile_append_of_pos h]
  cases rest with
  | nil => rfl
  | cons c rest => exact List.dropWhile_cons_of_neg (by simp [ends c rfl])

/-! ### Values -/

theorem digitsValue_eq (start : Nat) (ds : List Char) :
    digitsValue start ds = Nat.ofDigitChars 10 ds start := by
  simp only [digitsValue, Nat.ofDigitChars_eq_foldl, Nat.mul_comm 10]

theorem digitsValue_append (start : Nat) (ds es : List Char) :
    digitsValue start (ds ++ es) = digitsValue (digitsValue start ds) es := by
  simp only [digitsValue, List.foldl_append]

theorem digitsValue_toDigits (n : Nat) : digitsValue 0 (Nat.toDigits 10 n) = n := by
  rw [digitsValue_eq, Nat.ofDigitChars_ten_toDigits]

theorem digitsValue_zeros (start k : Nat) :
    digitsValue start (List.replicate k '0') = start * Nat.pow 10 k := by
  rw [digitsValue_eq, Nat.ofDigitChars_replicate_zero, Nat.mul_comm]
  rfl

theorem le_digitsValue (start : Nat) (ds : List Char) : start ≤ digitsValue start ds := by
  induction ds generalizing start with
  | nil => exact Nat.le_refl _
  | cons c ds ih => exact Nat.le_trans (by omega) (ih (start * 10 + (c.toNat - '0'.toNat)))

theorem digit_le_nine {c : Char} (h : c.isDigit = true) : c.toNat - '0'.toNat ≤ 9 := by
  have upper : c.toNat ≤ 57 := (Char.isDigit_iff_toNat.1 h).2
  exact Nat.sub_le_of_le_add upper

theorem digitsValue_lt (start : Nat) (h : AllDigits ds) :
    digitsValue start ds < (start + 1) * Nat.pow 10 ds.length := by
  induction ds generalizing start with
  | nil => exact Nat.lt_of_lt_of_eq (Nat.lt_succ_self start) (Nat.mul_one _).symm
  | cons c ds ih =>
      have digit := digit_le_nine (h c List.mem_cons_self)
      have tail := ih (start * 10 + (c.toNat - '0'.toNat)) fun d hd => h d (List.mem_cons_of_mem _ hd)
      refine Nat.lt_of_lt_of_le tail ?_
      calc (start * 10 + (c.toNat - '0'.toNat) + 1) * Nat.pow 10 ds.length
          ≤ (start + 1) * 10 * Nat.pow 10 ds.length := Nat.mul_le_mul_right _ (by omega)
        _ = (start + 1) * Nat.pow 10 (c :: ds).length := by
            rw [List.length_cons, Nat.pow_eq, Nat.pow_eq, pow_succ]
            ring

/-- Only zero starts with the digit zero. -/
theorem head_toDigits_ne_zero {n : Nat} (hz : n ≠ 0) : ('0' ∉ (Nat.toDigits 10 n).head?) := by
  intro head
  obtain ⟨ds, split⟩ : ∃ ds, Nat.toDigits 10 n = '0' :: ds := by
    cases h : Nat.toDigits 10 n with
    | nil => rw [h] at head; cases head
    | cons c ds => rw [h] at head; cases head; exact ⟨ds, rfl⟩
  have digits : AllDigits ds := fun c hc =>
    allDigits_toDigits n c (by rw [split]; exact List.mem_cons_of_mem _ hc)
  have value : digitsValue 0 ds = n := by
    have whole := digitsValue_toDigits n
    rwa [split] at whole
  have below := digitsValue_lt 0 digits
  rw [value, Nat.zero_add, Nat.one_mul] at below
  rcases Nat.eq_zero_or_pos ds.length with empty | some
  · rw [empty] at below
    exact hz (Nat.lt_one_iff.1 below)
  · have short := (Nat.length_toDigits_le_iff (b := 10) (by decide) some).2 below
    rw [split, List.length_cons] at short
    omega

/-! ### Whole numbers -/

theorem digit?_of_isDigit {c : Char} (h : c.isDigit = true) : digit? c = some (c.toNat - '0'.toNat) := by
  rw [digit?, if_pos h]

theorem readDigits_eq (limit : Nat) (beyond : IntegerFault) (start : Nat) (h : AllDigits ds)
    (room : digitsValue start ds ≤ limit) :
    readDigits limit beyond start ds = .ok (digitsValue start ds) := by
  induction ds generalizing start with
  | nil => rfl
  | cons c ds ih =>
      have next := le_digitsValue (start * 10 + (c.toNat - '0'.toNat)) ds
      simp only [readDigits, digit?_of_isDigit (h c List.mem_cons_self)]
      rw [if_neg (Nat.not_lt_of_le (Nat.le_trans next room))]
      exact ih _ (fun d hd => h d (List.mem_cons_of_mem _ hd)) room

theorem readNat_toString {limit n : Nat} (h : n ≤ limit) : readNat limit (toString n) = .ok n := by
  have digits := allDigits_toDigits n
  have value := digitsValue_toDigits n
  rw [readNat, Nat.toString_eq_ofList_toDigits, String.toList_ofList]
  have nonempty : Nat.toDigits 10 n ≠ [] := Nat.toDigits_ne_nil
  generalize Nat.toDigits 10 n = ds at *
  have read := readDigits_eq limit .tooLarge 0 digits (value ▸ h)
  rw [value] at read
  split
  · exact absurd rfl nonempty
  · exact absurd (digits '+' (by simp)) (by decide)
  · exact absurd (digits '-' (by simp)) (by decide)
  · exact absurd (digits '+' (by simp)) (by decide)
  · exact read

/-! ### Blanks -/

theorem isBlank_of_between {c : Char} (low : 0x20 < c.toNat) (high : c.toNat < 0x85) :
    isBlank c = false := by
  rw [isBlank, inRanges, List.any_eq_false]
  intro r hr
  rw [Bool.and_eq_true, decide_eq_true_eq, decide_eq_true_eq]
  simp only [blankRanges, List.mem_cons, List.not_mem_nil, or_false] at hr
  rcases hr with rfl | rfl | rfl | rfl | rfl | rfl | rfl | rfl | rfl | rfl <;> dsimp only <;> omega

theorem isBlank_of_isDigit {c : Char} (h : c.isDigit = true) : isBlank c = false := by
  obtain ⟨low, high⟩ := Char.isDigit_iff_toNat.1 h
  have zero : '0'.toNat = 48 := rfl
  have nine : '9'.toNat = 57 := rfl
  exact isBlank_of_between (by omega) (by omega)

theorem isAlpha_iff {c : Char} :
    c.isAlpha = true ↔ (65 ≤ c.toNat ∧ c.toNat ≤ 90) ∨ (97 ≤ c.toNat ∧ c.toNat ≤ 122) := by
  have upper : c.isUpper = true ↔ 65 ≤ c.toNat ∧ c.toNat ≤ 90 := decide_eq_true_iff
  have lower : c.isLower = true ↔ 97 ≤ c.toNat ∧ c.toNat ≤ 122 := by
    change (decide (97 ≤ c.toNat) && decide (c.toNat ≤ 122)) = true ↔ _
    rw [Bool.and_eq_true, decide_eq_true_iff, decide_eq_true_iff]
  change (c.isUpper || c.isLower) = true ↔ _
  rw [Bool.or_eq_true, upper, lower]

theorem isBlank_of_isAlpha {c : Char} (h : c.isAlpha = true) : isBlank c = false := by
  have range := isAlpha_iff.1 h
  exact isBlank_of_between (by omega) (by omega)

theorem trim_eq_self {s : String} (h : ∀ c ∈ s.toList, isBlank c = false) : trim s = s := by
  have front : trimFront s.toList = s.toList :=
    trimFront_eq_self fun c hc => h c (List.mem_of_mem_head? hc)
  have back : s.toList.reverse.dropWhile isBlank = s.toList.reverse :=
    trimFront_eq_self fun c hc => h c (List.mem_reverse.1 (List.mem_of_mem_head? hc))
  rw [trim, front, trimBack, back, List.reverse_reverse, String.ofList_toList]

theorem trim_toString_nat (n : Nat) : trim (toString n) = toString n := by
  apply trim_eq_self
  rw [Nat.toString_eq_ofList_toDigits, String.toList_ofList]
  exact fun c hc => isBlank_of_isDigit (allDigits_toDigits n c hc)

end LinkTrials.Text
