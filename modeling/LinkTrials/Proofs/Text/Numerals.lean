import LinkTrials.Proofs.Text.Digits

/-!
Numerals: digits with an optional plus sign in front.

The reader of whole numbers accepts the numerals of the numbers that it has room for, with any zeros in
front, and nothing else.
-/
namespace LinkTrials.Text

/-- The characters of a numeral of `n`, a number of at most `limit`. -/
def IsNumeral (limit n : Nat) (cs : List Char) : Prop :=
  ∃ ds, (cs = ds ∨ cs = '+' :: ds) ∧ ds ≠ [] ∧ AllDigits ds ∧ digitsValue 0 ds = n ∧ n ≤ limit

variable {limit m n : Nat} {cs ds : List Char} {beyond : IntegerFault}

theorem digit?_of_not_isDigit {c : Char} (h : c.isDigit ≠ true) : digit? c = none := by
  rw [digit?, if_neg h]

theorem allDigits_cons {c : Char} : AllDigits (c :: ds) ↔ c.isDigit = true ∧ AllDigits ds :=
  List.forall_mem_cons

/-- The reader of digits fails at the first character that is none, and at the first digit that leads
beyond the limit. -/
theorem readDigits_eq_ok_iff {start : Nat} (room : start ≤ limit) :
    readDigits limit beyond start ds = .ok n ↔
      AllDigits ds ∧ digitsValue start ds = n ∧ n ≤ limit := by
  induction ds generalizing start with
  | nil =>
      rw [readDigits, Except.ok.injEq]
      constructor
      · rintro rfl
        exact ⟨List.forall_mem_nil _, rfl, room⟩
      · exact fun spelled => spelled.2.1
  | cons c ds ih =>
      rw [readDigits, allDigits_cons]
      by_cases digit : c.isDigit = true
      · rw [digit?_of_isDigit digit]
        dsimp only
        split
        · next above =>
          -- the value only grows, so that no later digit brings it back below the limit
          have grows := le_digitsValue (start * 10 + (c.toNat - '0'.toNat)) ds
          refine iff_of_false (fun read => by cases read) ?_
          rintro ⟨_, rfl, fits⟩
          exact absurd fits (Nat.not_le.2 (Nat.lt_of_lt_of_le above grows))
        · next within =>
          rw [ih (Nat.not_lt.1 within)]
          exact and_congr_left' ⟨fun all => ⟨digit, all⟩, And.right⟩
      · rw [digit?_of_not_isDigit digit]
        exact iff_of_false (fun read => by cases read) fun spelled => digit spelled.1.1

/-- A number is read from its numerals and from nothing else. -/
theorem readNat_eq_ok_iff {s : String} : readNat limit s = .ok n ↔ IsNumeral limit n s.toList := by
  have digits (ds : List Char) : readDigits limit .tooLarge 0 ds = .ok n ↔
      AllDigits ds ∧ digitsValue 0 ds = n ∧ n ≤ limit :=
    readDigits_eq_ok_iff (Nat.zero_le limit)
  rw [readNat]
  generalize s.toList = cs
  -- Nothing and a lone sign are refused; one plus sign in front of digits is dropped.
  split
  · refine iff_of_false (fun read => by cases read) ?_
    rintro ⟨ds, rfl | same, some, _⟩
    · exact absurd rfl some
    · cases same
  · refine iff_of_false (fun read => by cases read) ?_
    rintro ⟨ds, rfl | same, some, all, _⟩
    · exact absurd (all '+' List.mem_cons_self) (by decide)
    · cases same
      exact absurd rfl some
  · refine iff_of_false (fun read => by cases read) ?_
    rintro ⟨ds, rfl | same, _, all, _⟩
    · exact absurd (all '-' List.mem_cons_self) (by decide)
    · cases same
  · next rest some =>
    rw [digits]
    constructor
    · exact fun h => ⟨rest, .inr rfl, fun empty => some (by rw [empty]), h⟩
    · rintro ⟨ds, rfl | same, _, h⟩
      · exact absurd (h.1 '+' List.mem_cons_self) (by decide)
      · cases same
        exact h
  · next some _ _ unsigned =>
    rw [digits]
    constructor
    · exact fun h => ⟨cs, .inl rfl, fun empty => some empty, h⟩
    · rintro ⟨ds, rfl | same, _, h⟩
      · exact h
      · exact absurd same (unsigned ds)

theorem IsNumeral.unique (hm : IsNumeral limit m cs) (hn : IsNumeral limit n cs) : m = n := by
  have read : readNat limit (String.ofList cs) = .ok m := by
    rw [readNat_eq_ok_iff, String.toList_ofList]
    exact hm
  have again : readNat limit (String.ofList cs) = .ok n := by
    rw [readNat_eq_ok_iff, String.toList_ofList]
    exact hn
  exact Except.ok.inj (read.symm.trans again)

theorem IsNumeral.head (h : IsNumeral limit n cs) : ∃ c ∈ cs.head?, c = '+' ∨ c.isDigit = true := by
  obtain ⟨ds, rfl | rfl, some, all, _⟩ := h
  · obtain ⟨c, ds, rfl⟩ := List.exists_cons_of_ne_nil some
    exact ⟨c, rfl, .inr (all c List.mem_cons_self)⟩
  · exact ⟨'+', rfl, .inl rfl⟩

theorem IsNumeral.mem (h : IsNumeral limit n cs) : ∀ c ∈ cs, c = '+' ∨ c.isDigit = true := by
  obtain ⟨ds, rfl | rfl, _, all, _⟩ := h
  · exact fun c hc => .inr (all c hc)
  · exact fun c hc => (List.mem_cons.1 hc).imp id (all c)

end LinkTrials.Text
