import LinkTrials.Proofs.Json.Layout
import LinkTrials.Proofs.Json.Reread
import LinkTrials.Proofs.Json.Strings

/-!
JSON texts that are read as they were written.

The reading of the text of a value is the value, except that each binary number is what a reader makes of
its text. That holds of every layout: a value is followed by a comma, a bracket, a blank or nothing, none of
which could belong to a number, and a text has enough characters to count the steps of the reader.
-/
namespace LinkTrials.Json

open Text

variable {c : Char} {cs rest : List Char} {fuel level : Nat} {l : Layout}

mutual

/-- What a reader sees in the text of a value. -/
def toReading : Json → Reading
  | .null => .null
  | .bool b => .bool b
  | .number (.real x) => .number (.real (reread x))
  | .number n => .number n
  | .string s => .string s
  | .list items => .list (itemReadings items) .closed
  | .object members => .object (memberReadings members) .closed

def itemReadings : List Json → List Reading
  | [] => []
  | j :: rest => toReading j :: itemReadings rest

def memberReadings : List (String × Json) → List (Except SyntaxFault String × Reading)
  | [] => []
  | (k, j) :: rest => (.ok k, toReading j) :: memberReadings rest

end

mutual

/-- All numbers in a value are small enough to be kept. -/
def IsKept : Json → Prop
  | .number (.natural n) => n ≤ maxNatural
  | .number (.negative n) => 0 < n ∧ n ≤ UInt64.size / 2
  | .number (.real x) => x.isFinite = true
  | .list items => AreKept items
  | .object members => MembersKept members
  | _ => True

def AreKept : List Json → Prop
  | [] => True
  | j :: rest => IsKept j ∧ AreKept rest

def MembersKept : List (String × Json) → Prop
  | [] => True
  | (_, j) :: rest => IsKept j ∧ MembersKept rest

end

/-! ### Blanks -/

/-- A character that a value begins with, which is no blank and does not close a list. -/
def IsStart (c : Char) : Prop := c ≠ ' ' ∧ c ≠ '\n' ∧ c ≠ '\t' ∧ c ≠ '\r' ∧ c ≠ ']'

instance (c : Char) : Decidable (IsStart c) := inferInstanceAs (Decidable (_ ∧ _))

theorem skipBlanks_cons (h : c ≠ ' ' ∧ c ≠ '\n' ∧ c ≠ '\t' ∧ c ≠ '\r') :
    skipBlanks (c :: cs) = c :: cs := by
  obtain ⟨blank, line, tab, back⟩ := h
  simp [skipBlanks, blank, line, tab, back]

theorem skipBlanks_start (h : IsStart c) : skipBlanks (c :: cs) = c :: cs :=
  skipBlanks_cons ⟨h.1, h.2.1, h.2.2.1, h.2.2.2.1⟩

theorem skipBlanks_append {gap : List Char} (h : ∀ c ∈ gap, isGap c = true) (cs : List Char) :
    skipBlanks (gap ++ cs) = skipBlanks cs :=
  List.dropWhile_append_of_pos h

theorem skipBlanks_gap (l : Layout) (level : Nat) (cs : List Char) :
    skipBlanks (l.gap level ++ cs) = skipBlanks cs :=
  skipBlanks_append (l.isGap_gap level) cs

theorem isStart_of_isDigit (h : c.isDigit = true) : IsStart c := by
  refine ⟨?_, ?_, ?_, ?_, ?_⟩ <;> (rintro rfl; exact absurd h (by decide))

/-! ### Numbers -/

theorem head_of_readNumber {negative : Bool} {r : Reading}
    (h : readNumber negative cs = (r, some rest)) : ∃ c ds, cs = c :: ds ∧ c.isDigit = true := by
  cases cs with
  | nil => cases h
  | cons c ds =>
      refine ⟨c, ds, rfl, ?_⟩
      cases digit : c.isDigit with
      | true => rfl
      | false =>
          rw [readNumber, List.takeWhile_cons_of_neg (by simp [digit]),
            List.dropWhile_cons_of_neg (by simp [digit])] at h
          cases h

theorem readValue_digit (h : c.isDigit = true) :
    readValue (fuel + 1) (c :: cs) = readNumber false (c :: cs) := by
  rw [readValue, skipBlanks_start (isStart_of_isDigit h)]
  split
  all_goals first
    | next eq => cases eq; exact absurd h (by decide)
    | next eq => cases eq; rw [if_pos h]
    | next eq => cases eq

theorem readValue_minus : readValue (fuel + 1) ('-' :: cs) = readNumber true cs := by
  rw [readValue, skipBlanks_cons (by decide)]
  rfl

theorem readNumber_toDigits (s : Bool) (n : Nat) (ends : EndsNumber rest) :
    readNumber s (Nat.toDigits 10 n ++ rest) =
      (ofParts s (Nat.toDigits 10 n) none none, some rest) := by
  have noPoint : '.' ∉ rest.head? := fun point => (ends '.' point).2.1 rfl
  rw [readNumber_whole s (isLead_toDigits n) ends.endsDigits noPoint, afterDigits_of_ends _ _ _ ends]

theorem readValue_natural {n : Nat} (h : n ≤ maxNatural) (ends : EndsNumber rest) :
    readValue (fuel + 1) (Nat.toDigits 10 n ++ rest) = (.number (.natural n), some rest) := by
  have number := readNumber_toDigits false n ends
  obtain ⟨c, ds, text, digit⟩ := head_of_readNumber number
  rw [ofParts_whole (by rwa [digitsValue_toDigits]), digitsValue_toDigits] at number
  rw [text] at number ⊢
  rw [readValue_digit digit, number]

theorem readValue_negative {n : Nat} (h : 0 < n ∧ n ≤ UInt64.size / 2) (ends : EndsNumber rest) :
    readValue (fuel + 1) ('-' :: Nat.toDigits 10 n ++ rest) = (.number (.negative n), some rest) := by
  have half : UInt64.size / 2 ≤ maxNatural := by decide
  have parts : significand 0 (Nat.toDigits 10 n) = (n, 0) := by
    have value := digitsValue_toDigits n
    rw [significand_eq (by rw [value]; exact Nat.le_trans h.2 half), value]
  rw [List.cons_append, readValue_minus, readNumber_toDigits true n ends]
  simp [ofParts, parts, h]

theorem readValue_real {x : Binary64} (h : x.isFinite = true) (ends : EndsNumber rest) :
    readValue (fuel + 1) (realText x ++ rest) = (.number (.real (reread x)), some rest) := by
  cases x with
  | nan | infinite s => cases h
  | finite s n fits =>
      have number := readNumber_magnitudeText s fits ends
      rw [realText_finite]
      cases s with
      | true => exact readValue_minus.trans number
      | false =>
          obtain ⟨c, ds, text, digit⟩ := head_of_readNumber number
          rw [Binary64.signText, if_neg Bool.false_ne_true, List.nil_append, text,
            readValue_digit digit, ← text, number]

/-! ### Values -/

theorem isStart_natural (n : Nat) : ∃ c ds, Nat.toDigits 10 n = c :: ds ∧ IsStart c := by
  cases text : Nat.toDigits 10 n with
  | nil => exact absurd text Nat.toDigits_ne_nil
  | cons c ds =>
      refine ⟨c, ds, rfl, isStart_of_isDigit (allDigits_toDigits n c ?_)⟩
      rw [text]
      exact List.mem_cons_self

theorem isStart_real {x : Binary64} (h : x.isFinite = true) :
    ∃ c ds, realText x = c :: ds ∧ IsStart c := by
  cases x with
  | nan | infinite s => cases h
  | finite s n fits =>
      rw [realText_finite]
      cases s with
      | true => exact ⟨'-', _, rfl, by decide⟩
      | false =>
          have number := readNumber_magnitudeText false fits endsNumber_nil
          obtain ⟨c, ds, text, digit⟩ := head_of_readNumber number
          rw [List.append_nil] at text
          exact ⟨c, ds, text, isStart_of_isDigit digit⟩

theorem isStart_chars (l : Layout) (level : Nat) {j : Json} (h : IsKept j) :
    ∃ c ds, l.chars level j = c :: ds ∧ IsStart c := by
  cases j with
  | null => exact ⟨'n', _, by rw [Layout.chars], by decide⟩
  | bool b =>
      cases b with
      | true => exact ⟨'t', _, by rw [Layout.chars], by decide⟩
      | false => exact ⟨'f', _, by rw [Layout.chars], by decide⟩
  | number n =>
      rw [Layout.chars]
      cases n with
      | natural n => exact isStart_natural n
      | negative n => exact ⟨'-', _, rfl, by decide⟩
      | real x => exact isStart_real (by rwa [IsKept] at h)
  | string s => exact ⟨'"', _, by rw [Layout.chars, stringText], by decide⟩
  | list items =>
      cases items with
      | nil => exact ⟨'[', _, by rw [Layout.chars], by decide⟩
      | cons j rest => exact ⟨'[', _, by rw [Layout.chars], by decide⟩
  | object members =>
      cases members with
      | nil => exact ⟨'{', _, by rw [Layout.chars], by decide⟩
      | cons m rest => exact ⟨'{', _, by rw [Layout.chars], by decide⟩

theorem endsNumber_gap (l : Layout) (level : Nat) (h : EndsNumber cs) :
    EndsNumber (l.gap level ++ cs) := by
  have blank := l.isGap_gap level
  cases text : l.gap level with
  | nil => exact h
  | cons c rest =>
      have first : isGap c = true := blank c (by rw [text]; exact List.mem_cons_self)
      rw [isGap] at first
      refine endsNumber_cons ?_ _
      simp only [Bool.or_eq_true, beq_iff_eq] at first
      rcases first with ((rfl | rfl) | rfl) | rfl <;> decide

theorem endsNumber_items (items : List Json) : EndsNumber (l.items level items ++ cs) := by
  cases items with
  | nil =>
      rw [Layout.items, List.append_assoc]
      exact endsNumber_gap l level (endsNumber_cons (by decide) _)
  | cons j rest =>
      rw [Layout.items]
      exact endsNumber_cons (by decide) _

theorem endsNumber_members (members : List (String × Json)) :
    EndsNumber (l.members level members ++ cs) := by
  cases members with
  | nil =>
      rw [Layout.members, List.append_assoc]
      exact endsNumber_gap l level (endsNumber_cons (by decide) _)
  | cons m rest =>
      rw [Layout.members]
      exact endsNumber_cons (by decide) _

theorem stringText_append (k : String) :
    stringText k ++ cs = '"' :: (k.toList.flatMap escapedChar ++ '"' :: cs) := by
  rw [stringText, List.cons_append, List.append_assoc]
  rfl

theorem readValue_string (s : String) :
    readValue (fuel + 1) (stringText s ++ rest) = (.string s, some rest) := by
  rw [stringText_append, readValue, skipBlanks_cons (by decide)]
  simp only [readString_text]

/-! ### Lists and objects -/

theorem readItems_end (first : Bool) :
    readItems (fuel + 1) first (l.gap level ++ ']' :: rest) = ([], .closed, some rest) := by
  rw [readItems, skipBlanks_gap, skipBlanks_cons (by decide)]
  rfl

theorem readItems_first (h : IsStart c) :
    readItems (fuel + 1) true (l.gap level ++ c :: cs) = readItem fuel (c :: cs) := by
  rw [readItems, skipBlanks_gap, skipBlanks_start h]
  split
  · next eq => cases eq
  · next eq =>
    cases eq
    exact absurd rfl h.2.2.2.2
  · next eq =>
    cases eq
    rfl

theorem readItems_next (h : IsStart c) :
    readItems (fuel + 1) false (',' :: (l.gap level ++ c :: cs)) = readItem fuel (c :: cs) := by
  rw [readItems, skipBlanks_cons (by decide)]
  split
  · next eq => cases eq
  · next eq => cases eq
  · next eq =>
    cases eq
    rw [if_neg Bool.false_ne_true, if_pos rfl, skipBlanks_gap, skipBlanks_start h]
    split
    · next eq => cases eq
    · next eq =>
      cases eq
      exact absurd rfl h.2.2.2.2
    · rfl

theorem readMembers_end (first : Bool) :
    readMembers (fuel + 1) first (l.gap level ++ '}' :: rest) = ([], .closed, some rest) := by
  rw [readMembers, skipBlanks_gap, skipBlanks_cons (by decide)]
  rfl

theorem readMembers_first :
    readMembers (fuel + 1) true (l.gap level ++ '"' :: cs) = readMember fuel cs := by
  rw [readMembers, skipBlanks_gap, skipBlanks_cons (by decide)]
  rfl

theorem readMembers_next :
    readMembers (fuel + 1) false (',' :: (l.gap level ++ '"' :: cs)) = readMember fuel cs := by
  rw [readMembers, skipBlanks_cons (by decide)]
  split
  · next eq => cases eq
  · next eq => cases eq
  · next eq =>
    cases eq
    rw [if_neg Bool.false_ne_true, if_pos rfl, skipBlanks_gap, skipBlanks_cons (by decide)]
    rfl

theorem readValue_space (l : Layout) : readValue fuel (l.space ++ cs) = readValue fuel cs := by
  cases fuel with
  | zero => rw [readValue, readValue]
  | succ fuel => rw [readValue, readValue, skipBlanks_append l.isGap_space]

theorem readMember_text (l : Layout) (k : String) :
    readMember (fuel + 1) (k.toList.flatMap escapedChar ++ '"' :: ':' :: (l.space ++ cs)) =
      match readValue fuel cs with
      | (value, none) => ([(.ok k, value)], .inside, none)
      | (value, some rest) =>
        let (members, ending, after) := readMembers fuel false rest
        ((.ok k, value) :: members, ending, after) := by
  have spaced : readValue fuel (l.space ++ cs) = readValue fuel cs := readValue_space l
  rw [readMember, readString_text]
  dsimp only
  rw [skipBlanks_cons (by decide)]
  exact spaced ▸ rfl

section Elements

variable {r : Reading} {after : Option (List Char)}

/-- An element and what follows it, be the element the first one or not. -/
theorem readItems_of_item (l : Layout) {items : List Reading} {j : Json} (kept : IsKept j)
    (value : readValue fuel (l.chars level j ++ cs) = (r, some cs))
    (others : readItems fuel false cs = (items, .closed, after)) :
    readItems (fuel + 2) true (l.gap level ++ (l.chars level j ++ cs)) =
        (r :: items, .closed, after) ∧
      readItems (fuel + 2) false (',' :: (l.gap level ++ (l.chars level j ++ cs))) =
        (r :: items, .closed, after) := by
  have item : readItem (fuel + 1) (l.chars level j ++ cs) = (r :: items, .closed, after) := by
    rw [readItem, value]
    simp only [others]
  obtain ⟨c, ds, head, start⟩ := isStart_chars l level kept
  rw [head] at item ⊢
  exact ⟨(readItems_first start).trans item, (readItems_next start).trans item⟩

/-- A member and what follows it, be the member the first one or not. -/
theorem readMembers_of_member (l : Layout) (level : Nat) (k : String)
    {members : List (Except SyntaxFault String × Reading)}
    (value : readValue fuel (cs ++ rest) = (r, some rest))
    (others : readMembers fuel false rest = (members, .closed, after)) :
    readMembers (fuel + 2) true (l.gap level ++ (stringText k ++ ':' :: (l.space ++ (cs ++ rest)))) =
        ((.ok k, r) :: members, .closed, after) ∧
      readMembers (fuel + 2) false
          (',' :: (l.gap level ++ (stringText k ++ ':' :: (l.space ++ (cs ++ rest))))) =
        ((.ok k, r) :: members, .closed, after) := by
  have member : readMember (fuel + 1)
      (k.toList.flatMap escapedChar ++ '"' :: ':' :: (l.space ++ (cs ++ rest))) =
        ((.ok k, r) :: members, .closed, after) := by
    rw [readMember_text l, value]
    simp only [others]
  rw [stringText_append]
  exact ⟨readMembers_first.trans member, readMembers_next.trans member⟩

end Elements

mutual

/-- The text of a value is read as the value, and nothing behind it is touched. -/
theorem readValue_chars (l : Layout) (level fuel : Nat) (rest : List Char) : (j : Json) → IsKept j →
    3 * (l.chars level j).length < fuel → EndsNumber rest →
      readValue fuel (l.chars level j ++ rest) = (toReading j, some rest)
  | .null, _, enough, _ => by
    obtain ⟨fuel, rfl⟩ := Nat.exists_eq_add_of_lt enough
    rfl
  | .bool true, _, enough, _ => by
    obtain ⟨fuel, rfl⟩ := Nat.exists_eq_add_of_lt enough
    rfl
  | .bool false, _, enough, _ => by
    obtain ⟨fuel, rfl⟩ := Nat.exists_eq_add_of_lt enough
    rfl
  | .number (.natural n), kept, enough, ends => by
    obtain ⟨fuel, rfl⟩ := Nat.exists_eq_add_of_lt enough
    exact readValue_natural kept ends
  | .number (.negative n), kept, enough, ends => by
    obtain ⟨fuel, rfl⟩ := Nat.exists_eq_add_of_lt enough
    exact readValue_negative kept ends
  | .number (.real x), kept, enough, ends => by
    obtain ⟨fuel, rfl⟩ := Nat.exists_eq_add_of_lt enough
    exact readValue_real kept ends
  | .string s, _, enough, _ => by
    obtain ⟨fuel, rfl⟩ := Nat.exists_eq_add_of_lt enough
    exact readValue_string s
  | .list [], _, enough, _ => by
    have two : 2 ≤ fuel := by
      simp [Layout.chars] at enough
      omega
    obtain ⟨fuel, rfl⟩ := Nat.exists_eq_add_of_le' two
    rfl
  | .list (j :: items), kept, enough, _ => by
    -- The bracket pays for three steps: into the list, to the element and into the element.
    simp only [Layout.chars, List.length_cons, List.length_append] at enough
    obtain ⟨fuel, rfl⟩ := Nat.exists_eq_add_of_le' (by omega : 3 ≤ fuel)
    have value := readValue_chars l (level + 1) fuel (l.items level items ++ rest) j kept.1
      (by omega) (endsNumber_items items)
    have others := readItems_items l level fuel rest items kept.2 (by omega)
    have all := (readItems_of_item l kept.1 value others).1
    rw [Layout.chars, List.cons_append, List.append_assoc, List.append_assoc, readValue,
      skipBlanks_cons (by decide)]
    simp only [all]
    rfl
  | .object [], _, enough, _ => by
    have two : 2 ≤ fuel := by
      simp [Layout.chars] at enough
      omega
    obtain ⟨fuel, rfl⟩ := Nat.exists_eq_add_of_le' two
    rfl
  | .object ((k, j) :: members), kept, enough, _ => by
    simp only [Layout.chars, List.length_cons, List.length_append] at enough
    obtain ⟨fuel, rfl⟩ := Nat.exists_eq_add_of_le' (by omega : 3 ≤ fuel)
    have value := readValue_chars l (level + 1) fuel (l.members level members ++ rest) j kept.1
      (by omega) (endsNumber_members members)
    have others := readMembers_members l level fuel rest members kept.2 (by omega)
    have all := (readMembers_of_member l (level + 1) k value others).1
    rw [Layout.chars, List.cons_append, List.append_assoc, List.append_assoc, List.cons_append,
      List.append_assoc, List.append_assoc, readValue, skipBlanks_cons (by decide)]
    simp only [all]
    rfl

theorem readItems_items (l : Layout) (level fuel : Nat) (rest : List Char) : (items : List Json) →
    AreKept items → 3 * (l.items level items).length < fuel →
      readItems fuel false (l.items level items ++ rest) =
        (itemReadings items, .closed, some rest)
  | [], _, enough => by
    obtain ⟨fuel, rfl⟩ := Nat.exists_eq_add_of_lt enough
    rw [Layout.items, List.append_assoc]
    exact readItems_end false
  | j :: items, kept, enough => by
    simp only [Layout.items, List.length_cons, List.length_append] at enough
    obtain ⟨fuel, rfl⟩ := Nat.exists_eq_add_of_le' (by omega : 2 ≤ fuel)
    have value := readValue_chars l (level + 1) fuel (l.items level items ++ rest) j kept.1
      (by omega) (endsNumber_items items)
    have others := readItems_items l level fuel rest items kept.2 (by omega)
    rw [Layout.items, List.cons_append, List.append_assoc, List.append_assoc]
    exact (readItems_of_item l kept.1 value others).2

theorem readMembers_members (l : Layout) (level fuel : Nat) (rest : List Char) :
    (members : List (String × Json)) → MembersKept members →
      3 * (l.members level members).length < fuel →
        readMembers fuel false (l.members level members ++ rest) =
          (memberReadings members, .closed, some rest)
  | [], _, enough => by
    obtain ⟨fuel, rfl⟩ := Nat.exists_eq_add_of_lt enough
    rw [Layout.members, List.append_assoc]
    exact readMembers_end false
  | (k, j) :: members, kept, enough => by
    simp only [Layout.members, List.length_cons, List.length_append] at enough
    obtain ⟨fuel, rfl⟩ := Nat.exists_eq_add_of_le' (by omega : 2 ≤ fuel)
    have value := readValue_chars l (level + 1) fuel (l.members level members ++ rest) j kept.1
      (by omega) (endsNumber_members members)
    have others := readMembers_members l level fuel rest members kept.2 (by omega)
    rw [Layout.members, List.cons_append, List.append_assoc, List.append_assoc, List.cons_append,
      List.append_assoc, List.append_assoc]
    exact (readMembers_of_member l (level + 1) k value others).2

end

/-- A text in any layout is read as the value it was written for, with nothing left over. -/
theorem ofText_chars (l : Layout) {j : Json} (kept : IsKept j) :
    Reading.ofText (String.ofList (l.chars 0 j)) = (toReading j, false) := by
  have value := readValue_chars l 0 (3 * (l.chars 0 j).length + 1) [] j kept (Nat.lt_succ_self _)
    endsNumber_nil
  rw [List.append_nil] at value
  rw [Reading.ofText, String.toList_ofList]
  simp only [value]
  rfl

theorem ofText_pretty {j : Json} (kept : IsKept j) :
    Reading.ofText j.pretty = (toReading j, false) := by
  rw [pretty, ← Layout.chars_lines, ofText_chars _ kept]

theorem ofText_compact {j : Json} (kept : IsKept j) :
    Reading.ofText j.compact = (toReading j, false) := by
  rw [compact, ← Layout.chars_dense 0, ofText_chars _ kept]

end LinkTrials.Json
