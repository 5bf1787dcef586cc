import LinkTrials.Decimal.Notation
import LinkTrials.Proofs.Text.Digits

/-!
Texts put together from parts.

A mark that occurs in no part tells the parts from each other: a text falls into its lines at the line
feeds, and a line into segments at a mark between them. A segment is a value behind its label, and one
without a value is left out. If no label starts another one, the line still shows which segments have a
value and what it is. Written numbers have few characters besides digits, so hardly any mark occurs in
them.
-/
namespace LinkTrials.Text

variable {c : Char} {front back : String}

/-- A character does not occur in a text. -/
def Lacks (c : Char) (text : String) : Prop := c ∉ text.toList

instance (c : Char) (text : String) : Decidable (Lacks c text) :=
  inferInstanceAs (Decidable (¬ _))

theorem lacks_append : Lacks c (front ++ back) ↔ Lacks c front ∧ Lacks c back := by
  rw [Lacks, String.toList_append, List.mem_append, not_or, Lacks, Lacks]

theorem lacks_ofList {cs : List Char} : Lacks c (String.ofList cs) ↔ c ∉ cs := by
  rw [Lacks, String.toList_ofList]

theorem lacks_intercalate {mark : String} {parts : List String} (between : Lacks c mark)
    (h : ∀ part ∈ parts, Lacks c part) : Lacks c (mark.intercalate parts) := by
  induction parts with
  | nil => exact lacks_ofList.2 List.not_mem_nil
  | cons part parts ih =>
      obtain ⟨first, rest⟩ := List.forall_mem_cons.1 h
      cases parts with
      | nil => rwa [String.intercalate_singleton]
      | cons next parts =>
          rw [String.intercalate_cons_cons]
          exact lacks_append.2 ⟨lacks_append.2 ⟨first, between⟩, ih rest⟩

theorem map_append_injective (back : String) : Function.Injective (Option.map (· ++ back)) :=
  Option.map_injective fun _ _ => (String.append_left_inj back).1

/-! ### Lines -/

/-- The parts of a text between its line feeds. -/
def lines (text : String) : List String := (text.toList.splitOn '\n').map String.ofList

theorem lines_of_lacks (h : Lacks '\n' front) : lines front = [front] := by
  rw [lines, List.splitOn_eq_singleton h, List.map_singleton, String.ofList_toList]

theorem lines_append (front back : String) :
    lines (front ++ ("\n" ++ back)) = lines front ++ lines back := by
  have split := List.splitOnP_append_cons (p := (· == '\n')) front.toList back.toList
    (beq_self_eq_true '\n')
  rw [lines, String.toList_append, String.toList_append]
  exact (congrArg (List.map String.ofList) split).trans List.map_append

theorem splitOn_append_of_notMem {cs : List Char} (h : c ∉ cs) (text : List Char) :
    (cs ++ text).splitOn c = (text.splitOn c).modifyHead (cs ++ ·) := by
  induction cs with
  | nil =>
      obtain ⟨first, rest, eq⟩ := List.exists_cons_of_ne_nil (List.splitOn_ne_nil c text)
      rw [List.nil_append, eq]
      rfl
  | cons d cs ih =>
      obtain ⟨other, absent⟩ := not_or.1 (mt List.mem_cons.2 h)
      have kept : ¬ (d == c) = true := fun same => other (eq_of_beq same).symm
      rw [List.cons_append, List.splitOn_cons_eq_if_modifyHead, if_neg kept, ih absent,
        List.modifyHead_modifyHead]
      rfl

/-- A front without a line feed belongs to the first line. -/
theorem lines_front (h : Lacks '\n' front) (back : String) :
    ∃ first rest, lines back = first :: rest ∧ lines (front ++ back) = (front ++ first) :: rest := by
  obtain ⟨first, rest, eq⟩ := List.exists_cons_of_ne_nil (List.splitOn_ne_nil '\n' back.toList)
  refine ⟨String.ofList first, rest.map String.ofList, by rw [lines, eq, List.map_cons], ?_⟩
  rw [lines, String.toList_append, splitOn_append_of_notMem h, eq, List.modifyHead_cons,
    List.map_cons, String.ofList_append, String.ofList_toList]

theorem length_lines (text : String) : (lines text).length = text.toList.count '\n' + 1 := by
  rw [lines, List.length_map]
  induction text.toList with
  | nil => rfl
  | cons c rest ih =>
      rw [List.splitOn_cons_eq_if_modifyHead, List.count_cons]
      split
      · rw [List.length_cons, ih]
      · rw [List.length_modifyHead, ih]

theorem lines_intercalate (first : String) {rest : List String} (h : ∀ line ∈ rest, Lacks '\n' line) :
    lines ("\n".intercalate (first :: rest)) = lines first ++ rest := by
  induction rest generalizing first with
  | nil => rw [String.intercalate_singleton, List.append_nil]
  | cons line rest ih =>
      obtain ⟨whole, others⟩ := List.forall_mem_cons.1 h
      rw [String.intercalate_cons_cons, String.append_assoc, lines_append, ih line others,
        lines_of_lacks whole]
      rfl

/-! ### Numbers -/

theorem AllDigits.notMem {ds : List Char} (h : AllDigits ds) (digit : c.isDigit = false) : c ∉ ds := by
  intro hc
  rw [h c hc] at digit
  cases digit

theorem lacks_natural (digit : c.isDigit = false) (n : Nat) : Lacks c (toString n) := by
  rw [Nat.toString_eq_ofList_toDigits, lacks_ofList]
  exact (allDigits_toDigits n).notMem digit

/-- Besides digits a number with a fixed count of places has only these characters. -/
def figureMarks : List Char := "-.Nainf".toList

theorem lacks_fixed (digit : c.isDigit = false) (mark : c ∉ figureMarks) (places : Nat)
    (x : Binary64) : Lacks c (x.fixed places) := by
  have part {cs : List Char} (h : cs ⊆ figureMarks) : c ∉ cs := fun hc => mark (h hc)
  have sign (s : Bool) : c ∉ Binary64.signText s := part (by cases s <;> decide)
  cases x with
  | nan =>
      have word : "NaN".toList ⊆ figureMarks := by decide
      exact part word
  | infinite s =>
      rw [Binary64.fixed, lacks_ofList, List.mem_append, not_or]
      exact ⟨sign s, part (by decide)⟩
  | finite s n fits =>
      have point : c ∉ ['.'] := part (by decide)
      rw [Binary64.fixed, lacks_ofList, List.mem_append, not_or, Decimal.withPlaces]
      generalize Binary64.divEven _ _ = whole
      generalize places + 1 - _ = missing
      have padded := (allDigits_zeros missing).append (allDigits_toDigits whole)
      refine ⟨sign s, ?_⟩
      generalize List.replicate missing '0' ++ Nat.toDigits 10 whole = ds at padded
      rw [List.mem_append, List.mem_cons, not_or, not_or]
      exact ⟨(padded.take _).notMem digit, fun same => point (List.mem_singleton.2 same),
        (padded.drop _).notMem digit⟩

/-! ### Segments -/

/-- A part of a line: a label, and behind it a value if there is one. -/
structure Segment where
  label : String
  value : Option String

namespace Segment

/-- A segment without a value has no text. -/
def text? (s : Segment) : Option String := s.value.map (s.label ++ ·)

/-- The texts of the segments that have one. -/
def texts (segments : List Segment) : List String := segments.filterMap text?

/-- The segments as one text, with a mark between any two. -/
def joined (mark : Char) (segments : List Segment) : String :=
  (String.singleton mark).intercalate (texts segments)

/-- A character occurs neither in a label nor in a value. -/
def Free (c : Char) (segments : List Segment) : Prop :=
  ∀ s ∈ segments, Lacks c s.label ∧ ∀ value ∈ s.value, Lacks c value

/-- No text starts with both labels. -/
def Apart (a b : String) : Prop := ¬a.toList <+: b.toList ∧ ¬b.toList <+: a.toList

instance (a b : String) : Decidable (Apart a b) := inferInstanceAs (Decidable (_ ∧ _))

variable {xs ys : List Segment} {a b : String} {mark : Char}

theorem Apart.append_ne (h : Apart a b) (x y : String) : a ++ x ≠ b ++ y := by
  intro same
  have left : a.toList <+: (a ++ x).toList := by
    rw [String.toList_append]
    exact List.prefix_append a.toList x.toList
  have right : b.toList <+: (a ++ x).toList := by
    rw [same, String.toList_append]
    exact List.prefix_append b.toList y.toList
  exact (List.prefix_or_prefix_of_prefix left right).elim h.1 h.2

theorem mem_texts {text : String} :
    text ∈ texts xs ↔ ∃ s ∈ xs, ∃ value ∈ s.value, s.label ++ value = text := by
  simp [texts, text?]

theorem free_nil : Free c [] := List.forall_mem_nil _

theorem free_append : Free c (xs ++ ys) ↔ Free c xs ∧ Free c ys := List.forall_mem_append

theorem free_cons {value : Option String} : Free c (⟨a, value⟩ :: xs) ↔
    (Lacks c a ∧ ∀ v ∈ value, Lacks c v) ∧ Free c xs :=
  List.forall_mem_cons

theorem Free.lacks (h : Free c xs) : ∀ text ∈ texts xs, Lacks c text := by
  intro text ht
  obtain ⟨s, hs, value, hv, rfl⟩ := mem_texts.1 ht
  obtain ⟨label, values⟩ := h s hs
  exact lacks_append.2 ⟨label, values value hv⟩

theorem Free.joined (h : Free c xs) (other : c ≠ mark) : Lacks c (Segment.joined mark xs) := by
  have between : Lacks c (String.singleton mark) := by
    rwa [Lacks, String.toList_singleton, List.mem_singleton]
  exact lacks_intercalate between h.lacks

/-- A text behind a label is none of the texts behind labels apart from it. -/
theorem notMem_texts (apart : ∀ other ∈ xs.map label, Apart a other) (value : String) :
    a ++ value ∉ texts xs := by
  intro found
  obtain ⟨s, hs, other, _, same⟩ := mem_texts.1 found
  exact (apart s.label (List.mem_map_of_mem hs)).append_ne value other same.symm

/-- The texts tell which segments have a value, and the values. -/
theorem eq_of_texts_eq (labels : xs.map label = ys.map label)
    (apart : (xs.map label).Pairwise Apart) (same : texts xs = texts ys) : xs = ys := by
  induction xs generalizing ys with
  | nil => exact (List.map_eq_nil_iff.1 labels.symm).symm
  | cons x xs ih =>
      cases ys with
      | nil => cases labels
      | cons y ys =>
          obtain ⟨a, v⟩ := x
          obtain ⟨b, w⟩ := y
          obtain ⟨rfl : a = b, others⟩ := List.cons.inj labels
          obtain ⟨first, rest⟩ := List.pairwise_cons.1 apart
          -- A value on one side only would have to stand behind a later label on the other side.
          cases v with
          | none =>
              cases w with
              | none => rw [ih others rest same]
              | some w =>
                  have found : a ++ w ∈ texts xs := same ▸ List.mem_cons_self
                  exact absurd found (notMem_texts first w)
          | some v =>
              cases w with
              | none =>
                  have found : a ++ v ∈ texts ys := same ▸ List.mem_cons_self
                  exact absurd found (notMem_texts (others ▸ first) v)
              | some w =>
                  obtain ⟨here, there⟩ := List.cons.inj same
                  rw [(String.append_right_inj a).1 here, ih others rest there]

/-- A line from which its segments can be read. -/
structure Legible (mark : Char) (segments : List Segment) : Prop where
  apart : (segments.map label).Pairwise Apart
  free : Free mark segments
  told : texts segments ≠ []

theorem Legible.splitOn (h : Legible mark xs) :
    (Segment.joined mark xs).toList.splitOn mark = (texts xs).map String.toList := by
  rw [Segment.joined, String.toList_intercalate, String.toList_singleton]
  refine List.splitOn_intercalate mark ?_ (mt List.map_eq_nil_iff.1 h.told)
  exact List.forall_mem_map.2 h.free.lacks

/-- Two lines with the same labels are equal just if their segments are. -/
theorem Legible.joined_inj (hx : Legible mark xs) (hy : Legible mark ys)
    (labels : xs.map label = ys.map label) :
    Segment.joined mark xs = Segment.joined mark ys ↔ xs = ys := by
  constructor
  · intro same
    have parts : (texts xs).map String.toList = (texts ys).map String.toList := by
      rw [← hx.splitOn, ← hy.splitOn, same]
    exact eq_of_texts_eq labels hx.apart ((List.map_inj_right fun _ _ => String.toList_inj.1).1 parts)
  · exact congrArg (Segment.joined mark)

theorem joined_singleton : joined mark [⟨a, some b⟩] = a ++ b := String.intercalate_singleton

/-- One more segment stands behind a mark, if it has a value. -/
theorem joined_concat (h : texts xs ≠ []) (label : String) (value : Option String) :
    joined mark (xs ++ [⟨label, value⟩]) =
      joined mark xs ++ value.elim "" (String.singleton mark ++ label ++ ·) := by
  have parts : texts (xs ++ [⟨label, value⟩]) = texts xs ++ texts [⟨label, value⟩] :=
    List.filterMap_append
  rw [joined, parts]
  cases value with
  | none => exact (congrArg _ (List.append_nil _)).trans String.append_empty.symm
  | some value =>
      have last : texts [⟨label, some value⟩] = [label ++ value] := rfl
      rw [last, String.intercalate_append_of_ne_nil h (List.cons_ne_nil _ _),
        String.intercalate_singleton, Option.elim_some, joined]
      simp only [String.append_assoc]

end Segment

end LinkTrials.Text
