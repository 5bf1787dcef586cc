import LinkTrials.Json.Reading

/-!
Ways to lay out a JSON text.

A layout says which blanks stand before the parts of a list or an object, by their level, and which behind
the colon of a member. Both notations of a value, the one on a single line and the one with a line for each
part, are layouts; where no gap breaks the line, the text is one line, as no string holds a line break once
it is escaped.
-/
namespace LinkTrials.Json

/-- A blank of a JSON text. -/
def isGap (c : Char) : Bool := c == ' ' || c == '\n' || c == '\t' || c == '\r'

/-- The blanks between the parts of a value. -/
structure Layout where
  /-- Before an element or a member of a level, or before the bracket that ends the level above. -/
  gap : Nat → List Char
  /-- Between a colon and the value of the member. -/
  space : List Char
  isGap_gap : ∀ level, ∀ c ∈ gap level, isGap c = true
  isGap_space : ∀ c ∈ space, isGap c = true

namespace Layout

variable (l : Layout)

mutual

/-- A value laid out. -/
def chars (level : Nat) : Json → List Char
  | .null => ['n', 'u', 'l', 'l']
  | .bool true => ['t', 'r', 'u', 'e']
  | .bool false => ['f', 'a', 'l', 's', 'e']
  | .number n => n.text
  | .string s => stringText s
  | .list [] => ['[', ']']
  | .list (j :: rest) =>
    '[' :: (l.gap (level + 1) ++ (chars (level + 1) j ++ items level rest))
  | .object [] => ['{', '}']
  | .object ((k, j) :: rest) =>
    '{' :: (l.gap (level + 1) ++ (stringText k ++ ':' ::
      (l.space ++ (chars (level + 1) j ++ members level rest))))

def items (level : Nat) : List Json → List Char
  | [] => l.gap level ++ [']']
  | j :: rest => ',' :: (l.gap (level + 1) ++ (chars (level + 1) j ++ items level rest))

def members (level : Nat) : List (String × Json) → List Char
  | [] => l.gap level ++ ['}']
  | (k, j) :: rest =>
    ',' :: (l.gap (level + 1) ++ (stringText k ++ ':' ::
      (l.space ++ (chars (level + 1) j ++ members level rest))))

end

/-! ### The two notations -/

theorem isGap_newLine (level : Nat) : ∀ c ∈ newLine level, isGap c = true := by
  intro c hc
  rcases List.mem_cons.1 hc with rfl | blank
  · rfl
  · rw [List.eq_of_mem_replicate blank]
    rfl

/-- A line for each part. -/
def lines : Layout where
  gap := newLine
  space := [' ']
  isGap_gap := isGap_newLine
  isGap_space := fun c hc => by rw [List.mem_singleton.1 hc]; rfl

/-- No blanks at all. -/
def dense : Layout where
  gap := fun _ => []
  space := []
  isGap_gap := fun _ => List.forall_mem_nil _
  isGap_space := List.forall_mem_nil _

mutual

theorem chars_lines (level : Nat) : (j : Json) → lines.chars level j = prettyChars level j
  | .null | .bool true | .bool false | .number _ | .string _ | .list [] | .object [] => by
    rw [chars, prettyChars]
  | .list (j :: rest) => by
    rw [chars, prettyChars, chars_lines (level + 1) j, items_lines level rest]
    rfl
  | .object ((k, j) :: rest) => by
    rw [chars, prettyChars, chars_lines (level + 1) j, members_lines level rest]
    rfl

theorem items_lines (level : Nat) : (items : List Json) →
    lines.items level items = prettyItems level items
  | [] => by rw [items, prettyItems]; rfl
  | j :: rest => by
    rw [items, prettyItems, chars_lines (level + 1) j, items_lines level rest]
    rfl

theorem members_lines (level : Nat) : (members : List (String × Json)) →
    lines.members level members = prettyMembers level members
  | [] => by rw [members, prettyMembers]; rfl
  | (k, j) :: rest => by
    rw [members, prettyMembers, chars_lines (level + 1) j, members_lines level rest]
    rfl

end

mutual

theorem chars_dense (level : Nat) : (j : Json) → dense.chars level j = compactChars j
  | .null | .bool true | .bool false | .number _ | .string _ | .list [] | .object [] => by
    rw [chars, compactChars]
  | .list (j :: rest) => by
    rw [chars, compactChars, chars_dense (level + 1) j, items_dense level rest]
    rfl
  | .object ((k, j) :: rest) => by
    rw [chars, compactChars, chars_dense (level + 1) j, members_dense level rest]
    rfl

theorem items_dense (level : Nat) : (items : List Json) →
    dense.items level items = compactItems items
  | [] => by rw [items, compactItems]; rfl
  | j :: rest => by
    rw [items, compactItems, chars_dense (level + 1) j, items_dense level rest]
    rfl

theorem members_dense (level : Nat) : (members : List (String × Json)) →
    dense.members level members = compactMembers members
  | [] => by rw [members, compactMembers]; rfl
  | (k, j) :: rest => by
    rw [members, compactMembers, chars_dense (level + 1) j, members_dense level rest]
    rfl

end

end Layout

end LinkTrials.Json
