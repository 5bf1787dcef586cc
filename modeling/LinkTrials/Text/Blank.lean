/-!
White space beyond ASCII: the 25 characters with the Unicode property White_Space, as closed ranges
of code points, and the cutting of white space from the ends of a text.
-/
namespace LinkTrials.Text

/-- Ascending and disjoint closed ranges. -/
def blankRanges : List (Nat × Nat) :=
  [(0x09, 0x0D), (0x20, 0x20), (0x85, 0x85), (0xA0, 0xA0), (0x1680, 0x1680), (0x2000, 0x200A),
   (0x2028, 0x2029), (0x202F, 0x202F), (0x205F, 0x205F), (0x3000, 0x3000)]

/-- A code point lies in one of the ranges. -/
def inRanges (ranges : List (Nat × Nat)) (n : Nat) : Bool :=
  ranges.any fun r => decide (r.1 ≤ n) && decide (n ≤ r.2)

def isBlank (c : Char) : Bool := inRanges blankRanges c.toNat

/-- What is left after the white space at the front. -/
def trimFront (cs : List Char) : List Char := cs.dropWhile isBlank

/-- What is left before the white space at the back. -/
def trimBack (cs : List Char) : List Char := (cs.reverse.dropWhile isBlank).reverse

def trim (s : String) : String := String.ofList (trimBack (trimFront s.toList))

theorem trimBack_prefix (cs : List Char) : trimBack cs <+: cs := by
  have tail := List.dropWhile_suffix isBlank (l := cs.reverse)
  rw [← List.reverse_prefix, List.reverse_reverse] at tail
  exact tail

theorem trimFront_eq_self {cs : List Char} (h : ∀ c ∈ cs.head?, isBlank c = false) :
    trimFront cs = cs := by
  cases cs with
  | nil => rfl
  | cons c rest => simp [trimFront, h c rfl]

theorem isBlank_head_trimFront (cs : List Char) :
    ∀ c ∈ (trimFront cs).head?, isBlank c = false := by
  intro c hc
  have first := List.head?_dropWhile_not isBlank cs
  rw [trimFront, Option.mem_def] at hc
  rwa [hc] at first

theorem trimFront_trimFront (cs : List Char) : trimFront (trimFront cs) = trimFront cs :=
  trimFront_eq_self (isBlank_head_trimFront cs)

theorem trimBack_trimBack (cs : List Char) : trimBack (trimBack cs) = trimBack cs := by
  have h := trimFront_trimFront cs.reverse
  simp only [trimFront] at h
  simp only [trimBack, List.reverse_reverse, h]

/-- Trimming leaves nothing to trim. -/
theorem trim_trim (s : String) : trim (trim s) = trim s := by
  have front : trimFront (trimBack (trimFront s.toList)) = trimBack (trimFront s.toList) := by
    apply trimFront_eq_self
    intro c hc
    obtain ⟨rest, same⟩ := trimBack_prefix (trimFront s.toList)
    apply isBlank_head_trimFront s.toList
    rw [← same, List.head?_append, Option.mem_def.1 hc]
    rfl
  rw [trim, trim, String.toList_ofList, front, trimBack_trimBack]

end LinkTrials.Text
