import LinkTrials.Proofs.Json.Members
import LinkTrials.Proofs.Json.Numbers
import LinkTrials.Proofs.Json.Scaled

/-!
All numbers in a text are finite.

A number too large to be kept is a fault of the text, so whatever is read of a text, none of the numbers
in it is an infinity or no number at all.
-/
namespace LinkTrials.Json

open Binary64

/-- The binary number that stands for a number. -/
def Number.value : Number → Binary64
  | .natural n => .ofNat n
  | .negative n => -.ofNat n
  | .real x => x

namespace Reading

/-- A part of a reading, or a part of one of its parts, or the reading itself. -/
inductive Inside (part : Reading) : Reading → Prop
  | self : Inside part part
  | step {r whole : Reading} (mem : r ∈ whole.parts) (h : Inside part r) : Inside part whole

/-- All numbers in a reading are finite. -/
structure IsFinite (r : Reading) : Prop where
  inside : ∀ n, Inside (.number n) r → n.value.isFinite = true

theorem IsFinite.part {r part : Reading} (h : r.IsFinite) (mem : part ∈ r.parts) : part.IsFinite :=
  ⟨fun n inside => h.inside n (.step mem inside)⟩

theorem IsFinite.value {n : Number} (h : (number n).IsFinite) : n.value.isFinite = true :=
  h.inside n .self

theorem isFinite_number {n : Number} (h : n.value.isFinite = true) : (number n).IsFinite := by
  refine ⟨fun m inside => ?_⟩
  cases inside with
  | self => exact h
  | step mem => cases mem

theorem isFinite_of_parts {r : Reading} (other : ∀ n, r ≠ .number n)
    (h : ∀ part ∈ r.parts, part.IsFinite) : r.IsFinite := by
  refine ⟨fun n inside => ?_⟩
  cases inside with
  | self => exact absurd rfl (other n)
  | step mem inside => exact (h _ mem).inside n inside

theorem isFinite_of_empty {r : Reading} (other : ∀ n, r ≠ .number n) (h : r.parts = []) :
    r.IsFinite :=
  isFinite_of_parts other fun part mem => by rw [h] at mem; cases mem

theorem isFinite_brokenScalar (read skipped : SyntaxFault) : (brokenScalar read skipped).IsFinite :=
  isFinite_of_empty (fun _ => nofun) rfl

end Reading

open Reading

/-! ### Numbers -/

theorem significand_le {s : Nat} (h : s ≤ maxNatural) (ds : List Char) :
    (significand s ds).1 ≤ maxNatural := by
  induction ds generalizing s with
  | nil => exact h
  | cons c ds ih =>
      rw [significand]
      split
      · exact h
      · next room => exact ih (Nat.le_of_not_lt room)

theorem isFinite_natural {n : Nat} (h : n ≤ maxNatural) : (Reading.number (.natural n)).IsFinite :=
  isFinite_number (isAmount_ofNat h).isFinite

theorem isFinite_neg {x : Binary64} (h : IsAmount x) : (-x).isFinite = true := by
  have finite := isFinite_signed true h
  rwa [signed, if_pos rfl] at finite

theorem isFinite_scaledReading {d : Decimal} (s : Bool) (h : d.digits ≤ maxNatural) :
    (scaledReading s d).IsFinite := by
  rw [scaledReading]
  split
  · next eq =>
    obtain ⟨y, amount, rfl⟩ := scaled?_eq_some h eq
    exact isFinite_number (isFinite_signed s amount)
  · exact isFinite_of_empty (fun _ => nofun) rfl

theorem isFinite_zero (negative : Bool) :
    (Reading.number (.real (if negative then -0 else 0))).IsFinite := by
  have zero := isAmount_ofNat (Nat.zero_le maxNatural)
  apply isFinite_number
  rw [ofNat_literal, Number.value]
  split
  · exact isFinite_neg zero
  · exact zero.isFinite

theorem isFinite_ofParts (negative : Bool) (whole : List Char) (fraction : Option (List Char))
    (exponent : Option (Bool × List Char)) :
    (ofParts negative whole fraction exponent).IsFinite := by
  have first := significand_le (Nat.zero_le _) whole
  have real {n : Nat} (room : n ≤ maxNatural) (e : Int) := isFinite_scaledReading (d := ⟨n, e⟩) negative room
  -- The exponent does not fit: the digits only tell zero from a number that is too large.
  have far {n : Nat} (below : Bool) : (if n ≠ 0 ∧ (!below) = true then Reading.hugeNumber
      else .number (.real (if negative then -0 else 0))).IsFinite := by
    split
    · exact isFinite_of_empty (fun _ => nofun) rfl
    · exact isFinite_zero negative
  cases exponent with
  | some parts =>
      cases fraction with
      | none =>
          simp only [ofParts]
          split
          · exact far parts.1
          · exact real first _
      | some ds =>
          simp only [ofParts]
          split
          · exact far parts.1
          · exact real (significand_le first ds) _
  | none =>
      cases fraction with
      | none =>
          simp only [ofParts]
          split
          · exact real first _
          · split
            · exact isFinite_natural first
            · split
              · exact isFinite_number (isFinite_neg (isAmount_ofNat first))
              · exact isFinite_number (isFinite_neg (isAmount_ofNat first))
      | some ds => exact real (significand_le first ds) _

theorem isFinite_readExponent (negative : Bool) (whole : List Char) (fraction : Option (List Char))
    (cs : List Char) : (readExponent negative whole fraction cs).1.IsFinite := by
  simp only [readExponent]
  split
  · exact isFinite_brokenScalar _ _
  · split
    · simp only [isFinite_ofParts]
    · exact isFinite_brokenScalar _ _

theorem isFinite_readNumber (negative : Bool) (cs : List Char) :
    (readNumber negative cs).1.IsFinite := by
  simp only [readNumber]
  repeat' split
  all_goals simp only [isFinite_brokenScalar, isFinite_ofParts, isFinite_readExponent]

/-! ### Values -/

theorem isFinite_readWord {value : Reading} (h : value.IsFinite) (word cs : List Char) :
    (readWord value word cs).1.IsFinite := by
  induction word generalizing cs with
  | nil => exact h
  | cons w word ih =>
      cases cs with
      | nil => exact isFinite_brokenScalar _ _
      | cons c cs =>
          rw [readWord]
          split
          · exact ih cs
          · exact isFinite_brokenScalar _ _

/-- Whatever part of a text is read with some fuel, its numbers are finite. -/
structure ReadsFinite (fuel : Nat) : Prop where
  value : ∀ cs, (readValue fuel cs).1.IsFinite
  item : ∀ cs, ∀ r ∈ (readItem fuel cs).1, r.IsFinite
  items : ∀ first cs, ∀ r ∈ (readItems fuel first cs).1, r.IsFinite
  member : ∀ cs, ∀ m ∈ (readMember fuel cs).1, m.2.IsFinite
  members : ∀ first cs, ∀ m ∈ (readMembers fuel first cs).1, m.2.IsFinite

theorem readsFinite_zero : ReadsFinite 0 where
  value _ := isFinite_of_empty (fun _ => nofun) rfl
  item _ := by rw [readItem]; nofun
  items _ _ := by rw [readItems]; nofun
  member _ := by rw [readMember]; nofun
  members _ _ := by rw [readMembers]; nofun

theorem ReadsFinite.readValue {fuel : Nat} (h : ReadsFinite fuel) (cs : List Char) :
    (readValue (fuel + 1) cs).1.IsFinite := by
  have leaf (r : Reading) (other : ∀ n, r ≠ .number n) (empty : r.parts = []) : r.IsFinite :=
    isFinite_of_empty other empty
  rw [Json.readValue]
  split
  · exact leaf _ (fun _ => nofun) rfl
  · exact isFinite_readWord (leaf .null (fun _ => nofun) rfl) _ _
  · exact isFinite_readWord (leaf (.bool true) (fun _ => nofun) rfl) _ _
  · exact isFinite_readWord (leaf (.bool false) (fun _ => nofun) rfl) _ _
  · exact isFinite_readNumber _ _
  · split <;> exact leaf _ (fun _ => nofun) rfl
  · exact isFinite_of_parts (fun _ => nofun) (h.items true _)
  · refine isFinite_of_parts (fun _ => nofun) fun part mem => ?_
    have value : part ∈ (readMembers fuel true _).1.map Prod.snd := mem
    obtain ⟨m, member, rfl⟩ := List.mem_map.1 value
    exact h.members true _ m member
  · split
    · exact isFinite_readNumber _ _
    · exact isFinite_brokenScalar _ _

theorem ReadsFinite.readItem {fuel : Nat} (h : ReadsFinite fuel) (cs : List Char) :
    ∀ r ∈ (readItem (fuel + 1) cs).1, r.IsFinite := by
  have first := h.value cs
  rw [Json.readItem]
  split
  · next eq =>
    rw [eq] at first
    exact List.forall_mem_singleton.2 first
  · next eq =>
    rw [eq] at first
    exact List.forall_mem_cons.2 ⟨first, h.items false _⟩

theorem ReadsFinite.readItems {fuel : Nat} (h : ReadsFinite fuel) (first : Bool) (cs : List Char) :
    ∀ r ∈ (readItems (fuel + 1) first cs).1, r.IsFinite := by
  rw [Json.readItems]
  split
  · nofun
  · nofun
  · split
    · exact h.item _
    · split
      · split
        · nofun
        · nofun
        · exact h.item _
      · nofun

theorem ReadsFinite.readMember {fuel : Nat} (h : ReadsFinite fuel) (cs : List Char) :
    ∀ m ∈ (readMember (fuel + 1) cs).1, m.2.IsFinite := by
  rw [Json.readMember]
  split
  · nofun
  · split
    · nofun
    · next rest _ =>
      have first := h.value rest
      split
      · next eq =>
        rw [eq] at first
        exact List.forall_mem_singleton.2 first
      · next eq =>
        rw [eq] at first
        exact List.forall_mem_cons.2 ⟨first, h.members false _⟩
    · nofun

theorem ReadsFinite.readMembers {fuel : Nat} (h : ReadsFinite fuel) (first : Bool)
    (cs : List Char) : ∀ m ∈ (readMembers (fuel + 1) first cs).1, m.2.IsFinite := by
  rw [Json.readMembers]
  split
  · nofun
  · nofun
  · split
    · split
      · exact h.member _
      · nofun
    · split
      · split
        · nofun
        · nofun
        · exact h.member _
        · nofun
      · nofun

theorem readsFinite (fuel : Nat) : ReadsFinite fuel := by
  induction fuel with
  | zero => exact readsFinite_zero
  | succ fuel ih => exact ⟨ih.readValue, ih.readItem, ih.readItems, ih.readMember, ih.readMembers⟩

/-- All numbers in a text are finite. -/
theorem isFinite_ofText (s : String) : (Reading.ofText s).1.IsFinite := by
  have finite := (readsFinite (3 * s.toList.length + 1)).value s.toList
  rw [Reading.ofText]
  split
  · next eq => rwa [eq] at finite
  · next eq => rwa [eq] at finite

end LinkTrials.Json
