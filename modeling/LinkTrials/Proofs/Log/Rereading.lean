import LinkTrials.Log.Logger
import LinkTrials.Proofs.Json.Fields
import LinkTrials.Proofs.Json.Lines
import LinkTrials.Proofs.Report.Rereading
import LinkTrials.Proofs.Samples.Bounded

/-!
Log entries read back from their JSON texts.

An entry always has a JSON text, as its names are texts, and the text is one line. If its fields are texts,
truth values, integers of 64 bits or null, whatever order they are written in, the entry is read back from
the text with all that it says.
-/
namespace LinkTrials

namespace Json

/-- A text, a truth value, an integer of 64 bits or null. -/
def IsScalar : Json → Prop
  | .null | .bool _ | .string _ => True
  | .number (.natural n) => n ≤ maxNatural
  | .number (.negative n) => 0 < n ∧ n ≤ UInt64.size / 2
  | _ => False

variable {j : Json} {fields shown : Fields} {depth : Nat}

theorem IsScalar.isKept (h : IsScalar j) : IsKept j := by
  cases j with
  | null | bool | string => trivial
  | number n =>
      cases n with
      | natural | negative => exact h
      | real => exact h.elim
  | list | object => exact h.elim

theorem value_toReading (h : IsScalar j) : Decoder.value depth (toReading j) = .ok j := by
  cases j with
  | null | bool | string => rfl
  | number n =>
      cases n with
      | natural | negative => rfl
      | real => exact h.elim
  | list | object => exact h.elim

theorem membersKept_of_scalar (h : ∀ m ∈ fields, IsScalar m.2) : MembersKept fields := by
  induction fields with
  | nil => trivial
  | cons m rest ih =>
      obtain ⟨first, later⟩ := List.forall_mem_cons.1 h
      exact ⟨first.isKept, ih later⟩

theorem valueMembers_toReading (h : ∀ m ∈ fields, IsScalar m.2) :
    Decoder.valueMembers depth .closed (memberReadings fields) = .ok fields := by
  induction fields with
  | nil => rfl
  | cons m rest ih =>
      obtain ⟨first, later⟩ := List.forall_mem_cons.1 h
      rw [memberReadings, Decoder.valueMembers, value_toReading first, ih later]
      rfl

/-- Fields are read back sorted, in whatever order they are written. -/
theorem fields_toReading (ordered : fields.Ordered) (perm : shown.Perm fields)
    (h : ∀ m ∈ shown, IsScalar m.2) :
    Decoder.fields (depth + 1) (toReading (.object shown)) = .ok fields := by
  rw [toReading, Decoder.fields, enter]
  change (Decoder.valueMembers depth .closed (memberReadings shown) >>= _) = _
  rw [valueMembers_toReading h]
  exact congrArg Except.ok (Fields.ofList_perm ordered perm)

/-- Sorted fields with scalar values. -/
structure Fields.IsPlain (fields : Fields) : Prop where
  ordered : fields.Ordered
  scalar : ∀ m ∈ fields, IsScalar m.2

theorem Fields.IsPlain.insert (h : fields.IsPlain) (name : String) (scalar : IsScalar j) :
    (Fields.insert name j fields).IsPlain where
  ordered := h.ordered.insert name j
  scalar := by
    intro m hm
    rcases mem_insert hm with rfl | hm
    · exact scalar
    · exact h.scalar m hm

theorem Fields.IsPlain.insertAll (h : fields.IsPlain) {added : Fields}
    (scalar : ∀ m ∈ added, IsScalar m.2) : (insertAll added fields).IsPlain := by
  induction added generalizing fields with
  | nil => exact h
  | cons m rest ih =>
      obtain ⟨first, later⟩ := List.forall_mem_cons.1 scalar
      exact ih (h.insert m.1 first) later

theorem optional_string_toReading (text : Option String) :
    Decoder.optional Decoder.string depth (toReading (.ofOption .string text)) = .ok text := by
  cases text <;> rfl

end Json

namespace Log

open Json

variable {depth : Nat}

theorem Level.decoder_toReading (level : Level) : decoder depth (toReading level.toJson) = .ok level := by
  have distinct : ((all.map fun level => (level.name, level)).map Prod.fst).Nodup := by
    decide +kernel
  have listed : level ∈ all := by cases level <;> decide
  exact Json.Decoder.variant_toReading distinct (List.mem_map_of_mem listed)

namespace Location

theorem decoder_toReading {place : Location} (h : place.line < UInt32.size) :
    decoder (depth + 1) (toReading place.toJson) = .ok place :=
  Schema.decode_of_sets (by decide +kernel)
    (.cons (read_of_decoded rfl) (.cons (read_of_decoded (if_pos (Nat.le_sub_one_of_lt h)))
      (.cons (read_of_decoded (optional_string_toReading place.module)) .nil))) rfl

theorem isKept_toJson {place : Location} (h : place.line < UInt32.size) : IsKept place.toJson := by
  have small : place.line ≤ maxNatural := Nat.le_trans (Nat.le_of_lt h) (by decide)
  obtain ⟨file, line, module?⟩ := place
  cases module? <;> exact ⟨trivial, small, trivial, trivial⟩

end Location

namespace Entry

variable {e : Entry} {shown : Fields}

/-- An entry that can be read again: plain fields, and a place with a line number of 32 bits. -/
structure IsPlain (e : Entry) : Prop where
  fields : e.fields.IsPlain
  line : ∀ place ∈ e.location, place.line < UInt32.size

theorem location_toReading {location : Option Location}
    (h : ∀ place ∈ location, place.line < UInt32.size) :
    Decoder.optional Location.decoder (depth + 1)
      (toReading (.ofOption Location.toJson location)) = .ok location := by
  cases location with
  | none => rfl
  | some place =>
      have read : Location.decoder (depth + 1) (toReading place.toJson) = .ok place :=
        Location.decoder_toReading (h place rfl)
      change (Location.decoder (depth + 1) (toReading place.toJson)).map some = _
      rw [read]
      rfl

theorem isKept_toJson (h : e.IsPlain) (perm : shown.Perm e.fields) :
    IsKept { e with fields := shown }.toJson := by
  have fields : MembersKept shown := membersKept_of_scalar fun m hm =>
    h.fields.scalar m (perm.mem_iff.1 hm)
  have correlation : IsKept (.ofOption .string e.correlation) := by
    cases e.correlation <;> trivial
  have location : IsKept (.ofOption Location.toJson e.location) := by
    have line := h.line
    cases location : e.location with
    | none => trivial
    | some place => exact Location.isKept_toJson (line place location)
  exact ⟨trivial, trivial, trivial, trivial, correlation, fields, location, trivial⟩

theorem decoder_toReading (h : e.IsPlain) (perm : shown.Perm e.fields) :
    decoder (depth + 2) (toReading { e with fields := shown }.toJson) = .ok e := by
  have scalar : ∀ m ∈ shown, IsScalar m.2 := fun m hm => h.fields.scalar m (perm.mem_iff.1 hm)
  exact Schema.decode_of_sets (by decide +kernel)
    (.cons (read_of_decoded (Instant.decoder_toReading e.time))
      (.cons (read_of_decoded (Level.decoder_toReading e.level))
        (.cons (read_of_decoded rfl) (.cons (read_of_decoded rfl)
          (.cons (read_of_decoded (optional_string_toReading e.correlation))
            (.cons (read_of_decoded (fields_toReading h.fields.ordered perm scalar))
              (.cons (read_of_decoded (location_toReading h.line)) .nil))))))) rfl

end Entry

namespace Logger

variable {e : Entry} {shown : Fields}

end Logger

end Log

end LinkTrials
