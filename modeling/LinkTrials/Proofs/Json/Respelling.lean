import Mathlib.Data.List.Nodup
import Mathlib.Data.List.Pairwise
import LinkTrials.Proofs.Json.Members

/-!
Objects with other members that read alike.

A member of an object can have a value that leaves a blank record as it is. Where the members of a
record do not touch each other, such a value leaves any record as it is that the member has not been
read into yet. So it can be left out, or be added if it is not there.
-/
namespace LinkTrials.Json

variable {ρ α β : Type}

/-- The second members are the first ones, except that some idle members are left out, some are added,
and some values are replaced by values alike. -/
inductive Respelled (idle : String → Reading → Prop) (alike : String → Reading → Reading → Prop) :
    List (Except SyntaxFault String × Reading) → List (Except SyntaxFault String × Reading) → Prop
  | nil : Respelled idle alike [] []
  | keep {name value value' members members'} (same : alike name value value')
      (rest : Respelled idle alike members members') :
      Respelled idle alike ((.ok name, value) :: members) ((.ok name, value') :: members')
  | drop {name value members members'} (unset : idle name value)
      (rest : Respelled idle alike members members') :
      Respelled idle alike ((.ok name, value) :: members) members'
  | add {name value members members'} (unset : idle name value)
      (rest : Respelled idle alike members members') :
      Respelled idle alike members ((.ok name, value) :: members')

/-- The two members set different parts of a record. -/
def Member.Commute (m n : Member ρ) : Prop :=
  ∀ depth value set depth' value' set', m.read depth value = .ok set →
    n.read depth' value' = .ok set' → ∀ record, set (set' record) = set' (set record)

instance : Std.Symm (@Member.Commute ρ) where
  symm _ _ h depth value set depth' value' set' hset hset' record :=
    (h depth' value' set' depth value set hset' hset record).symm

theorem Member.commute_of {name name' : String} {presence presence' : Presence}
    {decode : Decoder α} {decode' : Decoder β} {set : α → ρ → ρ} {set' : β → ρ → ρ}
    (h : ∀ x y record, set x (set' y record) = set' y (set x record)) :
    (Member.of name presence decode set).Commute (Member.of name' presence' decode' set') := by
  intro depth value f depth' value' f' hf hf' record
  obtain ⟨x, -, rfl⟩ := read_of hf
  obtain ⟨y, -, rfl⟩ := read_of hf'
  exact h x y record

namespace Schema

variable {s : Schema ρ} {depth : Nat}

/-- A record of independent members, each of which may be missing, that skips what it does not know. -/
structure IsOpen (s : Schema ρ) : Prop where
  lenient : s.strict = false
  defaulted : ∀ m ∈ s.members, m.presence = .defaulted
  unchecked : ∀ record, s.check record = .ok ()
  distinct : (s.members.map Member.name).Nodup
  commute : s.members.Pairwise Member.Commute

/-- The member with the name takes the value and leaves a blank record as it is. -/
def Idle (s : Schema ρ) (depth : Nat) (name : String) (value : Reading) : Prop :=
  ∃ m set, s.member? name = some m ∧ m.read depth value = .ok set ∧ set s.blank = s.blank

/-- The record shows nothing of the member with the name: what leaves a blank record as it is does so
with this one. -/
def BlankAt (s : Schema ρ) (depth : Nat) (name : String) (record : ρ) : Prop :=
  ∀ m value set, s.member? name = some m → m.read depth value = .ok set → set s.blank = s.blank →
    set record = record

/-- The values read alike for the member with the name, if there is one. -/
def Alike (s : Schema ρ) (depth : Nat) (name : String) (value value' : Reading) : Prop :=
  value' = value ∨
    ∃ m, s.member? name = some m ∧
      ∀ set, m.read depth value = .ok set → m.read depth value' = .ok set

/-- The names of members that belong to the record. -/
def known (s : Schema ρ) : List (Except SyntaxFault String × Reading) → List String
  | [] => []
  | (.ok name, _) :: rest => if (s.member? name).isSome then name :: s.known rest else s.known rest
  | (.error _, _) :: rest => s.known rest

theorem known_cons_of_member? {m : Member ρ} {name : String} (value : Reading)
    (members : List (Except SyntaxFault String × Reading)) (h : s.member? name = some m) :
    s.known ((.ok name, value) :: members) = name :: s.known members := by
  rw [known, h, Option.isSome_some, if_pos rfl]

theorem known_cons_of_unknown {name : String} (value : Reading)
    (members : List (Except SyntaxFault String × Reading)) (h : s.member? name = none) :
    s.known ((.ok name, value) :: members) = s.known members := by
  rw [known, h, Option.isSome_none, if_neg Bool.false_ne_true]

theorem blankAt_blank (name : String) : s.BlankAt depth name s.blank :=
  fun _ _ _ _ _ same => same

section Lists

variable {decode : Decoder α} {missing : α} {table : List (Nat × String)} {name : String}

theorem Lists.member? (h : s.Lists decode missing table) (hs : s.IsOpen)
    (named : name ∈ table.map Prod.snd) :
    ∃ set, s.member? name = some (.of name .defaulted decode set) ∧ set missing s.blank = s.blank := by
  obtain ⟨⟨k, _⟩, mem, rfl⟩ := List.mem_map.1 named
  obtain ⟨set, place, blank⟩ := h.getElem? mem
  exact ⟨set, member?_of_nodup hs.distinct (List.mem_of_getElem? place), blank⟩

theorem Lists.idle (h : s.Lists decode missing table) (hs : s.IsOpen)
    (named : name ∈ table.map Prod.snd) {value : Reading} (read : decode depth value = .ok missing) :
    s.Idle depth name value := by
  obtain ⟨set, found, blank⟩ := h.member? hs named
  exact ⟨_, _, found, read_of_decoded read, blank⟩

/-- Values that the decoder of the table takes for the same read alike. -/
theorem Lists.alike (h : s.Lists decode missing table) (hs : s.IsOpen)
    (named : name ∈ table.map Prod.snd) {value value' : Reading}
    (same : ∀ x, decode depth value = .ok x → decode depth value' = .ok x) :
    s.Alike depth name value value' := by
  obtain ⟨set, found, -⟩ := h.member? hs named
  refine .inr ⟨_, found, fun f read => ?_⟩
  obtain ⟨x, decoded, rfl⟩ := read_of read
  exact read_of_decoded (same x decoded)

end Lists

theorem BlankAt.set {name name' : String} {record : ρ} {m : Member ρ} {value : Reading} {f : ρ → ρ}
    (hs : s.IsOpen) (h : s.BlankAt depth name record) (hm : s.member? name' = some m)
    (hf : m.read depth value = .ok f) (other : name ≠ name') : s.BlankAt depth name (f record) := by
  intro n value' g hn hg same
  obtain ⟨memM, nameM⟩ := member?_eq_some hm
  obtain ⟨memN, nameN⟩ := member?_eq_some hn
  have differ : n ≠ m := by
    rintro rfl
    exact other (nameN.symm.trans nameM)
  have commute := hs.commute.forall memN memM differ
  rw [commute depth value' g depth value f hg hf, h n value' g hn hg same]

/-- The record is blank for every name that one of two readers has not seen. -/
def BlankBut (s : Schema ρ) (depth : Nat) (seen seen' : List String) (record : ρ) : Prop :=
  ∀ name, name ∉ seen ∨ name ∉ seen' → s.BlankAt depth name record

theorem BlankBut.mono {seen seen' later later' : List String} {record : ρ}
    (h : s.BlankBut depth seen seen' record) (sub : seen ⊆ later) (sub' : seen' ⊆ later') :
    s.BlankBut depth later later' record :=
  fun name unseen => h name (unseen.imp (fun h old => h (sub old)) fun h old => h (sub' old))

/-- Once both readers have seen a name, nothing is asked of its place in the record. -/
theorem BlankBut.set {seen seen' : List String} {record : ρ} {name : String} {m : Member ρ}
    {value : Reading} {f : ρ → ρ} (hs : s.IsOpen) (h : s.BlankBut depth seen seen' record)
    (hm : s.member? name = some m) (hf : m.read depth value = .ok f) :
    s.BlankBut depth (name :: seen) (name :: seen') (f record) := by
  intro other unseen
  have differ : other ≠ name := by
    rintro rfl
    exact unseen.elim (fun h => h List.mem_cons_self) fun h => h List.mem_cons_self
  refine (h other ?_).set hs hm hf differ
  exact unseen.imp (fun h old => h (List.mem_cons_of_mem _ old))
    fun h old => h (List.mem_cons_of_mem _ old)

section Objects

variable {ending : ObjectEnd} {seen : List String} {record : ρ} {name : String} {value : Reading}
  {members : List (Except SyntaxFault String × Reading)} {result : List String × ρ}

theorem readMembers_known {m : Member ρ} (hm : s.member? name = some m) :
    s.readMembers depth ending seen record ((.ok name, value) :: members) = .ok result ↔
      name ∉ seen ∧ ∃ set, m.read depth value = .ok set ∧
        s.readMembers depth ending (name :: seen) (set record) members = .ok result := by
  rw [readMembers, pick, hm]
  dsimp only
  by_cases old : name ∈ seen
  · rw [if_pos old]
    constructor
    · intro h
      cases h
    · intro h
      exact absurd old h.1
  · rw [if_neg old]
    constructor
    · intro h
      exact ⟨old, of_bind_eq_ok h⟩
    · rintro ⟨-, set, hset, h⟩
      change (m.read depth value >>= _) = _
      rw [hset]
      exact h

theorem readMembers_unknown (hs : s.IsOpen) (hm : s.member? name = none) :
    s.readMembers depth ending seen record ((.ok name, value) :: members) = .ok result ↔
      skip value = .ok () ∧ s.readMembers depth ending seen record members = .ok result := by
  rw [readMembers, pick, hm, hs.lenient]
  change (skip value >>= _) = _ ↔ _
  cases skip value with
  | error fault =>
      constructor
      · intro h
        cases h
      · intro h
        cases h.1
  | ok u => exact (and_iff_right rfl).symm

end Objects

section Respelled

variable {idle : String → Reading → Prop} {alike : String → Reading → Reading → Prop}
  {members members' : List (Except SyntaxFault String × Reading)}

theorem fresh_of_known {seen : List String} {m : Member ρ} {name : String} {value : Reading}
    (once : (seen ++ s.known ((.ok name, value) :: members)).Nodup)
    (hm : s.member? name = some m) : name ∉ seen ∧ (name :: seen ++ s.known members).Nodup := by
  rw [known_cons_of_member? _ _ hm, List.nodup_middle] at once
  exact ⟨fun old => (List.nodup_cons.1 once).1 (List.mem_append_left _ old), once⟩

/-- The two ways to read may have met different idle members, so they have seen different names; the
record is the same, and blank for every name that one of them has not seen. -/
theorem readMembers_of_respelled (hs : s.IsOpen)
    (hidle : ∀ name value, idle name value → s.Idle depth name value)
    (halike : ∀ name value value', alike name value value' → s.Alike depth name value value')
    (h : Respelled idle alike members members') {seen seen' after : List String} {record final : ρ}
    (blank : s.BlankBut depth seen seen' record)
    (once : (seen' ++ s.known members').Nodup)
    (read : s.readMembers depth .closed seen record members = .ok (after, final)) :
    ∃ after', s.readMembers depth .closed seen' record members' = .ok (after', final) := by
  induction h generalizing seen seen' record with
  | nil =>
      rw [readMembers_nil read]
      exact ⟨seen', rfl⟩
  | @keep name value value' rest rest' same _ ih =>
      cases found : s.member? name with
      | some m =>
          obtain ⟨-, set, hset, read⟩ := (readMembers_known found).1 read
          obtain ⟨fresh, once⟩ := fresh_of_known once found
          have hset' : m.read depth value' = .ok set := by
            rcases halike name value value' same with rfl | ⟨n, hn, alike⟩
            · exact hset
            · rw [found] at hn
              cases hn
              exact alike set hset
          obtain ⟨after', read'⟩ := ih (blank.set hs found hset) once read
          exact ⟨after', (readMembers_known found).2 ⟨fresh, set, hset', read'⟩⟩
      | none =>
          -- What both skip is the same value, as only values of members may be replaced.
          obtain ⟨skipped, read⟩ := (readMembers_unknown hs found).1 read
          rw [known_cons_of_unknown _ _ found] at once
          obtain ⟨after', read'⟩ := ih blank once read
          have unchanged : value' = value := by
            rcases halike name value value' same with eq | ⟨n, hn, -⟩
            · exact eq
            · rw [found] at hn
              cases hn
          rw [unchanged]
          exact ⟨after', (readMembers_unknown hs found).2 ⟨skipped, read'⟩⟩
  | @drop name value rest rest' unset _ ih =>
      obtain ⟨m, set, found, hset, keeps⟩ := hidle name value unset
      obtain ⟨fresh, set', hset', read⟩ := (readMembers_known found).1 read
      rw [hset] at hset'
      cases hset'
      -- The first way reads it without any effect, the second one does not meet it.
      rw [blank name (.inl fresh) m value set found hset keeps] at read
      exact ih (blank.mono (List.subset_cons_self _ _) (List.Subset.refl _)) once read
  | @add name value rest rest' unset _ ih =>
      obtain ⟨m, set, found, hset, keeps⟩ := hidle name value unset
      obtain ⟨fresh, once⟩ := fresh_of_known once found
      have same := blank name (.inr fresh) m value set found hset keeps
      have later := blank.mono (List.Subset.refl _) (List.subset_cons_self name seen')
      obtain ⟨after', read'⟩ := ih later once read
      refine ⟨after', (readMembers_known found).2 ⟨fresh, set, hset, ?_⟩⟩
      rw [same]
      exact read'

theorem IsOpen.absent? (hs : s.IsOpen) (seen : List String) : s.absent? seen = none := by
  rw [Schema.absent?, Option.map_eq_none_iff, List.find?_eq_none]
  intro m hm
  rw [hs.defaulted m hm]
  exact Bool.false_ne_true

theorem decode_object (hs : s.IsOpen) {record : ρ} :
    s.decode (depth + 1) (.object members .closed) = .ok record ↔
      ∃ after, s.readMembers depth .closed [] s.blank members = .ok (after, record) := by
  rw [decode]
  change (s.readMembers depth .closed [] s.blank members >>= _) = _ ↔ _
  constructor
  · intro h
    obtain ⟨⟨after, final⟩, read, h⟩ := of_bind_eq_ok h
    dsimp only at h
    rw [hs.absent?, hs.unchecked] at h
    cases h
    exact ⟨after, read⟩
  · rintro ⟨after, read⟩
    simp only [read, bind, Except.bind, hs.absent?, hs.unchecked]

/-- What is respelled is the same record, unless a member is named twice. -/
theorem decode_of_respelled (hs : s.IsOpen)
    (hidle : ∀ name value, idle name value → s.Idle depth name value)
    (halike : ∀ name value value', alike name value value' → s.Alike depth name value value')
    (h : Respelled idle alike members members') (once : (s.known members').Nodup) {record : ρ}
    (read : s.decode (depth + 1) (.object members .closed) = .ok record) :
    s.decode (depth + 1) (.object members' .closed) = .ok record := by
  rw [decode_object hs] at read ⊢
  obtain ⟨after, read⟩ := read
  exact readMembers_of_respelled hs hidle halike h (fun name _ => blankAt_blank name) once read

end Respelled

end Schema

end LinkTrials.Json
