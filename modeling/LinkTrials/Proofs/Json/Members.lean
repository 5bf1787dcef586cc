import Mathlib.Data.List.Forall2
import LinkTrials.Json.Schema

/-!
Where the members of a record come from.

A member has a view: what it sets is seen there, and the other members leave that alone. Then a record
that has been read shows in each view the value that the text has for that member, or what the blank
record shows if the text has none. In an object that is the value with the name of the member, of
which there is only one; in a list it is the value at the place of the member.
-/
namespace LinkTrials.Json

/-- The value with a name among the members of an object. -/
def named? (name : String) : List (Except SyntaxFault String × Reading) → Option Reading
  | [] => none
  | (.ok other, value) :: rest => if other = name then some value else named? name rest
  | (.error _, _) :: rest => named? name rest

/-- The values that a list or an object holds. -/
def Reading.parts : Reading → List Reading
  | .list items _ => items
  | .object members _ => members.map Prod.snd
  | _ => []

/-- The value that a text has for a member with a name and a place. -/
def Reading.member? (name : String) (place : Nat) : Reading → Option Reading
  | .object members _ => named? name members
  | .list items _ => items[place]?
  | _ => none

/-- A value that a text gives for a member, under its name or at its place. -/
inductive Reading.Gives (name : String) (place : Nat) : Reading → Reading → Prop
  | named {members ending value} (h : (.ok name, value) ∈ members) :
      Gives name place (.object members ending) value
  | placed {items ending value} (h : items[place]? = some value) :
      Gives name place (.list items ending) value

variable {ρ α : Type}

/-- Whatever the member reads, the view does not change. -/
def Member.Keeps (m : Member ρ) (view : ρ → α) : Prop :=
  ∀ depth r set, m.read depth r = .ok set → ∀ record, view (set record) = view record

theorem of_bind_eq_ok {ε β γ : Type} {e : Except ε β} {f : β → Except ε γ} {c : γ}
    (h : e >>= f = .ok c) : ∃ b, e = .ok b ∧ f b = .ok c := by
  cases e with
  | error fault => cases h
  | ok b => exact ⟨b, rfl, h⟩

/-! ### Lists and whole texts -/

namespace Decoder

/-- A list is decoded element by element, if it is closed. -/
theorem items_eq_ok_iff {decode : Reading → Except DecodeFault α} {ending : ListEnd}
    {elements : List Reading} {as : List α} :
    items decode ending elements = .ok as ↔
      ending = .closed ∧ List.Forall₂ (fun r a => decode r = .ok a) elements as := by
  induction elements generalizing as with
  | nil =>
      rw [items, List.forall₂_nil_left_iff]
      split
      · next closed => rw [Except.ok.injEq, and_iff_right closed, eq_comm]
      · next unclosed => exact iff_of_false (fun h => by cases h) fun h => unclosed h.1
  | cons item rest ih =>
      rw [items, List.forall₂_cons_left_iff]
      constructor
      · intro h
        obtain ⟨a, first, h⟩ := of_bind_eq_ok h
        obtain ⟨others, later, h⟩ := of_bind_eq_ok h
        cases h
        obtain ⟨closed, later⟩ := ih.1 later
        exact ⟨closed, a, others, first, later, rfl⟩
      · rintro ⟨closed, a, others, first, later, rfl⟩
        rw [first]
        change items decode ending rest >>= _ = _
        rw [ih.2 ⟨closed, later⟩]
        rfl

theorem list_eq_ok_iff {decode : Decoder α} {depth : Nat} {r : Reading} {as : List α} :
    list decode depth r = .ok as ↔ ∃ elements inner, r = .list elements .closed ∧
      enter depth = .ok inner ∧ List.Forall₂ (fun r a => decode inner r = .ok a) elements as := by
  constructor
  · intro h
    cases r with
    | list elements ending =>
        obtain ⟨inner, entered, h⟩ := of_bind_eq_ok h
        obtain ⟨rfl, decoded⟩ := items_eq_ok_iff.1 h
        exact ⟨elements, inner, rfl, entered, decoded⟩
    | _ => cases h
  · rintro ⟨elements, inner, rfl, entered, decoded⟩
    rw [list, entered]
    exact items_eq_ok_iff.2 ⟨rfl, decoded⟩

theorem ofText_eq_ok {decode : Decoder α} {text : String} {a : α} :
    ofText decode text = .ok a ↔
      ∃ r, Reading.ofText text = (r, false) ∧ decode maxDepth r = .ok a := by
  rw [ofText]
  obtain ⟨r, trailing⟩ := Reading.ofText text
  cases read : decode maxDepth r with
  | error fault => simp [read]
  | ok b => cases trailing <;> simp [read]

end Decoder

/-! ### Members of records -/

theorem read_of {name : String} {presence : Presence} {decode : Decoder α} {set : α → ρ → ρ}
    {depth : Nat} {value : Reading} {f : ρ → ρ}
    (h : (Member.of name presence decode set).read depth value = .ok f) :
    ∃ x, decode depth value = .ok x ∧ f = set x := by
  change (decode depth value).map set = _ at h
  cases read : decode depth value with
  | error fault =>
      rw [read] at h
      cases h
  | ok x =>
      rw [read] at h
      cases h
      exact ⟨x, rfl, rfl⟩

theorem read_of_decoded {name : String} {presence : Presence} {decode : Decoder α}
    {set : α → ρ → ρ} {depth : Nat} {value : Reading} {x : α} (h : decode depth value = .ok x) :
    (Member.of name presence decode set).read depth value = .ok (set x) := by
  change (decode depth value).map set = _
  rw [h]
  rfl

namespace Schema

variable {s : Schema ρ} {m : Member ρ} {view : ρ → α} {decode : Decoder α} {depth : Nat}

theorem member?_eq_some {name : String} {n : Member ρ} (h : s.member? name = some n) :
    n ∈ s.members ∧ n.name = name := by
  rw [member?] at h
  have named := List.find?_some h
  exact ⟨List.mem_of_find?_eq_some h, eq_of_beq named⟩

theorem pick_eq_some {seen : List String} {name : String} {n : Member ρ}
    (h : s.pick seen name = .ok (some n)) : s.member? name = some n ∧ name ∉ seen := by
  rw [pick] at h
  cases found : s.member? name with
  | none =>
      rw [found] at h
      dsimp only at h
      split at h <;> cases h
  | some k =>
      rw [found] at h
      dsimp only at h
      split at h
      · cases h
      · next fresh =>
        cases h
        exact ⟨rfl, fresh⟩

theorem pick_eq_none {seen : List String} {name : String} (h : s.pick seen name = .ok none) :
    s.member? name = none := by
  rw [pick] at h
  cases found : s.member? name with
  | none => rfl
  | some k =>
      rw [found] at h
      dsimp only at h
      split at h <;> cases h

section Objects

variable {ending : ObjectEnd} {seen seen' : List String} {record record' : ρ}
  {members : List (Except SyntaxFault String × Reading)}

theorem readMembers_nil (h : s.readMembers depth ending seen record [] = .ok (seen', record')) :
    record' = record := by
  rw [readMembers.eq_def] at h
  cases ending <;> cases h
  rfl

/-- A member of an object is read if it belongs to the record and was not there yet, or is skipped
if the record knows no such name. -/
theorem readMembers_cons {name? : Except SyntaxFault String} {value : Reading}
    (h : s.readMembers depth ending seen record ((name?, value) :: members) = .ok (seen', record')) :
    ∃ name, name? = .ok name ∧
      ((∃ n set, s.member? name = some n ∧ name ∉ seen ∧ n.read depth value = .ok set ∧
        s.readMembers depth ending (name :: seen) (set record) members = .ok (seen', record')) ∨
      s.member? name = none ∧
        s.readMembers depth ending seen record members = .ok (seen', record')) := by
  cases name? with
  | error fault => cases h
  | ok name =>
      refine ⟨name, rfl, ?_⟩
      rw [readMembers] at h
      obtain ⟨picked, hpick, h⟩ := of_bind_eq_ok h
      cases picked with
      | none =>
          obtain ⟨_, -, h⟩ := of_bind_eq_ok h
          exact .inr ⟨pick_eq_none hpick, h⟩
      | some n =>
          obtain ⟨found, fresh⟩ := pick_eq_some hpick
          obtain ⟨set, hset, h⟩ := of_bind_eq_ok h
          exact .inl ⟨n, set, found, fresh, hset, h⟩

end Objects

section Lists

variable {ending : ListEnd} {i : Nat} {record record' : ρ} {n : Member ρ}
  {members : List (Member ρ)} {items : List Reading}

theorem readItems_nil (h : s.readItems depth ending i record [] items = .ok record') :
    record' = record := by
  rw [readItems] at h
  obtain ⟨_, -, h⟩ := of_bind_eq_ok h
  cases items with
  | nil =>
      obtain ⟨_, -, h⟩ := of_bind_eq_ok h
      cases h
      rfl
  | cons item later => cases h

theorem readItems_missing (h : s.readItems depth ending i record (n :: members) [] = .ok record') :
    s.readItems depth ending (i + 1) record members [] = .ok record' := by
  rw [readItems] at h
  split at h
  · split at h
    · exact h
    · cases h
  · cases h

theorem readItems_cons {item : Reading}
    (h : s.readItems depth ending i record (n :: members) (item :: items) = .ok record') :
    ∃ set, n.read depth item = .ok set ∧
      s.readItems depth ending (i + 1) (set record) members items = .ok record' := by
  rw [readItems] at h
  exact of_bind_eq_ok h

end Lists

theorem member?_of_nodup (distinct : (s.members.map Member.name).Nodup) (hm : m ∈ s.members) :
    s.member? m.name = some m := by
  rw [member?]
  generalize s.members = members at distinct hm
  induction members with
  | nil => cases hm
  | cons n rest ih =>
      obtain ⟨first, others⟩ := List.nodup_cons.1 distinct
      rcases List.mem_cons.1 hm with rfl | later
      · exact List.find?_cons_of_pos (beq_self_eq_true _)
      · have other : (n.name == m.name) = false := by
          rw [beq_eq_false_iff_ne]
          intro same
          apply first
          rw [same]
          exact List.mem_map_of_mem later
        rw [List.find?_cons, other]
        exact ih others later

section Steps

variable {P : ρ → Prop} {Q : Reading → Prop} {record record' : ρ}

theorem readMembers_preserves {ending : ObjectEnd} {seen seen' : List String}
    {members : List (Except SyntaxFault String × Reading)}
    (step : ∀ m ∈ s.members, ∀ r set, Q r → m.read depth r = .ok set →
      ∀ record, P record → P (set record))
    (given : ∀ member ∈ members, Q member.2) (before : P record)
    (h : s.readMembers depth ending seen record members = .ok (seen', record')) : P record' := by
  induction members generalizing seen record with
  | nil => rwa [readMembers_nil h]
  | cons member rest ih =>
      obtain ⟨name?, value⟩ := member
      obtain ⟨first, later⟩ := List.forall_mem_cons.1 given
      obtain ⟨name, rfl, ⟨m, set, found, -, hset, h⟩ | ⟨-, h⟩⟩ := readMembers_cons h
      · exact ih later (step m (member?_eq_some found).1 value set first hset record before) h
      · exact ih later before h

theorem readItems_preserves {ending : ListEnd} {i : Nat} {members : List (Member ρ)}
    {items : List Reading}
    (step : ∀ m ∈ members, ∀ r set, Q r → m.read depth r = .ok set →
      ∀ record, P record → P (set record))
    (given : ∀ item ∈ items, Q item) (before : P record)
    (h : s.readItems depth ending i record members items = .ok record') : P record' := by
  induction members generalizing i record items with
  | nil => rwa [readItems_nil h]
  | cons m rest ih =>
      obtain ⟨hm, hrest⟩ := List.forall_mem_cons.1 step
      cases items with
      | nil => exact ih hrest given before (readItems_missing h)
      | cons item later =>
          obtain ⟨first, others⟩ := List.forall_mem_cons.1 given
          obtain ⟨set, hset, h⟩ := readItems_cons h
          exact ih hrest others (hm item set first hset record before) h

/-- What a blank record has, and no member takes away that reads a part of the text, every record has
that was read. -/
theorem decode_preserves_given {r : Reading} (blank : P s.blank)
    (step : ∀ m ∈ s.members, ∀ depth r set, Q r → m.read depth r = .ok set →
      ∀ record, P record → P (set record))
    (given : ∀ part ∈ r.parts, Q part) (h : s.decode depth r = .ok record) : P record := by
  cases r with
  | object members ending =>
      rw [Schema.decode] at h
      obtain ⟨inner, -, h⟩ := of_bind_eq_ok h
      obtain ⟨⟨seen, final⟩, read, h⟩ := of_bind_eq_ok h
      have values : ∀ member ∈ members, Q member.2 :=
        fun member mem => given _ (List.mem_map_of_mem mem)
      have kept := readMembers_preserves (fun m hm => step m hm inner) values blank read
      dsimp only at h
      split at h
      · cases h
      · obtain ⟨_, -, h⟩ := of_bind_eq_ok h
        cases h
        exact kept
  | list items ending =>
      rw [Schema.decode] at h
      obtain ⟨inner, -, h⟩ := of_bind_eq_ok h
      exact readItems_preserves (fun m hm => step m hm inner) given blank h
  | _ => cases h

/-- What a blank record has, and no member takes away, every record has that was read. -/
theorem decode_preserves {r : Reading} (blank : P s.blank)
    (step : ∀ m ∈ s.members, ∀ depth r set, m.read depth r = .ok set →
      ∀ record, P record → P (set record))
    (h : s.decode depth r = .ok record) : P record :=
  decode_preserves_given blank (fun m hm depth r set (_ : True) => step m hm depth r set)
    (fun _ _ => trivial) h

end Steps

section Given

variable {value : Reading} {record record' : ρ}

theorem read_of_mem_members {ending : ObjectEnd} {seen seen' : List String}
    {members : List (Except SyntaxFault String × Reading)} (hm : s.member? m.name = some m)
    (given : (.ok m.name, value) ∈ members)
    (h : s.readMembers depth ending seen record members = .ok (seen', record')) :
    ∃ set, m.read depth value = .ok set := by
  induction members generalizing seen record with
  | nil => cases given
  | cons member rest ih =>
      obtain ⟨name?, other⟩ := member
      obtain ⟨name, rfl, ⟨n, set, found, -, hset, h⟩ | ⟨unknown, h⟩⟩ := readMembers_cons h
      · rcases List.mem_cons.1 given with same | later
        · cases same
          rw [hm] at found
          cases found
          exact ⟨set, hset⟩
        · exact ih later h
      · rcases List.mem_cons.1 given with same | later
        · cases same
          rw [hm] at unknown
          cases unknown
        · exact ih later h

theorem read_of_getElem?_items {ending : ListEnd} {i k : Nat} {members : List (Member ρ)}
    {items : List Reading} (hk : members[k]? = some m) (given : items[k]? = some value)
    (h : s.readItems depth ending i record members items = .ok record') :
    ∃ set, m.read depth value = .ok set := by
  induction members generalizing i record items k with
  | nil => cases hk
  | cons n rest ih =>
      cases items with
      | nil => cases given
      | cons item later =>
          obtain ⟨set, hset, h⟩ := readItems_cons h
          cases k with
          | zero =>
              cases hk
              cases given
              exact ⟨set, hset⟩
          | succ k => exact ih hk given h

/-- Whatever is given for a member of a record that was read could be read. -/
theorem read_of_decode {k : Nat} {r : Reading} (distinct : (s.members.map Member.name).Nodup)
    (hk : s.members[k]? = some m) (given : r.Gives m.name k value)
    (h : s.decode depth r = .ok record) : ∃ inner set, m.read inner value = .ok set := by
  have hm := member?_of_nodup distinct (List.mem_of_getElem? hk)
  cases given with
  | named given =>
      rw [Schema.decode] at h
      obtain ⟨inner, -, h⟩ := of_bind_eq_ok h
      obtain ⟨⟨seen, final⟩, read, -⟩ := of_bind_eq_ok h
      exact ⟨inner, read_of_mem_members hm given read⟩
  | placed given =>
      rw [Schema.decode] at h
      obtain ⟨inner, -, h⟩ := of_bind_eq_ok h
      exact ⟨inner, read_of_getElem?_items hk given h⟩

end Given

section Lists

/-- At the places of the table the record has members with these names that are read alike. A blank record
has the value `missing` for each of them. -/
inductive Lists (s : Schema ρ) (decode : Decoder α) (missing : α) : List (Nat × String) → Prop
  | nil : Lists s decode missing []
  | cons {k name set table} (place : s.members[k]? = some (.of name .defaulted decode set))
      (blank : set missing s.blank = s.blank) (rest : Lists s decode missing table) :
      Lists s decode missing ((k, name) :: table)

variable {decode : Decoder α} {missing : α} {table : List (Nat × String)} {k : Nat} {name : String}

theorem Lists.getElem? (h : s.Lists decode missing table) (mem : (k, name) ∈ table) :
    ∃ set, s.members[k]? = some (.of name .defaulted decode set) ∧
      set missing s.blank = s.blank := by
  induction h with
  | nil => cases mem
  | cons place blank _ ih =>
      rcases List.mem_cons.1 mem with same | later
      · cases same
        exact ⟨_, place, blank⟩
      · exact ih later

/-- What a text gives for a member of the table, the decoder of the table accepts. -/
theorem Lists.decoded {r value : Reading} {record : ρ} (h : s.Lists decode missing table)
    (distinct : (s.members.map Member.name).Nodup) (mem : (k, name) ∈ table)
    (given : r.Gives name k value) (read : s.decode depth r = .ok record) :
    ∃ inner x, decode inner value = .ok x := by
  obtain ⟨set, place, -⟩ := h.getElem? mem
  obtain ⟨inner, f, read⟩ := read_of_decode distinct place given read
  obtain ⟨x, decoded, -⟩ := read_of read
  exact ⟨inner, x, decoded⟩

end Lists

end Schema

end LinkTrials.Json
