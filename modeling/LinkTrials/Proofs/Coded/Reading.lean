import Mathlib.Data.List.Nodup
import LinkTrials.CommandLine.Options
import LinkTrials.Proofs.Settings.Merge
import LinkTrials.Proofs.Text.Alike

/-!
Coded things read from what a person writes.

A text is a numeral of a code or else a name in upper case, and never both. What surrounds it, the case
of its letters and the choice between hyphen and underscore make no difference. The rules of the
variables, the merging of variables into settings and the command line read the same texts as the same
things.
-/
namespace LinkTrials.Coded

open Text

section Reading

variable {α : Type} [Coded α] {s t : String} {n : Nat}

/-- All things are listed, and codes and names tell them apart. A name is in ASCII and begins with a
letter. -/
structure Distinct (α : Type) [Coded α] : Prop where
  mem_all : ∀ a : α, a ∈ (all : List α)
  code_injective : Function.Injective (code : α → Nat)
  name_injective : Function.Injective (name : α → String)
  ascii : ∀ a : α, AllAscii (name a).toList
  letter : ∀ a : α, ∃ c ∈ (name a).toList.head?, c.isAlpha = true

theorem Distinct.of_all (mem_all : ∀ a : α, a ∈ (all : List α))
    (codes : ((all : List α).map code).Nodup) (names : ((all : List α).map name).Nodup)
    (ascii : ∀ a ∈ (all : List α), AllAscii (name a).toList)
    (letter : ∀ a ∈ (all : List α), (name a).toList.head?.any Char.isAlpha = true) : Distinct α where
  mem_all := mem_all
  code_injective := fun a b => List.inj_on_of_nodup_map codes (mem_all a) (mem_all b)
  name_injective := fun a b => List.inj_on_of_nodup_map names (mem_all a) (mem_all b)
  ascii := fun a => ascii a (mem_all a)
  letter := fun a => (Option.any_eq_true _ _).1 (letter a (mem_all a))

theorem find?_key_eq_some_iff {κ : Type} [BEq κ] [LawfulBEq κ] {key : α → κ} {a : α} {k : κ}
    (member : ∀ a : α, a ∈ (all : List α)) (injective : Function.Injective key) :
    ((all : List α).find? fun a => key a == k) = some a ↔ key a = k := by
  constructor
  · intro found
    simpa using List.find?_some found
  · rintro rfl
    cases found : (all : List α).find? fun b => key b == key a with
    | none => exact absurd (List.find?_eq_none.1 found a (member a)) (by simp)
    | some b =>
        have same : key b = key a := by simpa using List.find?_some found
        rw [injective same]

theorem ofCode_eq_ok_iff (distinct : Distinct α) {a : α} : ofCode n = .ok a ↔ code a = n := by
  rw [← find?_key_eq_some_iff distinct.mem_all distinct.code_injective, ofCode]
  cases (all : List α).find? fun a => code a == n with
  | none => exact iff_of_false (fun h => by cases h) fun h => by cases h
  | some b => rw [Except.ok.injEq, Option.some.injEq]

/-- A text names a thing by a numeral of its code or else by its name. -/
theorem ofText_eq_ok_iff (distinct : Distinct α) {a : α} :
    ofText s = .ok a ↔ IsNumeral 255 (code a) (trim s).toList ∨
      (∀ n, ¬IsNumeral 255 n (trim s).toList) ∧ normalized (trim s) = name a := by
  rw [ofText]
  -- A numeral is not looked up among the names, even if no thing has that code.
  cases read : readNat 255 (trim s) with
  | ok n =>
      have numeral := readNat_eq_ok_iff.1 read
      dsimp only
      rw [ofCode_eq_ok_iff distinct]
      constructor
      · rintro rfl
        exact .inl numeral
      · rintro (byCode | ⟨none, _⟩)
        · exact byCode.unique numeral
        · exact absurd numeral (none n)
  | error fault =>
      have none (n : Nat) : ¬IsNumeral 255 n (trim s).toList := fun numeral => by
        rw [readNat_eq_ok_iff.2 numeral] at read
        cases read
      dsimp only
      have found := find?_key_eq_some_iff (a := a) (k := normalized (trim s)) distinct.mem_all
        distinct.name_injective
      rw [or_iff_right (none _), and_iff_right none, eq_comm (a := normalized _), ← found]
      cases (all : List α).find? fun a => name a == normalized (trim s) with
      | none => exact iff_of_false (fun h => by cases h) fun h => by cases h
      | some b => rw [Except.ok.injEq, Option.some.injEq]

theorem exists_fault_of_not_ok (h : ∀ a : α, ofText s ≠ .ok a) :
    ∃ fault, (ofText s : Except Fault α) = .error fault := by
  cases read : (ofText s : Except Fault α) with
  | ok a => exact absurd read (h a)
  | error fault => exact ⟨fault, rfl⟩

/-- No text is a numeral and a name. -/
theorem name_ne_of_isNumeral (distinct : Distinct α) {cs : List Char} (h : IsNumeral 255 n cs)
    (a : α) : (cs.flatMap upperChar).map underscored ≠ (name a).toList := by
  intro same
  obtain ⟨c, first, letter⟩ := distinct.letter a
  rw [← same] at first
  exact h.head_upper c first letter

theorem isNumeral_iff_of_alike {cs ds : List Char} (h : List.Forall₂ Alike cs ds) :
    IsNumeral 255 n cs ↔ IsNumeral 255 n ds := by
  constructor
  · intro numeral
    rwa [← numeral.eq_of_alike h]
  · intro numeral
    have back : List.Forall₂ Alike ds cs :=
      List.Forall₂.flip (h.imp fun _ _ alike => Alike.symm alike)
    rwa [← numeral.eq_of_alike back]

theorem normalized_of_alike (h : List.Forall₂ Alike s.toList t.toList) :
    normalized s = normalized t := by
  rw [normalized, normalized, upper, upper, String.toList_ofList, String.toList_ofList]
  exact congrArg String.ofList (upper_eq_of_alike h)

theorem normalized_eq_iff {u : String} :
    normalized s = u ↔ (s.toList.flatMap upperChar).map underscored = u.toList := by
  rw [normalized, upper, String.toList_ofList, ← String.toList_inj, String.toList_ofList]
  rfl

theorem ofText_trim (distinct : Distinct α) {a : α} : ofText (trim s) = .ok a ↔ ofText s = .ok a := by
  rw [ofText_eq_ok_iff distinct, ofText_eq_ok_iff distinct, trim_trim]

theorem checkCoded_eq_ok_iff {α : Type} [Coded α] {text : String} :
    Variable.checkCoded α text = .ok () ↔ ∃ a : α, ofText text = .ok a := by
  constructor
  · exact Variable.ofText_of_checkCoded α
  · rintro ⟨a, read⟩
    rw [Variable.checkCoded, read]

theorem toOption_congr {ε δ β : Type} {x : Except ε β} {y : Except δ β}
    (h : ∀ b, x = .ok b ↔ y = .ok b) : x.toOption = y.toOption := by
  cases x with
  | ok b => rw [(h b).1 rfl]; rfl
  | error _ =>
      cases y with
      | ok b => cases (h b).2 rfl
      | error _ => rfl

/-- Texts that differ by no more than what makes no difference name the same. -/
theorem ofText_of_alike (distinct : Distinct α)
    (h : List.Forall₂ Alike (trim s).toList (trim t).toList) :
    (ofText s : Except Fault α).toOption = (ofText t : Except Fault α).toOption := by
  apply toOption_congr
  intro a
  rw [ofText_eq_ok_iff distinct, ofText_eq_ok_iff distinct, isNumeral_iff_of_alike h,
    normalized_of_alike h]
  simp only [isNumeral_iff_of_alike h]

end Reading

/-! ### The kinds -/

/-- The kinds of coded things. -/
inductive Kind where
  | payload
  | medium
  | carrier
  | manner
deriving DecidableEq, Repr

namespace Kind

def Thing : Kind → Type
  | .payload => Payload
  | .medium => Medium
  | .carrier => Carrier
  | .manner => UpgradeManner

instance : (k : Kind) → Coded k.Thing
  | .payload => inferInstanceAs (Coded Payload)
  | .medium => inferInstanceAs (Coded Medium)
  | .carrier => inferInstanceAs (Coded Carrier)
  | .manner => inferInstanceAs (Coded UpgradeManner)

/-- The variable that sets a thing of the kind. Nothing sets the medium that a trial ends up with. -/
def setBy : Kind → Option Variable
  | .payload => some .payload
  | .medium => some .medium
  | .manner => some .manner
  | .carrier => none

/-- The thing of the kind in the settings. -/
def setting? : (k : Kind) → Settings → Option k.Thing
  | .payload, s => some s.payload
  | .medium, s => some s.medium
  | .manner, s => some s.manner
  | .carrier, _ => none

theorem distinct : (k : Kind) → Distinct k.Thing
  | .payload => .of_all (α := Payload) (fun a => by cases a <;> decide) (by decide) (by decide)
    (by decide +kernel) (by decide +kernel)
  | .medium => .of_all (α := Medium) (fun a => by cases a <;> decide) (by decide) (by decide)
    (by decide +kernel) (by decide +kernel)
  | .carrier => .of_all (α := Carrier) (fun a => by cases a <;> decide) (by decide) (by decide)
    (by decide +kernel) (by decide +kernel)
  | .manner => .of_all (α := UpgradeManner) (fun a => by cases a <;> decide) (by decide) (by decide)
    (by decide +kernel) (by decide +kernel)

variable {k : Kind} {v : Variable}

theorem check_eq_ok_iff (h : k.setBy = some v) (s : String) :
    v.check s = .ok () ↔ ∃ a : k.Thing, ofText s = .ok a := by
  rw [← exists_congr fun a => ofText_trim k.distinct]
  cases k with
  | carrier => cases h
  | payload | medium | manner =>
      cases h
      rw [Variable.check]
      exact checkCoded_eq_ok_iff

/-- The setting of a variable is the thing that its text names, if it is what the text stands for. -/
theorem setting?_of_read? (h : k.setBy = some v) {s : String} {P : Settings}
    (read : v.read? s = some (P.content v)) :
    ∃ a : k.Thing, ofText s = .ok a ∧ k.setting? P = some a := by
  rw [exists_congr fun a => and_congr_left' (ofText_trim k.distinct).symm]
  cases k with
  | carrier => cases h
  | payload | medium | manner =>
      cases h
      exact ⟨_, Variable.toOption_eq_some read, rfl⟩

/-- Merging takes the thing that the text of the variable names, and fails on no other account than that
it names none or that the text of another variable breaks its rule. -/
theorem merge_reads (h : k.setBy = some v) {s : String} {lookup : String → Option String}
    (set : lookup v.name = some s) (P : Settings) :
    ((P.merge lookup).2 = .ok () →
      ∃ a : k.Thing, ofText s = .ok a ∧ k.setting? (P.merge lookup).1 = some a) ∧
    ((∀ u : Variable, u ≠ v → u.Passes lookup) →
      ((P.merge lookup).2 = .ok () ↔ ∃ a : k.Thing, ofText s = .ok a)) := by
  constructor
  · intro whole
    exact setting?_of_read? h ((Settings.takes_of_merge whole).taken v (Variable.mem_all v) s set)
  · intro others
    rw [Settings.merge_eq_ok_iff_passes, ← check_eq_ok_iff h]
    constructor
    · exact fun passes => passes v s set
    · intro check u
      by_cases same : u = v
      · subst same
        intro raw set'
        rw [set] at set'
        cases set'
        exact check
      · exact others u same

/-- A text without the blanks around it names a thing by a numeral of its code or, if it is no numeral,
by its name in upper case with underscores for hyphens, and otherwise it cannot be parsed. No text does
both, and none names two things. Blanks around the text, the case of letters of ASCII and the choice
between hyphen and underscore change neither what is accepted nor what is read. The rule of the variable
of the kind, the merging of the variables and the option for the medium accept the same texts and take
the same thing. -/
theorem reads_code_or_name (k : Kind) (full : Uppercasing) (s : String) :
    let t := (trim s).toList
    let byCode (a : k.Thing) := IsNumeral 255 (code a) t
    let byName (a : k.Thing) := (t.flatMap full.upper).map underscored = (name a).toList
    let names (a : k.Thing) := byCode a ∨ (∀ n, ¬IsNumeral 255 n t) ∧ byName a
    let read : Except Fault k.Thing := ofText s
    ((∃ front back, AllBlank front ∧ AllBlank back ∧ s.toList = front ++ t ++ back) ∧
      (∀ c ∈ t.head?, isBlank c = false) ∧ ∀ c ∈ t.getLast?, isBlank c = false) ∧
    (∀ a, read = .ok a ↔ names a) ∧
    ((∀ a, ¬names a) → ∃ fault, read = .error fault ∧ fault.toFault = .parse fault.message) ∧
    (∀ a b, ¬(byCode a ∧ byName b) ∧ (byCode a → byCode b → a = b) ∧ (byName a → byName b → a = b)) ∧
    (∀ front u back, AllBlank front → AllBlank back → List.Forall₂ Alike s.toList u →
      (ofText (String.ofList (front ++ u ++ back)) : Except Fault k.Thing).toOption = read.toOption) ∧
    (∀ v, k.setBy = some v →
      (v.check s = .ok () ↔ ∃ a, read = .ok a) ∧
      ∀ lookup (P : Settings), lookup v.name = some s →
        let merged := P.merge lookup
        (merged.2 = .ok () → ∃ a, read = .ok a ∧ k.setting? merged.1 = some a) ∧
        ((∀ u : Variable, u ≠ v → u.Passes lookup) → (merged.2 = .ok () ↔ ∃ a, read = .ok a))) ∧
    ∀ m : Medium, ValueOption.readMedium s = .ok m ↔ ofText s = .ok m := by
  intro t byCode byName names read
  have distinct := k.distinct
  have spelled (a : k.Thing) : byName a ↔ normalized (trim s) = name a := by
    rw [normalized_eq_iff]
    exact full.spells_iff (distinct.ascii a) t
  have accepted (a : k.Thing) : read = .ok a ↔ names a := by
    refine (ofText_eq_ok_iff distinct).trans (or_congr_right (and_congr_right' ?_))
    exact (spelled a).symm
  refine ⟨surrounded_trim s, accepted, ?_, ?_, ?_, ?_, ?_⟩
  · intro none
    obtain ⟨fault, failed⟩ := exists_fault_of_not_ok fun a h => none a ((accepted a).1 h)
    exact ⟨fault, failed, rfl⟩
  · intro a b
    refine ⟨?_, fun ha hb => ?_, fun ha hb => ?_⟩
    · rintro ⟨numeral, named⟩
      rw [spelled, normalized_eq_iff] at named
      exact name_ne_of_isNumeral distinct numeral b named
    · exact distinct.code_injective (ha.unique hb)
    · exact distinct.name_injective (String.toList_inj.1 (ha.symm.trans hb))
  · intro front u back hf hb alike
    refine (ofText_of_alike distinct ?_).symm
    rw [trim_surrounded hf hb]
    exact forall₂_trim (by rwa [String.toList_ofList])
  · intro v h
    exact ⟨check_eq_ok_iff h s, fun lookup P set => merge_reads h set P⟩
  · intro m
    rw [ValueOption.readMedium]
    cases (ofText s : Except Fault Medium) with
    | ok a => rw [Except.mapError, Except.ok.injEq, Except.ok.injEq]
    | error fault => exact iff_of_false (fun h => by cases h) fun h => by cases h

/-- A name with a hyphen, in mixed case and between blanks of other scripts. -/
theorem reads_code_or_name_of_respelled :
    AllBlank ['\u3000'] ∧ List.Forall₂ Alike "bt-only".toList "Bt_oNLY".toList ∧ Kind.medium.setBy = some .medium ∧
    (ofText "\u3000Bt_oNLY\u3000" : Except Fault Medium).toOption = some .btOnly ∧
    Variable.medium.check "bt-only" = .ok () := by
  have blank : AllBlank ['\u3000'] := by decide
  have alike : List.Forall₂ Alike "bt-only".toList "Bt_oNLY".toList := by decide
  have named : (ofText "bt-only" : Except Fault Medium) = .ok .btOnly := by decide +kernel
  obtain ⟨-, -, -, -, respelled, entries, -⟩ := reads_code_or_name .medium default "bt-only"
  have same := respelled ['\u3000'] "Bt_oNLY".toList ['\u3000'] blank blank alike
  have check := (entries .medium rfl).1.2 ⟨.btOnly, named⟩
  exact ⟨blank, alike, rfl, same.trans (congrArg Except.toOption named), check⟩

end Kind

end LinkTrials.Coded
