import LinkTrials.Proofs.Json.Places
import LinkTrials.Proofs.Report.Rereading

/-!
What reports are without.

The numbers of a report on trials that were read from a text are finite and not below zero, so nothing in
it is written as `null` but what it does not have: the figures of the checks of how many samples there are.
-/
namespace LinkTrials

open Json Json.Reading

variable {path : List Key}

namespace Json

/-- Nothing in the text of the value is `null`. -/
def IsFull (j : Json) : Prop := ∀ path, ¬ IsNullAt (toReading j) path

theorem isFull_string (s : String) : IsFull (.string s) := fun _ => not_isNullAt_of_empty nofun rfl

theorem isFull_bool (b : Bool) : IsFull (.bool b) := fun _ => not_isNullAt_of_empty nofun rfl

theorem isFull_ofNat (n : Nat) : IsFull (.ofNat n) := fun _ => not_isNullAt_of_empty nofun rfl

theorem isFull_ofReal {x : Binary64} (h : x.isFinite = true) : IsFull (.ofReal x) := by
  intro path
  rw [toReading_ofReal h]
  exact not_isNullAt_of_empty nofun rfl

theorem isFull_list {α : Type} {write : α → Json} {as : List α} (h : ∀ a ∈ as, IsFull (write a)) :
    IsFull (.list (as.map write)) := by
  intro path
  rw [toReading, itemReadings_map]
  refine not_isNullAt_of_parts (by rintro ⟨⟩) fun part mem => ?_
  obtain ⟨a, ha, rfl⟩ := List.mem_map.1 mem
  exact h a ha

theorem memberReadings_eq_map (members : List (String × Json)) :
    memberReadings members = members.map fun m => (.ok m.1, toReading m.2) := by
  induction members with
  | nil => rfl
  | cons m rest ih => rw [memberReadings, ih, List.map_cons]

theorem isFull_object {members : List (String × Json)} (h : ∀ m ∈ members, IsFull m.2) :
    IsFull (.object members) := by
  intro path
  rw [toReading, memberReadings_eq_map]
  refine not_isNullAt_of_parts (by rintro ⟨⟩) fun part mem => ?_
  obtain ⟨_, member, rfl⟩ := List.mem_map.1 mem
  obtain ⟨m, hm, rfl⟩ := List.mem_map.1 member
  exact h m hm

/-- An object that is full but for one member. -/
theorem isNullAt_toReading {members : List (String × Json)} (name : String) {j : Json}
    (found : named? name (memberReadings members) = some (toReading j))
    (others : ∀ m ∈ members, m.1 ≠ name → IsFull m.2) :
    IsNullAt (toReading (.object members)) path ↔
      ∃ rest, path = .member name :: rest ∧ IsNullAt (toReading j) rest := by
  rw [toReading]
  refine isNullAt_member found ?_
  rw [memberReadings_eq_map]
  intro part mem differ
  obtain ⟨m, hm, rfl⟩ := List.mem_map.1 mem
  exact others m hm fun same => differ (congrArg _ same)

end Json

theorem Miss.isFull {m : Miss} (h : ∀ x ∈ m.numbers, x.isFinite = true) : IsFull m.toJson := by
  obtain ⟨rate, h⟩ := List.forall_mem_cons.1 h
  have goal := List.forall_mem_singleton.1 h
  refine isFull_object ?_
  simp only [List.forall_mem_cons]
  exact ⟨isFull_string _, isFull_ofReal rate, isFull_ofReal goal, List.forall_mem_nil _⟩

theorem Totals.isFull {t : Totals} (h : ∀ x ∈ t.numbers, x.isFinite = true) : IsFull t.toJson := by
  obtain ⟨reach, h⟩ := List.forall_mem_cons.1 h
  have success := List.forall_mem_singleton.1 h
  refine isFull_object ?_
  simp only [List.forall_mem_cons]
  exact ⟨isFull_bool _, isFull_ofReal reach, isFull_ofReal success, List.forall_mem_nil _⟩

/-- A check is written with `null` for its figure if it has none. -/
theorem Check.isNullAt_iff {c : Check} (h : c.IsKept) :
    IsNullAt (toReading c.toJson) path ↔ path = [.member "figure"] ∧ c.figure = none := by
  obtain ⟨rate, numbers⟩ := List.forall_mem_cons.1 h.numbers
  obtain ⟨goal, numbers⟩ := List.forall_mem_cons.1 numbers
  have figure (rest : List Key) :
      IsNullAt (toReading (.ofOption .ofReal c.figure)) rest ↔ rest = [] ∧ c.figure = none := by
    cases value : c.figure with
    | none => exact isNullAt_null.trans (and_iff_left rfl).symm
    | some x =>
        have finite := numbers x (Option.mem_toList.2 value)
        exact iff_of_false (isFull_ofReal finite rest) fun none => nomatch none.2
  rw [Check.toJson, isNullAt_toReading "figure" (j := .ofOption .ofReal c.figure) rfl]
  · simp only [figure]
    constructor
    · rintro ⟨rest, rfl, rfl, none⟩
      exact ⟨rfl, none⟩
    · rintro ⟨rfl, none⟩
      exact ⟨[], rfl, rfl, none⟩
  · simp only [List.forall_mem_cons]
    exact ⟨fun _ => isFull_string _, fun _ => isFull_string _, fun _ => isFull_string _,
      fun _ => isFull_ofNat _, fun _ => isFull_ofNat _, fun _ => isFull_ofReal rate,
      fun _ => isFull_ofReal goal, fun _ => isFull_bool _, fun differ => absurd rfl differ,
      List.forall_mem_nil _⟩

/-- In the text of a report, `null` stands for the figures that checks do not have. -/
theorem Report.isNullAt_iff {r : Report} (h : r.IsKept) :
    IsNullAt (toReading r.toJson) path ↔
      ∃ i c, path = [.member "checks", .item i, .member "figure"] ∧ r.checks[i]? = some c ∧
        c.figure = none := by
  rw [Report.toJson, isNullAt_toReading "checks" (j := .list (r.checks.map Check.toJson)) rfl]
  · rw [toReading, itemReadings_map]
    simp only [isNullAt_list]
    constructor
    · rintro ⟨_, rfl, i, rest, item, rfl, found, null⟩
      rw [List.getElem?_map] at found
      obtain ⟨c, hc, rfl⟩ := Option.map_eq_some_iff.1 found
      obtain ⟨rfl, none⟩ := (Check.isNullAt_iff (h.check (List.mem_of_getElem? hc))).1 null
      exact ⟨i, c, rfl, hc, none⟩
    · rintro ⟨i, c, rfl, hc, none⟩
      refine ⟨_, rfl, i, _, toReading c.toJson, rfl, ?_, ?_⟩
      · rw [List.getElem?_map, hc]
        rfl
      · exact (Check.isNullAt_iff (h.check (List.mem_of_getElem? hc))).2 ⟨rfl, none⟩
  · -- The checks are the only member with a `null` in it.
    simp only [List.forall_mem_cons]
    exact ⟨fun _ => isFull_string _, fun _ => isFull_ofNat _, fun _ => Totals.isFull h.totals,
      fun differ => absurd rfl differ, fun _ => isFull_list fun m hm => Miss.isFull (h.miss hm),
      fun _ => isFull_list fun s _ => isFull_string _, fun _ => isFull_string _,
      List.forall_mem_nil _⟩

namespace Evaluator

open Samples

variable {e : Evaluator} {trials : List Trial}

theorem isKept_evaluate (bounded : ∀ t ∈ trials, t.IsBounded) (few : trials.length ≤ Nat.pow 2 53)
    (valid : e.settings.validate = .ok ()) (now : Instant) :
    (e.evaluate (ofTrials trials) now).IsKept where
  numbers x hx := (evaluate_amounts valid (isRegular_ofTrials bounded few) now x hx).isFinite
  trialCount := by
    change (ofTrials trials).trialCount ≤ maxNatural
    rw [ofTrials_eq_tally]
    exact Nat.le_trans few (by decide)
  counts c hc := by
    have run_eq : run [.ofTrials trials] = ofTrials trials := rfl
    obtain ⟨sampled, expected⟩ := counts_le_of_mem_checks (run_eq ▸ hc)
    have all : (run [.ofTrials trials]).trialCount ≤ maxNatural := by
      rw [run_eq, ofTrials_eq_tally]
      exact Nat.le_trans few (by decide)
    have counted := Nat.le_trans expected all
    exact ⟨Nat.le_trans sampled counted, counted⟩

/-- Whatever was measured, a report on trials that were read from a text, against settings that are
valid, has numbers that are finite and not below zero, and of its checks those of how many samples there
are lack a figure and no others. So its text holds a `null` for these figures and nowhere else, and a
report can be decoded from it. More trials than counted here do not fit into the memory of a machine. -/
theorem evaluate_sound {text : String} (valid : e.settings.validate = .ok ())
    (read : trialsOfText text = .ok trials) (few : trials.length ≤ Nat.pow 2 53) (now : Instant)
    (coloured : Bool) :
    let r := e.evaluate (ofTrials trials) now
    (∀ x ∈ r.numbers, x.isFinite = true ∧ Binary64.lt x 0 = false) ∧
    (∀ c ∈ r.checks, c.figure = none ↔ c.aspect = .reach) ∧
    (∃ reading, Reading.ofText (r.render .json coloured) = (reading, false) ∧
      ∀ path, IsNullAt reading path ↔
        ∃ i c, path = [.member "checks", .item i, .member "figure"] ∧ r.checks[i]? = some c ∧
          c.aspect = .reach) ∧
    ∃ q, Report.decoder.ofText (r.render .json coloured) = .ok q := by
  intro r
  have bounded := isBounded_of_text read
  have regular := isRegular_ofTrials bounded few
  have kept : r.IsKept := isKept_evaluate bounded few valid now
  have figures : ∀ c ∈ r.checks, c.figure = none ↔ c.aspect = .reach :=
    fun c hc => (check_amounts valid regular hc).2
  refine ⟨fun x hx => ?_, figures, ⟨_, Report.ofText_render kept coloured, fun path => ?_⟩,
    ⟨_, Report.decoder_render kept coloured⟩⟩
  · have bound := isBound_of_isAmount (evaluate_amounts valid regular now x hx)
    rw [Binary64.isBound, Bool.and_eq_true, Bool.not_eq_true'] at bound
    exact bound
  · rw [Report.isNullAt_iff kept]
    constructor
    · rintro ⟨i, c, rfl, found, none⟩
      exact ⟨i, c, rfl, found, (figures c (List.mem_of_getElem? found)).1 none⟩
    · rintro ⟨i, c, rfl, found, aspect⟩
      exact ⟨i, c, rfl, found, (figures c (List.mem_of_getElem? found)).2 aspect⟩

/-- Two throughputs close to the largest number, with a figure between them. -/
theorem evaluate_sound_of_largest :
    let text := "[\x7b\"first_bt_transfer_throughput_kbs\":1e308\x7d," ++
      "\x7b\"first_bt_transfer_throughput_kbs\":1.7e308\x7d]"
    let trials : List Trial :=
      [{ btThroughput := some (.ofNat (Nat.pow 10 308)) },
        { btThroughput := some (.ofNat (17 * Nat.pow 10 307)) }]
    let e : Evaluator := { settings := {} }
    let r := e.evaluate (ofTrials trials) .epoch
    e.settings.validate = .ok () ∧ trialsOfText text = .ok trials ∧
      trials.length ≤ Nat.pow 2 53 ∧
      (∀ x ∈ r.numbers, x.isFinite = true ∧ Binary64.lt x 0 = false) ∧
      (∃ reading, Reading.ofText (r.render .json false) = (reading, false) ∧
        IsNullAt reading [.member "checks", .item 0, .member "figure"] ∧
        ¬ IsNullAt reading [.member "checks", .item 1, .member "figure"]) ∧
      ∃ q, Report.decoder.ofText (r.render .json false) = .ok q := by
  intro text trials e r
  have valid : e.settings.validate = .ok () := by decide +kernel
  have read : trialsOfText text = .ok trials := by decide +kernel
  have few : trials.length ≤ Nat.pow 2 53 := by decide
  have aspects : r.checks.map Check.aspect = [.reach, .throughput] := by decide +kernel
  obtain ⟨amounts, -, ⟨reading, back, nulls⟩, decoded⟩ := evaluate_sound valid read few .epoch false
  refine ⟨valid, read, few, amounts, ⟨reading, back, ?_, ?_⟩, decoded⟩
  · have first : (r.checks.map Check.aspect)[0]? = some .reach := by rw [aspects]; rfl
    rw [List.getElem?_map] at first
    obtain ⟨c, found, aspect⟩ := Option.map_eq_some_iff.1 first
    exact (nulls _).2 ⟨0, c, rfl, found, aspect⟩
  · intro null
    obtain ⟨i, c, path, found, aspect⟩ := (nulls _).1 null
    cases path
    have second : (r.checks.map Check.aspect)[1]? = some .reach := by
      rw [List.getElem?_map]
      exact Option.map_eq_some_iff.2 ⟨c, found, aspect⟩
    rw [aspects] at second
    cases second

end Evaluator

end LinkTrials
