import Mathlib.Data.List.Sort
import Mathlib.Data.String.Basic
import LinkTrials.Log.Change
import LinkTrials.Proofs.Json.Fields

/-!
Loggers after any changes, and entries made of any parts.

Of the changes of one kind the last counts, and no change of another kind touches what it set. So the
fields of a written entry are those of its parts, under the session and the context. On the console they
are sorted as texts: the line does not show in which order they were kept.
-/
namespace LinkTrials.Log

open Json (Fields)

/-- The last value that one of the steps sets, or else the value before. -/
def lastOf {β γ : Type} (pick : β → Option γ) (steps : List β) (before : γ) : γ :=
  ((steps.filterMap pick).getLast?).getD before

theorem lastOf_cons {β γ : Type} (pick : β → Option γ) (b : β) (rest : List β) (before : γ) :
    lastOf pick (b :: rest) before = lastOf pick rest ((pick b).getD before) := by
  rw [lastOf, lastOf]
  cases set : pick b with
  | none => rw [List.filterMap_cons_none set, Option.getD_none]
  | some value =>
      rw [List.filterMap_cons_some set, List.getLast?_cons, Option.getD_some, Option.getD_some]

/-! ### Changes of a logger -/

namespace Logger

namespace Change

def threshold? : Change → Option Level
  | .threshold level => some level
  | _ => none

def coloured? : Change → Option Bool
  | .coloured on => some on
  | _ => none

def format? : Change → Option Format
  | .format form => some form
  | _ => none

def session? : Change → Option (Option String)
  | .session id => some (some id)
  | _ => none

/-- The field that the change adds to the context. -/
def fields : Change → Fields
  | .context name (some value) => [(name, value)]
  | _ => []

end Change

theorem apply_eq (l : Logger) (c : Change) :
    l.apply c =
      { l with
        threshold := c.threshold?.getD l.threshold
        coloured := c.coloured?.getD l.coloured
        format := c.format?.getD l.format
        session := c.session?.getD l.session
        context := Fields.insertAll c.fields l.context } := by
  cases c with
  | threshold | coloured | format | session => rfl
  | context name value => cases value <;> rfl

/-- After some changes each part of the logger is what the last change of that part made it. -/
theorem foldl_apply (l : Logger) (changes : List Change) :
    changes.foldl apply l =
      { l with
        threshold := lastOf Change.threshold? changes l.threshold
        coloured := lastOf Change.coloured? changes l.coloured
        format := lastOf Change.format? changes l.format
        session := lastOf Change.session? changes l.session
        context := Fields.insertAll (changes.flatMap Change.fields) l.context } := by
  induction changes generalizing l with
  | nil => rfl
  | cons c rest ih =>
      rw [List.foldl_cons, ih, apply_eq]
      simp only [lastOf_cons, List.flatMap_cons, Fields.insertAll_append]

theorem ordered_foldl_apply {l : Logger} (ordered : l.context.Ordered) (changes : List Change) :
    (changes.foldl apply l).context.Ordered := by
  rw [foldl_apply]
  exact ordered.insertAll _

end Logger

/-! ### Parts of an entry -/

namespace Entry

namespace Part

def correlation? : Part → Option (Option String)
  | .correlation id => some (some id)
  | _ => none

def location? : Part → Option (Option Location)
  | .location place => some (some place)
  | _ => none

/-- The fields that the part adds. -/
def fields : Part → Fields
  | .field name (some value) => [(name, value)]
  | .fault why =>
    [("error_category", .string why.category), ("error_exit_code", .ofNat why.exitCode)]
  | _ => []

end Part

theorem add_eq (e : Entry) (p : Part) :
    e.add p =
      { e with
        correlation := p.correlation?.getD e.correlation
        location := p.location?.getD e.location
        fields := Fields.insertAll p.fields e.fields } := by
  cases p with
  | correlation | location | fault => rfl
  | field name value => cases value <;> rfl

/-- With some parts added, each component of the entry is what the last part for it made it. -/
theorem foldl_add (e : Entry) (parts : List Part) :
    parts.foldl add e =
      { e with
        correlation := lastOf Part.correlation? parts e.correlation
        location := lastOf Part.location? parts e.location
        fields := Fields.insertAll (parts.flatMap Part.fields) e.fields } := by
  induction parts generalizing e with
  | nil => rfl
  | cons p rest ih =>
      rw [List.foldl_cons, ih, add_eq]
      simp only [lastOf_cons, List.flatMap_cons, Fields.insertAll_append]

theorem ordered_foldl_add {e : Entry} (ordered : e.fields.Ordered) (parts : List Part) :
    (parts.foldl add e).fields.Ordered := by
  rw [foldl_add]
  exact ordered.insertAll _

end Entry

namespace Logger

/-! ### Written fields -/

/-- The fields that an entry gets from the session. -/
def sessionFields (l : Logger) : Fields := l.session.toList.map fun id => ("session_id", .string id)

theorem fieldsOf_eq (l : Logger) (e : Entry) :
    l.fieldsOf e = Fields.insertAll (l.sessionFields ++ l.context) e.fields := by
  rw [Fields.insertAll_append, fieldsOf, sessionFields]
  cases l.session <;> rfl

theorem ordered_fieldsOf (l : Logger) {e : Entry} (ordered : e.fields.Ordered) :
    (l.fieldsOf e).Ordered := by
  rw [fieldsOf_eq]
  exact ordered.insertAll _

theorem find?_sessionFields (l : Logger) (key : String) :
    Fields.find? key l.sessionFields.reverse =
      if key = "session_id" then l.session.map Json.string else none := by
  rw [sessionFields]
  cases l.session with
  | none => exact (ite_self none).symm
  | some id =>
      simp only [Option.toList_some, List.map_cons, List.map_nil, List.reverse_singleton,
        Option.map_some, Fields.find?, eq_comm]

/-- A field of the context counts before the session, and that before the fields of the entry. -/
theorem find?_fieldsOf {l : Logger} (ordered : l.context.Ordered) (e : Entry) (key : String) :
    (l.fieldsOf e).find? key = (l.context.find? key).or
      ((if key = "session_id" then l.session.map Json.string else none).or (e.fields.find? key)) := by
  have kept := ordered.distinct.find?_perm (List.reverse_perm l.context) key
  rw [fieldsOf_eq, Fields.find?_insertAll, List.reverse_append, Fields.find?_append, kept,
    find?_sessionFields, Option.or_assoc]

/-- The order in which the context is gone through does not matter. -/
theorem fieldsOf_perm {l : Logger} (ordered : l.context.Ordered) {e : Entry}
    (he : e.fields.Ordered) {context : Fields} (perm : context.Perm l.context) :
    { l with context := context }.fieldsOf e = l.fieldsOf e := by
  rw [fieldsOf_eq, fieldsOf_eq, Fields.insertAll_append, Fields.insertAll_append]
  exact Fields.insertAll_perm (he.insertAll _) ordered.distinct perm

theorem render?_eq (l : Logger) (e : Entry) :
    l.render? e = if l.threshold.rank ≤ e.level.rank then
      some (l.text { e with fields := l.fieldsOf e }) else none := by
  simp only [render?, wouldLog, Level.atLeast, decide_eq_true_eq]

/-! ### Lines for people -/

theorem insertText_eq_orderedInsert (s : String) (texts : List String) :
    insertText s texts = texts.orderedInsert (· ≤ ·) s := by
  induction texts with
  | nil => rfl
  | cons t rest ih => rw [insertText, List.orderedInsert_cons, ih]

theorem foldr_insertText (texts : List String) :
    texts.foldr insertText [] = texts.insertionSort (· ≤ ·) := by
  induction texts with
  | nil => rfl
  | cons s rest ih => rw [List.foldr_cons, ih, insertText_eq_orderedInsert, List.insertionSort_cons]

theorem fieldTexts_eq (fields : Fields) :
    fieldTexts fields =
      (fields.map fun m => m.1 ++ "=" ++ m.2.compact).insertionSort (· ≤ ·) := by
  rw [fieldTexts, foldr_insertText]

theorem fieldTexts_perm {fields shown : Fields} (perm : shown.Perm fields) :
    fieldTexts shown = fieldTexts fields := by
  rw [fieldTexts_eq, fieldTexts_eq]
  have same := (List.perm_insertionSort (· ≤ ·) _).trans
    ((perm.map fun m => m.1 ++ "=" ++ m.2.compact).trans (List.perm_insertionSort (· ≤ ·) _).symm)
  exact same.eq_of_pairwise (fun _ _ _ _ => le_antisymm) (List.pairwise_insertionSort _ _)
    (List.pairwise_insertionSort _ _)

theorem fieldsText_perm {fields shown : Fields} (perm : shown.Perm fields) :
    fieldsText shown = fieldsText fields := by
  have empty : shown.isEmpty = fields.isEmpty := by
    rw [Bool.eq_iff_iff, List.isEmpty_iff, List.isEmpty_iff]
    exact ⟨fun h => (h ▸ perm).nil_eq.symm, fun h => (h ▸ perm).eq_nil⟩
  rw [fieldsText, fieldsText, empty, fieldTexts_perm perm]

/-- The line of an entry shows only which values its fields have. -/
theorem consoleText_of_find? (l : Logger) (e : Entry) {fields shown : Fields}
    (hf : fields.Distinct) (hs : shown.Distinct)
    (same : ∀ key, shown.find? key = fields.find? key) :
    l.consoleText { e with fields := shown } = l.consoleText { e with fields := fields } := by
  rw [consoleText, consoleText, fieldsText_perm (hf.perm_of_find? hs same)]

/-! ### Written texts -/

/-- What is written of an entry that has all its fields. -/
inductive Writes (l : Logger) (e : Entry) : String → Prop
  /-- A line for people, in which the fields stand in the order of their texts. -/
  | console {texts : List String} (form : l.format = .console)
      (each : texts.Perm (e.fields.map fun m => m.1 ++ "=" ++ m.2.compact))
      (ascending : texts.Pairwise (· ≤ ·)) :
      Writes l e (e.time.consoleText ++ " " ++
        (if l.coloured then Terminal.switchOn false e.level.colour else "") ++
        (String.ofList (List.replicate (5 - e.level.tag.length) ' ') ++ e.level.tag) ++
        (if l.coloured then Terminal.switchOff else "") ++ " [" ++ e.logger ++ "] " ++ e.message ++
        (e.correlation.elim "" fun id => " [" ++ String.ofList (id.toList.take 8) ++ "]") ++
        (if texts = [] then "" else " \x7b" ++ ", ".intercalate texts ++ "\x7d") ++
        (if l.showsLocation then
          e.location.elim "" fun place => " @ " ++ place.file ++ ":" ++ toString place.line
        else ""))
  | json (form : l.format = .json) :
      Writes l e (Json.object
        [("timestamp", e.time.toJson), ("level", e.level.toJson), ("message", .string e.message),
         ("logger", .string e.logger), ("correlation_id", .ofOption .string e.correlation),
         ("fields", .object e.fields), ("location", .ofOption Location.toJson e.location)]).compact

theorem fieldsText_eq (fields : Fields) :
    fieldsText fields = if fieldTexts fields = [] then ""
      else " \x7b" ++ ", ".intercalate (fieldTexts fields) ++ "\x7d" := by
  have empty : fields.isEmpty = true ↔ fieldTexts fields = [] := by
    rw [fieldTexts_eq, ← List.length_eq_zero_iff, List.length_insertionSort, List.length_map,
      List.length_eq_zero_iff, List.isEmpty_iff]
  rw [fieldsText, if_congr empty rfl rfl]

theorem levelText_eq (coloured : Bool) (level : Level) :
    levelText coloured level =
      (if coloured then Terminal.switchOn false level.colour else "") ++
        (String.ofList (List.replicate (5 - level.tag.length) ' ') ++ level.tag) ++
        (if coloured then Terminal.switchOff else "") := by
  cases coloured with
  | true => rfl
  | false => exact (String.append_empty.trans String.empty_append).symm

theorem correlationText_eq (correlation : Option String) :
    correlationText correlation =
      correlation.elim "" fun id => " [" ++ String.ofList (id.toList.take 8) ++ "]" := by
  cases correlation <;> rfl

theorem locationText_eq (shown : Bool) (location : Option Location) :
    locationText shown location =
      if shown then
        location.elim "" fun place => " @ " ++ place.file ++ ":" ++ toString place.line
      else "" := by
  cases location with
  | none => exact (ite_self _).symm
  | some place => rfl

theorem writes_text (l : Logger) (e : Entry) : l.Writes e (l.text e) := by
  rw [text]
  cases form : l.format with
  | console =>
      rw [consoleText, levelText_eq, correlationText_eq, fieldsText_eq, locationText_eq,
        ← String.append_assoc, ← String.append_assoc]
      refine .console form ?_ ?_
      · rw [fieldTexts_eq]
        exact List.perm_insertionSort _ _
      · rw [fieldTexts_eq]
        exact List.pairwise_insertionSort _ _
  | json =>
      rw [jsonText_eq]
      exact .json form

theorem infix_between (front s back : String) : s.toList <:+: (front ++ s ++ back).toList := by
  rw [String.toList_append, String.toList_append]
  exact List.infix_append _ _ _

theorem infix_intercalate {s : String} {texts : List String} (h : s ∈ texts) (separator : String) :
    s.toList <:+: (separator.intercalate texts).toList := by
  induction texts with
  | nil => exact absurd h List.not_mem_nil
  | cons t rest ih =>
      by_cases last : rest = []
      · subst last
        have text : separator.intercalate [t] = s := by
          rw [String.intercalate_singleton, List.mem_singleton.1 h]
        exact text.symm ▸ List.infix_rfl
      · rw [String.intercalate_cons_of_ne_nil last, String.toList_append, String.toList_append]
        rcases List.mem_cons.1 h with rfl | later
        · exact (List.prefix_append_of_prefix (List.prefix_append _ _)).isInfix
        · exact (ih later).trans (List.suffix_append _ _).isInfix

/-- The text of each field stands in a line for people. -/
theorem Writes.infix_of_mem {l : Logger} {e : Entry} {line : String} (h : l.Writes e line)
    (form : l.format = .console) {m : String × Json} (hm : m ∈ e.fields) :
    (m.1 ++ "=" ++ m.2.compact).toList <:+: line.toList := by
  cases h with
  | json other => exact absurd (form.symm.trans other) (by decide)
  | @console texts _ each _ =>
      have listed : m.1 ++ "=" ++ m.2.compact ∈ texts := each.mem_iff.2 (List.mem_map_of_mem hm)
      rw [if_neg (List.ne_nil_of_mem listed)]
      exact (infix_intercalate listed ", ").trans
        ((infix_between _ _ _).trans (infix_between _ _ _))

/-- A logger after any changes writes an entry of any parts exactly if the entry is at least as weighty
as the last threshold that was set. Every part of the logger and of the entry is what was last set of it.
The fields that are written are those of the context, or else the session, or else those of the entry, of
each name the last one that was added, and no others. A line for people holds the text of each of them, and
is the same however the fields and the context are ordered. -/
theorem render?_after_changes (l : Logger) (ordered : l.context.Ordered) (changes : List Change)
    (now : Instant) (level : Level) (message : String) (parts : List Entry.Part) :
    let after := changes.foldl apply l
    let e := parts.foldl Entry.add (after.entry now level message)
    let complete := { e with fields := after.fieldsOf e }
    let threshold := lastOf Change.threshold? changes l.threshold
    let session := lastOf Change.session? changes l.session
    let added := changes.flatMap Change.fields
    let built := parts.flatMap Entry.Part.fields
    (after.render? e =
      if threshold.rank ≤ level.rank then some (after.text complete) else none) ∧
    after.Writes complete (after.text complete) ∧
    (after.format = .console → ∀ m ∈ complete.fields,
      (m.1 ++ "=" ++ m.2.compact).toList <:+: (after.text complete).toList) ∧
    after = { l with
      threshold := threshold
      coloured := lastOf Change.coloured? changes l.coloured
      format := lastOf Change.format? changes l.format
      session := session
      context := Fields.insertAll added l.context } ∧
    e = { time := now, level := level, message := message, logger := l.name
          correlation := lastOf Entry.Part.correlation? parts none
          location := lastOf Entry.Part.location? parts none
          fields := Fields.ofList built } ∧
    complete.fields.Ordered ∧
    (∀ key, complete.fields.find? key =
      ((Fields.find? key added.reverse).or (l.context.find? key)).or
        ((if key = "session_id" then session.map Json.string else none).or
          (Fields.find? key built.reverse))) ∧
    (∀ context shown : Fields, context.Perm after.context → shown.Distinct →
      (∀ key, shown.find? key = ({ after with context := context }.fieldsOf e).find? key) →
      after.consoleText { e with fields := shown } = after.consoleText complete) ∧
    ∀ inserted others : Fields, inserted.Distinct → others.Perm inserted →
      after.consoleText { e with fields := .ofList others } =
        after.consoleText { e with fields := .ofList inserted } := by
  intro after e complete threshold session added built
  have changed : after = _ := foldl_apply l changes
  have name : after.name = l.name := by rw [changed]
  have made : e = { time := now, level := level, message := message, logger := l.name
                    correlation := lastOf Entry.Part.correlation? parts none
                    location := lastOf Entry.Part.location? parts none
                    fields := Fields.ofList built } := by
    rw [← name]
    exact Entry.foldl_add (after.entry now level message) parts
  have context : after.context.Ordered := ordered_foldl_apply ordered changes
  have fields : e.fields.Ordered := Entry.ordered_foldl_add Fields.ordered_nil parts
  have written : complete.fields.Ordered := after.ordered_fieldsOf fields
  have values (key : String) := find?_fieldsOf context e key
  have text : after.Writes complete (after.text complete) := after.writes_text complete
  refine ⟨?_, text, fun form _ => text.infix_of_mem form, changed, made, written, fun key => ?_,
    ?_, ?_⟩
  · have limit : after.threshold = threshold := by rw [changed]
    have weight : e.level = level := by rw [made]
    rw [render?_eq, limit]
    exact if_congr (by rw [weight]) rfl rfl
  · have session : after.session = session := by rw [changed]
    have kept : after.context = Fields.insertAll added l.context := by rw [changed]
    have parts : e.fields = Fields.ofList built := by rw [made]
    rw [values, session, kept, parts, Fields.find?_insertAll, Fields.ofList, Fields.find?_insertAll]
    exact congrArg _ (congrArg _ (Option.or_none))
  · -- The fields that are shown stand in any order, as those of the context did before.
    intro kept shown perm distinct same
    refine consoleText_of_find? after e written.distinct distinct fun key => ?_
    rw [same, fieldsOf_perm context fields perm]
  · intro inserted others distinct perm
    rw [Fields.ofList, Fields.ofList, Fields.insertAll_perm Fields.ordered_nil distinct perm]

/-- A field of the context in the place of the session, which is in the place of a field of the entry. -/
theorem render?_after_changes_of_covered_session :
    let l : Logger := { name := "TEST" }
    let changes : List Change :=
      [.threshold .error, .session "run-1", .context "session_id" (some (.string "lab")),
        .context "alias" none, .threshold .warn]
    let parts : List Entry.Part :=
      [.field "session_id" (some (.bool true)), .field "rate" (some .null), .correlation "id"]
    let after := changes.foldl apply l
    let e := parts.foldl Entry.add (after.entry .epoch .warn "slow")
    l.context.Ordered ∧ (after.render? e).isSome = true ∧ e.correlation = some "id" ∧
      (after.fieldsOf e).find? "session_id" = some (.string "lab") ∧
      "session_id=\"lab\"".toList <:+: (after.text { e with fields := after.fieldsOf e }).toList ∧
      (after.fieldsOf e).find? "alias" = none ∧ (after.fieldsOf e).find? "rate" = some .null := by
  intro l changes parts after e
  have ordered : l.context.Ordered := Fields.ordered_nil
  obtain ⟨rendered, -, shown, -, made, -, values, -⟩ :=
    render?_after_changes l ordered changes .epoch .warn "slow" parts
  refine ⟨ordered, ?_, ?_, (values _).trans rfl, ?_, (values _).trans rfl, (values _).trans rfl⟩
  · exact (congrArg Option.isSome rendered).trans rfl
  · exact (congrArg Entry.correlation made).trans rfl
  · have kept : ("session_id", Json.string "lab") ∈ after.fieldsOf e := .tail _ (.head _)
    have text : "session_id" ++ "=" ++ (Json.string "lab").compact = "session_id=\"lab\"" := by
      decide +kernel
    have form : after.format = .console := rfl
    have stands := shown form ("session_id", .string "lab") kept
    rw [← text]
    exact stands

end Logger

end LinkTrials.Log
