import LinkTrials.Proofs.Coded.Reading
import LinkTrials.Proofs.Text.Parts
import LinkTrials.Trial

/-!
What the line about a setup and the line about a trial tell.

The line about a setup consists of segments between commas, and the line about a trial of two segments
on either side of a semicolon, each the line about a setup with one segment more. No value has a comma or
a semicolon in it and no label starts another one, so a line shows of each value whether it is there and
how it is written.
-/
namespace LinkTrials

open Text Segment

/-- The marks between the segments of a line. -/
def IsMark (c : Char) : Prop := c = ',' ∨ c = ';'

theorem IsMark.lacks_fixed {c : Char} (h : IsMark c) (places : Nat) (x : Binary64) :
    Lacks c (x.fixed places) := by
  obtain rfl | rfl := h <;> exact Text.lacks_fixed (by decide) (by decide) places x

theorem IsMark.lacks_name {c : Char} (h : IsMark c) (carrier : Carrier) :
    Lacks c (Coded.name carrier) := by
  have names : ∀ k ∈ (Coded.all : List Carrier),
      Lacks ',' (Coded.name k) ∧ Lacks ';' (Coded.name k) := by
    decide
  have listed := names carrier ((Coded.Kind.distinct .carrier).mem_all carrier)
  obtain rfl | rfl := h
  · exact listed.1
  · exact listed.2

namespace Setup

variable {s t : Setup} {c : Char}

/-- A latency as it is written: in seconds, with one digit behind the point. -/
def tenths (d : Span) : String := d.toSeconds.fixed 1

/-- The medium after the change; an unknown one is as good as none. -/
def knownCarrier (s : Setup) : Option Carrier := s.carrier.filter (· != .unknown)

/-- What the line about a setup tells. -/
def segments (s : Setup) : List Segment :=
  [⟨"discovery: ", latencyText s.discovery⟩,
   ⟨" connection: ", latencyText s.connection⟩,
   ⟨" upgrade:", s.upgrade.map secondsText⟩,
   ⟨" medium: ", s.knownCarrier.map Coded.name⟩]

theorem upgradeText_eq (s : Setup) :
    upgradeText s.upgrade = (s.upgrade.map secondsText).elim "" (", upgrade:" ++ ·) := by
  cases s.upgrade <;> rfl

theorem carrierText_eq (s : Setup) :
    carrierText s.carrier = (s.knownCarrier.map Coded.name).elim "" (", medium: " ++ ·) := by
  rw [knownCarrier]
  cases s.carrier with
  | none => rfl
  | some carrier => cases carrier <;> rfl

theorem texts_segments_ne_nil (s : Setup) : texts s.segments ≠ [] := List.cons_ne_nil _ _

theorem toText_eq_joined (s : Setup) : s.toText = joined ',' s.segments := by
  have whole : s.segments = [⟨"discovery: ", latencyText s.discovery⟩] ++
      [⟨" connection: ", latencyText s.connection⟩] ++
      [⟨" upgrade:", s.upgrade.map secondsText⟩] ++
      [⟨" medium: ", s.knownCarrier.map Coded.name⟩] := rfl
  unfold toText
  rw [whole, joined_concat, joined_concat, joined_concat, joined_singleton, upgradeText_eq,
    carrierText_eq, @String.append_assoc ("discovery: " ++ latencyText s.discovery)]
  · rfl
  all_goals exact List.cons_ne_nil _ _

theorem lacks_latencyText (h : IsMark c) (latency : Option Span) : Lacks c (latencyText latency) := by
  cases latency with
  | none => obtain rfl | rfl := h <;> decide
  | some d => exact lacks_append.2 ⟨h.lacks_fixed 1 _, by obtain rfl | rfl := h <;> decide⟩

theorem free_segments (h : IsMark c) (s : Setup) : Free c s.segments := by
  have labels : Lacks c "discovery: " ∧ Lacks c " connection: " ∧ Lacks c " upgrade:" ∧
      Lacks c " medium: " := by
    obtain rfl | rfl := h <;> decide
  have latency (d : Span) : Lacks c (secondsText d) := lacks_latencyText h (some d)
  simp [segments, free_cons, free_nil, labels, latency, lacks_latencyText h, h.lacks_name]

theorem latencyText_inj {d e : Option Span} :
    latencyText d = latencyText e ↔ d.map tenths = e.map tenths := by
  have differ (d : Span) : latencyText (some d) ≠ latencyText none := by
    intro same
    -- a latency ends in a letter that a missing one does not have
    have letter : Lacks 's' (secondsText d) := (congrArg (Lacks 's') same).mpr (by decide)
    exact absurd (lacks_append.1 letter).2 (by decide)
  cases d with
  | none =>
      cases e with
      | none => exact iff_of_true rfl rfl
      | some e => exact iff_of_false (differ e).symm nofun
  | some d =>
      cases e with
      | none => exact iff_of_false (differ d) nofun
      | some e => exact (String.append_left_inj "s").trans (Option.some_inj).symm

theorem segments_inj : s.segments = t.segments ↔
    s.discovery.map tenths = t.discovery.map tenths ∧
    s.connection.map tenths = t.connection.map tenths ∧
    s.upgrade.map tenths = t.upgrade.map tenths ∧ s.knownCarrier = t.knownCarrier := by
  have seconds : secondsText = (· ++ "s") ∘ tenths := rfl
  have named : Function.Injective (Option.map (Coded.name : Carrier → String)) :=
    Option.map_injective (Coded.Kind.distinct .carrier).name_injective
  simp only [segments, List.cons.injEq, Segment.mk.injEq, Option.some.injEq, true_and, and_true,
    latencyText_inj, seconds, ← Option.map_map, (map_append_injective "s").eq_iff, named.eq_iff]

theorem legible_segments (s : Setup) : Legible ',' s.segments where
  apart :=
    show ["discovery: ", " connection: ", " upgrade:", " medium: "].Pairwise Apart by decide
  free := s.free_segments (.inl rfl)
  told := s.texts_segments_ne_nil

theorem toText_eq_iff_segments : s.toText = t.toText ↔ s.segments = t.segments := by
  rw [toText_eq_joined, toText_eq_joined]
  exact s.legible_segments.joined_inj t.legible_segments rfl

end Setup

namespace Trial

variable {s s' : Setup} {t u : Trial} {c : Char} {label : String} {x y : Option Binary64}

/-- What is told about one of the two connections: its setup and a throughput. -/
def leg (s : Setup) (label : String) (throughput : Option Binary64) : List Segment :=
  s.segments ++ [⟨" " ++ label ++ ": ", throughput.map (·.fixed 1 ++ "KB/s")⟩]

/-- What the line about a trial tells. -/
def segments (t : Trial) : List Segment :=
  [⟨"1st connection: ", joined ',' (leg t.first "bt" t.btThroughput)⟩,
   ⟨" 2nd connection: ", joined ',' (leg t.second "wifi" t.wifiThroughput)⟩]

theorem joined_leg : joined ',' (leg s label x) = s.toText ++ throughputText label x := by
  have front : String.singleton ',' ++ (" " ++ label ++ ": ") = ", " ++ label ++ ": " := by
    rw [← String.append_assoc, ← String.append_assoc]
    rfl
  rw [leg, joined_concat s.texts_segments_ne_nil, ← s.toText_eq_joined, front]
  cases x with
  | none => rfl
  | some x =>
      rw [Option.map_some, Option.elim_some, throughputText,
        @String.append_assoc (", " ++ label ++ ": ")]

theorem toText_eq_joined (t : Trial) : t.toText = joined ';' t.segments := by
  have told : texts [⟨"1st connection: ", joined ',' (leg t.first "bt" t.btThroughput)⟩] ≠ [] :=
    List.cons_ne_nil _ _
  have whole : joined ';' t.segments =
      "1st connection: " ++ joined ',' (leg t.first "bt" t.btThroughput) ++
        ("; 2nd connection: " ++ joined ',' (leg t.second "wifi" t.wifiThroughput)) :=
    (joined_concat told _ _).trans (congrArg (· ++ _) joined_singleton)
  unfold toText
  rw [whole, joined_leg, joined_leg]
  simp only [String.append_assoc]

theorem free_leg (h : IsMark c) (known : label = "bt" ∨ label = "wifi") :
    Free c (leg s label x) := by
  have word : Lacks c (" " ++ label ++ ": ") := by
    obtain rfl | rfl := known
    all_goals obtain rfl | rfl := h <;> decide
  have rate (x : Binary64) : Lacks c (x.fixed 1 ++ "KB/s") :=
    lacks_append.2 ⟨h.lacks_fixed 1 x, by obtain rfl | rfl := h <;> decide⟩
  rw [leg, free_append]
  refine ⟨s.free_segments h, free_cons.2 ⟨⟨word, ?_⟩, free_nil⟩⟩
  exact Option.forall_mem_map.2 fun x _ => rate x

theorem legible_leg (known : label = "bt" ∨ label = "wifi") : Legible ',' (leg s label x) where
  apart :=
    show ["discovery: ", " connection: ", " upgrade:", " medium: ",
        " " ++ label ++ ": "].Pairwise Apart by
      obtain rfl | rfl := known <;> decide
  free := free_leg (.inl rfl) known
  told := List.cons_ne_nil _ _

theorem leg_inj : leg s label x = leg s' label y ↔
    s.segments = s'.segments ∧ x.map (·.fixed 1) = y.map (·.fixed 1) := by
  have rate : (fun z : Binary64 => z.fixed 1 ++ "KB/s") = (· ++ "KB/s") ∘ (·.fixed 1) := rfl
  simp only [leg, List.append_singleton_inj, Segment.mk.injEq, true_and, rate, ← Option.map_map,
    (map_append_injective "KB/s").eq_iff]

theorem joined_leg_inj (known : label = "bt" ∨ label = "wifi") :
    joined ',' (leg s label x) = joined ',' (leg s' label y) ↔
      s.toText = s'.toText ∧ x.map (·.fixed 1) = y.map (·.fixed 1) := by
  rw [Setup.toText_eq_iff_segments, ← leg_inj]
  exact (legible_leg known).joined_inj (legible_leg known) rfl

theorem free_segments (t : Trial) : Free ';' t.segments := by
  have first : Lacks ';' (joined ',' (leg t.first "bt" t.btThroughput)) :=
    (free_leg (.inr rfl) (.inl rfl)).joined (by decide)
  have second : Lacks ';' (joined ',' (leg t.second "wifi" t.wifiThroughput)) :=
    (free_leg (.inr rfl) (.inr rfl)).joined (by decide)
  have labels : Lacks ';' "1st connection: " ∧ Lacks ';' " 2nd connection: " := by decide
  simp [segments, free_cons, free_nil, labels, first, second]

theorem legible_segments (t : Trial) : Legible ';' t.segments where
  apart := show ["1st connection: ", " 2nd connection: "].Pairwise Apart by decide
  free := t.free_segments
  told := List.cons_ne_nil _ _

theorem toText_eq_iff_legs : t.toText = u.toText ↔
    joined ',' (leg t.first "bt" t.btThroughput) = joined ',' (leg u.first "bt" u.btThroughput) ∧
    joined ',' (leg t.second "wifi" t.wifiThroughput) =
      joined ',' (leg u.second "wifi" u.wifiThroughput) := by
  rw [toText_eq_joined, toText_eq_joined, t.legible_segments.joined_inj u.legible_segments rfl]
  simp only [segments, List.cons.injEq, Segment.mk.injEq, Option.some.injEq, true_and, and_true]

end Trial

/-- Lines about setups are equal just if the same latencies and media are there and are written alike,
where an unknown medium is as good as none. Lines about trials are equal just if the lines about both
connections are and the same throughputs are there and are written alike. -/
theorem toText_eq_toText_iff :
    (∀ s t : Setup, s.toText = t.toText ↔
      s.discovery.map Setup.tenths = t.discovery.map Setup.tenths ∧
      s.connection.map Setup.tenths = t.connection.map Setup.tenths ∧
      s.upgrade.map Setup.tenths = t.upgrade.map Setup.tenths ∧
      s.knownCarrier = t.knownCarrier) ∧
    (∀ t u : Trial, t.toText = u.toText ↔
      (t.first.toText = u.first.toText ∧
        t.btThroughput.map (·.fixed 1) = u.btThroughput.map (·.fixed 1)) ∧
      t.second.toText = u.second.toText ∧
        t.wifiThroughput.map (·.fixed 1) = u.wifiThroughput.map (·.fixed 1)) := by
  constructor
  · intro s t
    rw [Setup.toText_eq_iff_segments, Setup.segments_inj]
  · intro t u
    rw [Trial.toText_eq_iff_legs, Trial.joined_leg_inj (.inl rfl), Trial.joined_leg_inj (.inr rfl)]

end LinkTrials
