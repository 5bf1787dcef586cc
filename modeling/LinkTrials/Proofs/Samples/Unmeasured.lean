import LinkTrials.Evaluation
import LinkTrials.Proofs.Json.Rendering
import LinkTrials.Proofs.Json.Respelling
import LinkTrials.Proofs.Samples.History
import LinkTrials.Proofs.Samples.Measured

/-!
Texts of trials in which something was not measured.

There are several ways to write that. Which one is taken, and where it stands, makes no difference to
the trials that are read; so none of the marks becomes a sample. What is a sample has passed the
decoders of latencies and throughputs, and a latency below zero does not pass anywhere.
-/
namespace LinkTrials

open Json Measured

namespace Setup

/-- The places and names of the latencies in a text. -/
def latencies : List (Nat × String) :=
  [(0, "discovery_latency"), (1, "connection_latency"), (2, "medium_upgrade_latency")]

/-- A member that says that something was not measured. -/
def Unset (name : String) (value : Reading) : Prop :=
  name ∈ latencies.map Prod.snd ∧ UnsetLatency value

/-- Two texts that differ at most in how they say what was not measured, the second one with no member
twice. -/
inductive Respelled : Reading → Reading → Prop
  | refl (r : Reading) : Respelled r r
  | object {members members'}
      (h : Json.Respelled Unset (fun _ value value' => value' = value) members members')
      (once : (schema.known members').Nodup) :
      Respelled (.object members .closed) (.object members' .closed)

theorem isOpen_schema : schema.IsOpen where
  lenient := rfl
  defaulted := by
    intro m hm
    simp only [schema, List.mem_cons, List.not_mem_nil, or_false] at hm
    rcases hm with rfl | rfl | rfl | rfl | rfl <;> rfl
  unchecked _ := rfl
  distinct := by decide +kernel
  commute := by
    simp only [schema, List.pairwise_cons, List.forall_mem_cons, List.not_mem_nil, false_imp_iff,
      implies_true, and_true, List.Pairwise.nil]
    and_intros <;> exact Member.commute_of fun _ _ _ => rfl

theorem lists_latencies : schema.Lists latencyDecoder none latencies :=
  .cons rfl rfl (.cons rfl rfl (.cons rfl rfl .nil))

theorem idle_of_unset (depth : Nat) {name : String} {value : Reading} (h : Unset name value) :
    schema.Idle depth name value :=
  lists_latencies.idle isOpen_schema h.1 (latencyDecoder_of_unset h.2)

theorem decoder_of_respelled {depth : Nat} {r r' : Reading} {s : Setup} (h : Respelled r r')
    (read : decoder (depth + 1) r = .ok s) : decoder (depth + 1) r' = .ok s := by
  cases h with
  | refl => exact read
  | object h once =>
      exact Schema.decode_of_respelled isOpen_schema (fun _ _ => idle_of_unset depth)
        (fun _ _ _ => .inl) h once read

def GivesLatency (r value : Reading) : Prop :=
  ∃ k name, (k, name) ∈ latencies ∧ r.Gives name k value

theorem latency_of_decoder {depth : Nat} {r value : Reading} {s : Setup}
    (given : GivesLatency r value) (h : decoder depth r = .ok s) :
    ∃ inner latency, latencyDecoder inner value = .ok latency := by
  obtain ⟨k, name, named, given⟩ := given
  exact lists_latencies.decoded isOpen_schema.distinct named given h

/-- All latencies are such as a text can have. -/
structure IsMeasured (s : Setup) : Prop where
  discovery : ∀ d ∈ s.discovery, IsLatency d
  connection : ∀ d ∈ s.connection, IsLatency d
  upgrade : ∀ d ∈ s.upgrade, IsLatency d

theorem isMeasured_blank : ({} : Setup).IsMeasured := by
  constructor <;> rintro d ⟨⟩

theorem isMeasured_of_decoder {depth : Nat} {r : Reading} {s : Setup}
    (h : decoder depth r = .ok s) : s.IsMeasured := by
  refine Schema.decode_preserves isMeasured_blank ?_ h
  intro m hm depth r f read s before
  simp only [schema, List.mem_cons, List.not_mem_nil, or_false] at hm
  rcases hm with rfl | rfl | rfl | rfl | rfl
  · obtain ⟨latency, decoded, rfl⟩ := read_of read
    exact { before with discovery := isLatency_of_decoder decoded }
  · obtain ⟨latency, decoded, rfl⟩ := read_of read
    exact { before with connection := isLatency_of_decoder decoded }
  · obtain ⟨latency, decoded, rfl⟩ := read_of read
    exact { before with upgrade := isLatency_of_decoder decoded }
  · obtain ⟨expected, -, rfl⟩ := read_of read
    exact { before with }
  · obtain ⟨carrier, -, rfl⟩ := read_of read
    exact { before with }

end Setup

namespace Trial

def latencies : List (Nat × String) :=
  [(2, "discoverer_wifi_wlan_latency"), (5, "advertiser_wifi_wlan_latency")]

def throughputs : List (Nat × String) :=
  [(1, "first_bt_transfer_throughput_kbs"), (4, "second_wifi_transfer_throughput_kbs")]

def setups : List (Nat × String) :=
  [(0, "first_connection_setup_quality_info"), (3, "second_connection_setup_quality_info")]

/-- A member that says that something was not measured; a whole setup may say that, too. -/
inductive Unset : String → Reading → Prop
  | latency {name value} (named : name ∈ latencies.map Prod.snd) (unset : UnsetLatency value) :
      Unset name value
  | throughput {name value} (named : name ∈ throughputs.map Prod.snd)
      (unset : UnsetThroughput value) : Unset name value
  | setup {name value} (named : name ∈ setups.map Prod.snd)
      (unset : Setup.Respelled (.object [] .closed) value) : Unset name value

/-- Equal values, or setups that only differ in how they say what was not measured. -/
inductive Alike : String → Reading → Reading → Prop
  | refl (name : String) (value : Reading) : Alike name value value
  | setup {name value value'} (named : name ∈ setups.map Prod.snd)
      (h : Setup.Respelled value value') : Alike name value value'

/-- Two texts that differ at most in how they say what was not measured, the second one with no member
twice. -/
inductive Respelled : Reading → Reading → Prop
  | refl (r : Reading) : Respelled r r
  | object {members members'} (h : Json.Respelled Unset Alike members members')
      (once : (schema.known members').Nodup) :
      Respelled (.object members .closed) (.object members' .closed)

theorem isOpen_schema : schema.IsOpen where
  lenient := rfl
  defaulted := by
    intro m hm
    simp only [schema, List.mem_cons, List.not_mem_nil, or_false] at hm
    rcases hm with rfl | rfl | rfl | rfl | rfl | rfl | rfl | rfl <;> rfl
  unchecked _ := rfl
  distinct := by decide +kernel
  commute := by
    simp only [schema, List.pairwise_cons, List.forall_mem_cons, List.not_mem_nil, false_imp_iff,
      implies_true, and_true, List.Pairwise.nil]
    and_intros <;> exact Member.commute_of fun _ _ _ => rfl

theorem lists_latencies : schema.Lists latencyDecoder none latencies :=
  .cons rfl rfl (.cons rfl rfl .nil)

theorem lists_throughputs : schema.Lists throughputDecoder none throughputs :=
  .cons rfl rfl (.cons rfl rfl .nil)

theorem lists_setups : schema.Lists Setup.decoder {} setups :=
  .cons rfl rfl (.cons rfl rfl .nil)

theorem idle_of_unset (depth : Nat) {name : String} {value : Reading} (h : Unset name value) :
    schema.Idle (depth + 1) name value := by
  cases h with
  | latency named unset =>
      exact lists_latencies.idle isOpen_schema named (latencyDecoder_of_unset unset)
  | throughput named unset =>
      exact lists_throughputs.idle isOpen_schema named (throughputDecoder_of_unset unset)
  | setup named unset =>
      have empty : Setup.decoder (depth + 1) (.object [] .closed) = .ok {} :=
        (Schema.decode_object Setup.isOpen_schema).2 ⟨[], rfl⟩
      exact lists_setups.idle isOpen_schema named (Setup.decoder_of_respelled unset empty)

theorem alike_of_alike (depth : Nat) {name : String} {value value' : Reading}
    (h : Alike name value value') : schema.Alike (depth + 1) name value value' := by
  cases h with
  | refl => exact .inl rfl
  | setup named h =>
      exact lists_setups.alike isOpen_schema named fun _ => Setup.decoder_of_respelled h

theorem decoder_of_respelled {depth : Nat} {r r' : Reading} {t : Trial} (h : Respelled r r')
    (read : decoder (depth + 2) r = .ok t) : decoder (depth + 2) r' = .ok t := by
  cases h with
  | refl => exact read
  | object h once =>
      exact Schema.decode_of_respelled isOpen_schema (fun _ _ => idle_of_unset depth)
        (fun _ _ _ => alike_of_alike depth) h once read

/-- A text gives a value for one of the latencies, be it of the trial itself or of one of its setups. -/
inductive GivesLatency (r value : Reading) : Prop
  | own {k name} (named : (k, name) ∈ latencies) (given : r.Gives name k value)
  | setup {k name inner} (named : (k, name) ∈ setups) (given : r.Gives name k inner)
      (latency : Setup.GivesLatency inner value)

theorem latency_of_decoder {depth : Nat} {r value : Reading} {t : Trial}
    (given : GivesLatency r value) (h : decoder depth r = .ok t) :
    ∃ inner latency, latencyDecoder inner value = .ok latency := by
  cases given with
  | own named given => exact lists_latencies.decoded isOpen_schema.distinct named given h
  | setup named given latency =>
      obtain ⟨inner, s, decoded⟩ := lists_setups.decoded isOpen_schema.distinct named given h
      exact Setup.latency_of_decoder latency decoded

structure IsMeasured (t : Trial) : Prop where
  first : t.first.IsMeasured
  second : t.second.IsMeasured
  discovererWlan : ∀ d ∈ t.discovererWlan, IsLatency d
  advertiserWlan : ∀ d ∈ t.advertiserWlan, IsLatency d
  btThroughput : ∀ x ∈ t.btThroughput, IsThroughput x
  wifiThroughput : ∀ x ∈ t.wifiThroughput, IsThroughput x

theorem isMeasured_blank : ({} : Trial).IsMeasured := by
  constructor
  case first | second => exact Setup.isMeasured_blank
  all_goals rintro x ⟨⟩

theorem isMeasured_of_decoder {depth : Nat} {r : Reading} {t : Trial}
    (h : decoder depth r = .ok t) : t.IsMeasured := by
  refine Schema.decode_preserves isMeasured_blank ?_ h
  intro m hm depth r f read t before
  simp only [schema, List.mem_cons, List.not_mem_nil, or_false] at hm
  rcases hm with rfl | rfl | rfl | rfl | rfl | rfl | rfl | rfl
  · obtain ⟨s, decoded, rfl⟩ := read_of read
    exact { before with first := Setup.isMeasured_of_decoder decoded }
  · obtain ⟨throughput, decoded, rfl⟩ := read_of read
    exact { before with btThroughput := isThroughput_of_decoder decoded }
  · obtain ⟨latency, decoded, rfl⟩ := read_of read
    exact { before with discovererWlan := isLatency_of_decoder decoded }
  · obtain ⟨s, decoded, rfl⟩ := read_of read
    exact { before with second := Setup.isMeasured_of_decoder decoded }
  · obtain ⟨throughput, decoded, rfl⟩ := read_of read
    exact { before with wifiThroughput := isThroughput_of_decoder decoded }
  · obtain ⟨latency, decoded, rfl⟩ := read_of read
    exact { before with advertiserWlan := isLatency_of_decoder decoded }
  · obtain ⟨expected, -, rfl⟩ := read_of read
    exact { before with }
  · obtain ⟨expected, -, rfl⟩ := read_of read
    exact { before with }

theorem IsMeasured.latency {t : Trial} (h : t.IsMeasured) (s : Series) :
    ∀ d ∈ t.latency? s, IsLatency d := by
  cases s with
  | firstDiscovery => exact h.first.discovery
  | firstConnection => exact h.first.connection
  | discovererWlan => exact h.discovererWlan
  | secondDiscovery => exact h.second.discovery
  | secondConnection => exact h.second.connection
  | mediumUpgrade => exact h.second.upgrade
  | advertiserWlan => exact h.advertiserWlan
  | btThroughput | wifiThroughput => rintro d ⟨⟩

theorem IsMeasured.value {t : Trial} (h : t.IsMeasured) {s : Series} {x : Binary64}
    (hx : x ∈ t.value? s) :
    x ≠ .nan ∧ Binary64.lt x 0 = false ∧
      (s.isThroughput = false → Binary64.lt x unsetSeconds = true) := by
  cases kind : s.isThroughput with
  | true =>
      have throughput : IsThroughput x := by
        cases s with
        | btThroughput => exact h.btThroughput x hx
        | wifiThroughput => exact h.wifiThroughput x hx
        | _ => cases kind
      exact ⟨throughput.ne_nan.1, throughput.ne_nan.2, nofun⟩
  | false =>
      have seconds : t.value? s = (t.latency? s).map Span.toSeconds := by
        cases s with
        | btThroughput | wifiThroughput => cases kind
        | _ => rfl
      rw [seconds] at hx
      obtain ⟨d, hd, rfl⟩ := Option.map_eq_some_iff.1 hx
      obtain ⟨number, natural, below⟩ := (h.latency s d hd).toSeconds
      exact ⟨number, natural, fun _ => below⟩

def IsDecoded (t : Trial) : Prop := ∃ depth r, decoder depth r = .ok t

/-- Two texts of trials that differ at most in how they say what was not measured. -/
def RespelledText (text text' : String) : Prop :=
  ∃ items items', Reading.ofText text = (.list items .closed, false) ∧
    Reading.ofText text' = (.list items' .closed, false) ∧ List.Forall₂ Respelled items items'

end Trial

namespace Samples

abbrev trialsOfText (text : String) : Except DecodeFault (List Trial) :=
  (Json.Decoder.list Trial.decoder).ofText text

theorem trialsOfText_eq_ok {text : String} {trials : List Trial} :
    trialsOfText text = .ok trials ↔ ∃ items, Reading.ofText text = (.list items .closed, false) ∧
      List.Forall₂ (fun r t => Trial.decoder 126 r = .ok t) items trials := by
  rw [trialsOfText, Json.Decoder.ofText_eq_ok]
  constructor
  · rintro ⟨r, reading, decoded⟩
    obtain ⟨items, inner, rfl, entered, decoded⟩ := Json.Decoder.list_eq_ok_iff.1 decoded
    cases entered
    exact ⟨items, reading, decoded⟩
  · rintro ⟨items, reading, decoded⟩
    exact ⟨_, reading, Json.Decoder.list_eq_ok_iff.2 ⟨items, 126, rfl, rfl, decoded⟩⟩

theorem exists_decoded {decode : Reading → Except DecodeFault Trial} {items : List Reading}
    {trials : List Trial} (decoded : List.Forall₂ (fun r t => decode r = .ok t) items trials) :
    ∀ r ∈ items, ∃ t, decode r = .ok t := by
  have each : List.Forall₂ (fun r t => (∃ t, decode r = .ok t) ∧ decode r = .ok t) items trials :=
    decoded.imp fun r t read => ⟨⟨t, read⟩, read⟩
  exact ((List.forall₂_and_left items trials).1 each).1

theorem decoded_of_respelled {depth : Nat} {items items' : List Reading} {trials : List Trial}
    (h : List.Forall₂ Trial.Respelled items items')
    (decoded : List.Forall₂ (fun r t => Trial.decoder (depth + 2) r = .ok t) items trials) :
    List.Forall₂ (fun r t => Trial.decoder (depth + 2) r = .ok t) items' trials := by
  induction h generalizing trials with
  | nil => exact decoded
  | cons respelled _ ih =>
      cases decoded with
      | cons first later => exact .cons (Trial.decoder_of_respelled respelled first) (ih later)

/-- However a text says what was not measured, the trials are the same, and so are their samples and a
report on them, whenever it is made. No sample of trials that were read is a mark of that kind, or below
zero, or no number. A text with a number below zero for a latency is refused. -/
theorem unmeasured_texts :
    (∀ text text' trials, Trial.RespelledText text text' → trialsOfText text = .ok trials →
      trialsOfText text' = .ok trials ∧
      ∀ (e : Evaluator) now later, e.evaluate (ofTrials trials) later =
        { e.evaluate (ofTrials trials) now with generatedAt := later }) ∧
    (∀ steps, (∀ t ∈ given steps, t.IsDecoded) → ∀ s,
      (∀ d ∈ ((run steps).latencies s).toList, d.shorter (.ofSecs (999999999 * 86400)) = true) ∧
      ∀ x ∈ ((run steps).values s).toList, x ≠ .nan ∧ Binary64.lt x 0 = false ∧
        (s.isThroughput = false → Binary64.lt x unsetSeconds = true)) ∧
    ∀ text items ending trailing, Reading.ofText text = (.list items ending, trailing) →
      ∀ item ∈ items, ∀ value x, Trial.GivesLatency item value → value.IsReal x →
        Binary64.lt x 0 = true → ∃ fault, trialsOfText text = .error fault := by
  refine ⟨?_, ?_, ?_⟩
  · rintro text text' trials ⟨items, items', reading, reading', respelled⟩ read
    refine ⟨?_, fun e now later => rfl⟩
    obtain ⟨_, same, decoded⟩ := trialsOfText_eq_ok.1 read
    rw [reading] at same
    cases same
    exact trialsOfText_eq_ok.2 ⟨items', reading', decoded_of_respelled respelled decoded⟩
  · intro steps decoded s
    have measured : ∀ t ∈ given steps, t.IsMeasured := by
      intro t ht
      obtain ⟨depth, r, read⟩ := decoded t ht
      exact Trial.isMeasured_of_decoder read
    rw [run_eq_tally, latencies_tally, values_tally]
    refine ⟨?_, ?_⟩
    · intro d hd
      obtain ⟨t, ht, sample⟩ := List.mem_filterMap.1 hd
      exact ((measured t (List.mem_of_mem_filter ht)).latency s d sample).shorter
    · intro x hx
      obtain ⟨t, ht, sample⟩ := List.mem_filterMap.1 hx
      exact (measured t (List.mem_of_mem_filter ht)).value sample
  · intro text items ending trailing reading item mem value x given reads below
    cases read : trialsOfText text with
    | error fault => exact ⟨fault, rfl⟩
    | ok trials =>
        obtain ⟨_, same, decoded⟩ := trialsOfText_eq_ok.1 read
        rw [reading] at same
        cases same
        obtain ⟨t, decoded⟩ := exists_decoded decoded item mem
        obtain ⟨inner, latency, accepted⟩ := Trial.latency_of_decoder given decoded
        obtain ⟨fault, refused⟩ := @latencyDecoder_of_negative value x inner reads below
        rw [refused] at accepted
        cases accepted

/-- No throughput or one below zero; a throughput that is a sample; a latency below zero in a list. -/
theorem unmeasured_texts_of_marks :
    let marked := "[\x7b\"first_bt_transfer_throughput_kbs\":-1\x7d]"
    let flawed := "[[\x7b\x7d,null,-1]]"
    let t : Trial := { btThroughput := some 3 }
    trialsOfText marked = .ok [{}] ∧
      (∀ x ∈ ((run [.record t]).values .btThroughput).toList, Binary64.lt x 0 = false) ∧
      ∃ fault, trialsOfText flawed = .error fault := by
  intro marked flawed t
  obtain ⟨same, samples, refused⟩ := unmeasured_texts
  have negative : Binary64.lt (-.ofNat 1) 0 = true := by decide +kernel
  have kept : (0 < 1) ∧ 1 ≤ UInt64.size / 2 := by decide
  refine ⟨?_, ?_, ?_⟩
  · let none : Json := .list [.object []]
    let mark : Json := .list [.object [("first_bt_transfer_throughput_kbs", .number (.negative 1))]]
    have text : mark.compact = marked := by decide +kernel
    have read : trialsOfText none.compact = .ok [{}] := by decide +kernel
    have reading : Reading.ofText none.compact = (toReading none, false) :=
      ofText_compact ⟨trivial, trivial⟩
    have reading' : Reading.ofText mark.compact = (toReading mark, false) :=
      ofText_compact ⟨⟨kept, trivial⟩, trivial⟩
    have unset : UnsetThroughput (.number (.negative 1)) :=
      .number (fun _ => rfl) (by decide +kernel) negative
    have respelled : Trial.Respelled (.object [] .closed)
        (.object [(.ok "first_bt_transfer_throughput_kbs", .number (.negative 1))] .closed) :=
      .object (.add (.throughput (by decide) unset) .nil) (by decide +kernel)
    rw [← text]
    exact (same _ _ _ ⟨_, _, reading, reading', .cons respelled .nil⟩ read).1
  · have decoded : Trial.decoder 1 (.object
        [(.ok "first_bt_transfer_throughput_kbs", .number (.natural 3))] .closed) = .ok t := by
      decide +kernel
    have given : ∀ u ∈ given [.record t], u.IsDecoded := by
      intro u hu
      cases List.mem_singleton.1 hu
      exact ⟨_, _, decoded⟩
    intro x hx
    exact ((samples [.record t] given .btThroughput).2 x hx).2.1
  · let flaw : Json := .list [.list [.object [], .null, .number (.negative 1)]]
    have text : flaw.compact = flawed := by decide +kernel
    have reading : Reading.ofText flaw.compact = (toReading flaw, false) :=
      ofText_compact ⟨⟨trivial, trivial, kept, trivial⟩, trivial⟩
    have latency : (2, "discoverer_wifi_wlan_latency") ∈ Trial.latencies := by decide
    rw [← text]
    exact refused _ _ _ _ reading _ (List.mem_singleton.2 rfl) _ _ (.own latency (.placed rfl))
      (fun _ => rfl) negative

end Samples

end LinkTrials
