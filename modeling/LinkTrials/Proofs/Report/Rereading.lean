import LinkTrials.Proofs.Evaluation.Amounts
import LinkTrials.Proofs.Json.Records
import LinkTrials.Proofs.Samples.Bounded
import LinkTrials.Proofs.Text.Instants
import LinkTrials.Report.Rendering

/-!
Reports that are read again.

A report whose numbers are finite is decoded from its own text, and everything in it is as it was, except
that each binary number is what a reader makes of its text.
-/
namespace LinkTrials

open Json

variable {depth : Nat}

theorem Series.decoder_toReading (s : Series) : decoder depth (toReading s.toJson) = .ok s := by
  have distinct : ((all.map fun s => (s.name, s)).map Prod.fst).Nodup := by decide +kernel
  exact Json.Decoder.variant_toReading distinct (List.mem_map_of_mem (mem_all s))

theorem Aspect.decoder_toReading (a : Aspect) :
    decoder depth (toReading (.string a.name)) = .ok a := by
  cases a <;> rfl

theorem Instant.decoder_toReading (t : Instant) : decoder depth (toReading t.toJson) = .ok t := by
  rw [toJson, toReading, decoder, ofText_toText]
  rfl

namespace Miss

/-- The miss with every number changed. -/
def mapNumbers (f : Binary64 → Binary64) (m : Miss) : Miss :=
  { m with rate := f m.rate, goal := f m.goal }

theorem decoder_toReading {m : Miss} (h : ∀ x ∈ m.numbers, x.isFinite = true) :
    decoder (depth + 1) (toReading m.toJson) = .ok (m.mapNumbers reread) := by
  obtain ⟨rate, h⟩ := List.forall_mem_cons.1 h
  have goal := List.forall_mem_singleton.1 h
  exact Schema.decode_of_sets (by decide +kernel)
    (.cons (read_of_decoded rfl) (.cons (read_of_decoded (Json.Decoder.real_toReading rate))
      (.cons (read_of_decoded (Json.Decoder.real_toReading goal)) .nil))) rfl

end Miss

namespace Check

/-- The check with every binary number changed. -/
def mapNumbers (f : Binary64 → Binary64) (c : Check) : Check :=
  { c with rate := f c.rate, goal := f c.goal, figure := c.figure.map f }

/-- A check that can be written and read. -/
structure IsKept (c : Check) : Prop where
  numbers : ∀ x ∈ c.numbers, x.isFinite = true
  sampleCount : c.sampleCount ≤ maxNatural
  expectedCount : c.expectedCount ≤ maxNatural

theorem decoder_toReading {c : Check} (h : c.IsKept) :
    decoder (depth + 1) (toReading c.toJson) = .ok (c.mapNumbers reread) := by
  obtain ⟨rate, numbers⟩ := List.forall_mem_cons.1 h.numbers
  obtain ⟨goal, numbers⟩ := List.forall_mem_cons.1 numbers
  have figure : ∀ x ∈ c.figure, x.isFinite = true := fun x hx => numbers x (Option.mem_toList.2 hx)
  exact Schema.decode_of_sets (by decide +kernel)
    (.cons (read_of_decoded rfl) (.cons (read_of_decoded (Series.decoder_toReading c.series))
      (.cons (read_of_decoded (Aspect.decoder_toReading c.aspect))
        (.cons (read_of_decoded (Json.Decoder.count_toReading h.sampleCount))
          (.cons (read_of_decoded (Json.Decoder.count_toReading h.expectedCount))
            (.cons (read_of_decoded (Json.Decoder.real_toReading rate))
              (.cons (read_of_decoded (Json.Decoder.real_toReading goal))
                (.cons (read_of_decoded rfl)
                  (.cons (read_of_decoded (Json.Decoder.optional_toReading figure)) .nil))))))))) rfl

theorem isKept_toJson {c : Check} (h : c.IsKept) : Json.IsKept c.toJson := by
  have figure : Json.IsKept (.ofOption .ofReal c.figure) := by
    cases c.figure with
    | none => trivial
    | some x => exact isKept_ofReal x
  exact ⟨trivial, trivial, trivial, h.sampleCount, h.expectedCount, isKept_ofReal _, isKept_ofReal _,
    trivial, figure, trivial⟩

end Check

namespace Totals

def mapNumbers (f : Binary64 → Binary64) (t : Totals) : Totals :=
  { t with reachRate := f t.reachRate, successRate := f t.successRate }

theorem decoder_toReading {t : Totals} (h : ∀ x ∈ t.numbers, x.isFinite = true) :
    decoder (depth + 1) (toReading t.toJson) = .ok (t.mapNumbers reread) := by
  obtain ⟨reach, h⟩ := List.forall_mem_cons.1 h
  have success := List.forall_mem_singleton.1 h
  exact Schema.decode_of_sets (by decide +kernel)
    (.cons (read_of_decoded rfl) (.cons (read_of_decoded (Json.Decoder.real_toReading reach))
      (.cons (read_of_decoded (Json.Decoder.real_toReading success)) .nil))) rfl

end Totals

namespace Report

/-- The report with every binary number changed. -/
def mapNumbers (f : Binary64 → Binary64) (r : Report) : Report :=
  { r with
    totals := r.totals.mapNumbers f
    checks := r.checks.map (Check.mapNumbers f)
    misses := r.misses.map (Miss.mapNumbers f) }

/-- A report that can be written and read. -/
structure IsKept (r : Report) : Prop where
  numbers : ∀ x ∈ r.numbers, x.isFinite = true
  trialCount : r.trialCount ≤ maxNatural
  counts : ∀ c ∈ r.checks, c.sampleCount ≤ maxNatural ∧ c.expectedCount ≤ maxNatural

variable {r : Report}

theorem IsKept.check (h : r.IsKept) {c : Check} (hc : c ∈ r.checks) : c.IsKept where
  numbers x hx := h.numbers x
    (List.mem_append_left _ (List.mem_append_right _ (List.mem_flatMap_of_mem hc hx)))
  sampleCount := (h.counts c hc).1
  expectedCount := (h.counts c hc).2

theorem IsKept.miss (h : r.IsKept) {m : Miss} (hm : m ∈ r.misses) :
    ∀ x ∈ m.numbers, x.isFinite = true :=
  fun x hx => h.numbers x (List.mem_append_right _ (List.mem_flatMap_of_mem hm hx))

theorem IsKept.totals (h : r.IsKept) : ∀ x ∈ r.totals.numbers, x.isFinite = true :=
  fun x hx => h.numbers x (List.mem_append_left _ (List.mem_append_left _ hx))

theorem decoder_toReading (h : r.IsKept) :
    decoder (depth + 3) (toReading r.toJson) = .ok (r.mapNumbers reread) := by
  have checks : Json.Decoder.list Check.decoder (depth + 2)
      (toReading (.list (r.checks.map Check.toJson))) =
        .ok (r.checks.map (Check.mapNumbers reread)) :=
    Json.Decoder.list_toReading fun c hc => Check.decoder_toReading (h.check hc)
  have misses : Json.Decoder.list Miss.decoder (depth + 2)
      (toReading (.list (r.misses.map Miss.toJson))) = .ok (r.misses.map (Miss.mapNumbers reread)) :=
    Json.Decoder.list_toReading fun m hm => Miss.decoder_toReading (h.miss hm)
  have unsampled : Json.Decoder.list Series.decoder (depth + 2)
      (toReading (.list (r.unsampled.map Series.toJson))) = .ok (r.unsampled.map id) :=
    Json.Decoder.list_toReading fun s _ => Series.decoder_toReading s
  rw [List.map_id] at unsampled
  exact Schema.decode_of_sets (by decide +kernel)
    (.cons (read_of_decoded rfl) (.cons (read_of_decoded (Json.Decoder.count_toReading h.trialCount))
      (.cons (read_of_decoded (Totals.decoder_toReading h.totals))
        (.cons (read_of_decoded checks) (.cons (read_of_decoded misses)
          (.cons (read_of_decoded unsampled)
            (.cons (read_of_decoded (Instant.decoder_toReading r.generatedAt)) .nil))))))) rfl

theorem isKept_toJson (h : r.IsKept) : Json.IsKept r.toJson := by
  have checks : AreKept (r.checks.map Check.toJson) :=
    areKept_map fun c hc => Check.isKept_toJson (h.check hc)
  have misses : AreKept (r.misses.map Miss.toJson) :=
    areKept_map fun m _ => ⟨trivial, isKept_ofReal _, isKept_ofReal _, trivial⟩
  have unsampled : AreKept (r.unsampled.map Series.toJson) := areKept_map fun _ _ => trivial
  have totals : Json.IsKept r.totals.toJson := ⟨trivial, isKept_ofReal _, isKept_ofReal _, trivial⟩
  exact ⟨trivial, h.trialCount, totals, checks, misses, unsampled, trivial, trivial⟩

theorem ofText_render (h : r.IsKept) (coloured : Bool) :
    Reading.ofText (r.render .json coloured) = (toReading r.toJson, false) :=
  ofText_pretty (isKept_toJson h)

theorem decoder_render (h : r.IsKept) (coloured : Bool) :
    decoder.ofText (r.render .json coloured) = .ok (r.mapNumbers reread) :=
  Json.Decoder.ofText_eq_ok.2 ⟨_, ofText_render h coloured, decoder_toReading h⟩

end Report

end LinkTrials
