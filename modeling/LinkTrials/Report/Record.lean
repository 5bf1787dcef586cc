import LinkTrials.Report.Basic

/-!
Reports as JSON values and read from JSON texts. What is read is not held against the rules by
which reports come about.
-/
namespace LinkTrials

namespace Aspect

def name : Aspect → String
  | .reach => "reach"
  | .latency => "latency_success"
  | .throughput => "throughput"

def decoder : Json.Decoder Aspect :=
  .variant ([Aspect.reach, .latency, .throughput].map fun a => (a.name, a))

end Aspect

namespace Miss

def schema : Json.Schema Miss where
  title := "struct FailTargetSummary"
  lengthTitle := Json.Schema.elementsTitle "struct FailTargetSummary" 3
  blank := ⟨"", 0, 0⟩
  members :=
    [.of "name" .required .string fun x m => { m with name := x },
     .of "rate" .required .real fun x m => { m with rate := x },
     .of "goal" .required .real fun x m => { m with goal := x }]

def decoder : Json.Decoder Miss := schema.decode

def toJson (m : Miss) : Json :=
  .object [("name", .string m.name), ("rate", .ofReal m.rate), ("goal", .ofReal m.goal)]

end Miss

namespace Check

def schema : Json.Schema Check where
  title := "struct TargetCheck"
  lengthTitle := Json.Schema.elementsTitle "struct TargetCheck" 9
  blank := ⟨"", .firstDiscovery, .reach, 0, 0, 0, 0, false, none⟩
  members :=
    [.of "name" .required .string fun x c => { c with name := x },
     .of "series" .required Series.decoder fun x c => { c with series := x },
     .of "kind" .required Aspect.decoder fun x c => { c with aspect := x },
     .of "sample_count" .required .count fun x c => { c with sampleCount := x },
     .of "expected_count" .required .count fun x c => { c with expectedCount := x },
     .of "rate" .required .real fun x c => { c with rate := x },
     .of "goal" .required .real fun x c => { c with goal := x },
     .of "passed" .required .bool fun x c => { c with passed := x },
     .of "figure" .nullable (.optional .real) fun x c => { c with figure := x }]

def decoder : Json.Decoder Check := schema.decode

def toJson (c : Check) : Json :=
  .object
    [("name", .string c.name),
     ("series", c.series.toJson),
     ("kind", .string c.aspect.name),
     ("sample_count", .ofNat c.sampleCount),
     ("expected_count", .ofNat c.expectedCount),
     ("rate", .ofReal c.rate),
     ("goal", .ofReal c.goal),
     ("passed", .bool c.passed),
     ("figure", .ofOption .ofReal c.figure)]

end Check

namespace Totals

def schema : Json.Schema Totals where
  title := "struct ResultStats"
  lengthTitle := Json.Schema.elementsTitle "struct ResultStats" 3
  blank := {}
  members :=
    [.of "reach_target" .required .bool fun x t => { t with reached := x },
     .of "reach_rate" .required .real fun x t => { t with reachRate := x },
     .of "success_rate" .required .real fun x t => { t with successRate := x }]

def decoder : Json.Decoder Totals := schema.decode

def toJson (t : Totals) : Json :=
  .object
    [("reach_target", .bool t.reached),
     ("reach_rate", .ofReal t.reachRate),
     ("success_rate", .ofReal t.successRate)]

end Totals

namespace Instant

/-- An instant in the date-time format. -/
def decoder : Json.Decoder Instant
  | _, .string s => (Instant.ofText s).mapError fun fault => .refused fault.message
  | _, r => .error (Json.mismatch "an RFC 3339 formatted date and time string" r)

def toJson (t : Instant) : Json := .string t.toText

end Instant

namespace Report

def schema : Json.Schema Report where
  title := "struct EvaluationReport"
  lengthTitle := Json.Schema.elementsTitle "struct EvaluationReport" 7
  blank := ⟨"", 0, {}, [], [], [], .epoch⟩
  members :=
    [.of "alias" .required .string fun x r => { r with label := x },
     .of "trial_count" .required .count fun x r => { r with trialCount := x },
     .of "stats" .required Totals.decoder fun x r => { r with totals := x },
     .of "checks" .required (.list Check.decoder) fun x r => { r with checks := x },
     .of "failures" .required (.list Miss.decoder) fun x r => { r with misses := x },
     .of "undefined_series" .required (.list Series.decoder) fun x r => { r with unsampled := x },
     .of "generated_at" .required Instant.decoder fun x r => { r with generatedAt := x }]

def decoder : Json.Decoder Report := schema.decode

def toJson (r : Report) : Json :=
  .object
    [("alias", .string r.label),
     ("trial_count", .ofNat r.trialCount),
     ("stats", r.totals.toJson),
     ("checks", .list (r.checks.map Check.toJson)),
     ("failures", .list (r.misses.map Miss.toJson)),
     ("undefined_series", .list (r.unsampled.map Series.toJson)),
     ("generated_at", r.generatedAt.toJson)]

end Report

end LinkTrials
