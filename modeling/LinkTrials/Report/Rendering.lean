import LinkTrials.Report.Record
import LinkTrials.Terminal

/-!
Reports as text: all of a report for programs, or its verdict and the missed targets for people.
-/
namespace LinkTrials

/-- How a report is written. -/
inductive ReportFormat where
  /-- Everything, as JSON. -/
  | json
  /-- A line for the verdict and one for each missed target. -/
  | summary
deriving DecidableEq, Repr

namespace ReportFormat

def name : ReportFormat → String
  | .json => "json"
  | .summary => "summary"

def ofName? (name : String) : Option ReportFormat :=
  [ReportFormat.json, .summary].find? fun f => f.name == name

end ReportFormat

namespace Report

/-- A rate in percent. -/
def percentText (rate : Binary64) : String := (rate * 100).fixed 1 ++ "%"

def verdictLine (coloured : Bool) (r : Report) : String :=
  (if r.passed then Terminal.paint coloured true .green "PASS"
    else Terminal.paint coloured true .red "FAIL") ++
  s!" {r.label}: {r.trialCount} trials, success rate {percentText r.totals.successRate}" ++
  s!", reach rate {percentText r.totals.reachRate}"

def missLine (coloured : Bool) (m : Miss) : String :=
  "  " ++ Terminal.paint coloured true .yellow "missed" ++ " " ++ m.toText

/-- The verdict, and below it what was missed. -/
def summary (coloured : Bool) (r : Report) : String :=
  "\n".intercalate (r.verdictLine coloured :: r.misses.map (missLine coloured))

def render (format : ReportFormat) (coloured : Bool) (r : Report) : String :=
  match format with
  | .json => r.toJson.pretty
  | .summary => r.summary coloured

end Report

end LinkTrials
