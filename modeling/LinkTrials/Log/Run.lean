import LinkTrials.Log.Logger
import LinkTrials.Report.Basic
import LinkTrials.Settings.Concern
import LinkTrials.Trial

/-!
The entries that a run writes: about its trials, its missed targets, its verdict, doubtful settings
and faults.
-/
namespace LinkTrials.Log.Logger

/-- The logger of a run. -/
def ofRun (verbose debug coloured : Bool) (session : String) : Logger :=
  { ofFlags "METRICS" verbose debug coloured with session := some session }

def trialEntry (l : Logger) (now : Instant) (index : Nat) (t : Trial) : Entry :=
  l.entry now .debug s!"Recorded trial {index + 1}"
    |>.withField "trial" (.ofNat (index + 1))
    |>.withField "first_connection" (.string t.first.toText)
    |>.withField "second_connection" (.string t.second.toText)
    |>.withField "bt_throughput_kbs" (Measured.throughputToJson t.btThroughput)
    |>.withField "wifi_throughput_kbs" (Measured.throughputToJson t.wifiThroughput)

def missEntry (l : Logger) (now : Instant) (m : Miss) : Entry :=
  l.entry now .warn ("Target missed: " ++ m.name)
    |>.withField "target" (.string m.name)
    |>.withField "rate" (.ofReal m.rate)
    |>.withField "goal" (.ofReal m.goal)

def verdictEntry (l : Logger) (now : Instant) (r : Report) : Entry :=
  l.entry now .info (s!"Run '{r.label}' " ++ if r.passed then "passed" else "failed")
    |>.withField "trials" (.ofNat r.trialCount)
    |>.withField "success_rate" (.ofReal r.totals.successRate)
    |>.withField "reach_rate" (.ofReal r.totals.reachRate)
    |>.withField "reach_target" (.bool r.totals.reached)
    |>.withField "undefined_series" (.list (r.unsampled.map Series.toJson))

/-- The entries about a report: each missed target, and then the verdict. -/
def reportEntries (l : Logger) (now : Instant) (r : Report) : List Entry :=
  r.misses.map (l.missEntry now) ++ [l.verdictEntry now r]

def concernEntry (l : Logger) (now : Instant) (severity : Severity) (message : String) : Entry :=
  l.entry now .warn message |>.withField "validation_level" (.string severity.name)

def faultEntry (l : Logger) (now : Instant) (fault : Fault) : Entry :=
  (l.entry now .error fault.text).withFault fault

end LinkTrials.Log.Logger
