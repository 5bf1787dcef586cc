import LinkTrials.Proofs.Evaluation.Shape
import LinkTrials.Proofs.Text.Parts
import LinkTrials.Report.Rendering

/-!
The lines of a summary.

Behind the lines of its verdict a summary has one line for each missed target, and each of these lines
tells the name of its target. Names of checks and written numbers break no line. The name of a run
is written as it is: every line feed in it breaks the line of the verdict, which otherwise is one.
-/
namespace LinkTrials

open Text

theorem Series.lacks_name {c : Char} (h : c ∈ ['\n', ':']) (s : Series) : Lacks c s.name := by
  have feed : ∀ s ∈ all, Lacks '\n' s.name := by decide +kernel
  have colon : ∀ s ∈ all, Lacks ':' s.name := by decide +kernel
  obtain rfl | rfl : c = '\n' ∨ c = ':' := by simpa using h
  · exact feed s (mem_all s)
  · exact colon s (mem_all s)

theorem Aspect.Ending.lacks {c : Char} (h : c ∈ ['\n', ':']) {a : Aspect} {ending : String}
    (he : a.Ending ending) : Lacks c ending := by
  obtain ⟨digit, reach, latency, throughput⟩ :
      c.isDigit = false ∧ Lacks c "_reach" ∧ Lacks c "_success" ∧ Lacks c "_p" := by
    obtain rfl | rfl : c = '\n' ∨ c = ':' := by simpa using h
    · decide
    · decide
  cases he with
  | reach => exact reach
  | latency => exact latency
  | throughput p => exact lacks_append.2 ⟨throughput, lacks_natural digit p⟩

namespace Miss

/-- The name of a target is what stands behind the first words of its line and before a colon. -/
def nameIn (line : String) : String := String.ofList ((line.toList.drop 9).takeWhile (· != ':'))

theorem toText_eq (m : Miss) :
    m.toText = m.name ++ (": " ++ (m.rate.fixed 3 ++ (" (goal " ++ (m.goal.fixed 3 ++ ")")))) := by
  simp only [toText, toString, String.append_assoc]

end Miss

namespace Report

theorem missLine_eq (m : Miss) : missLine false m = "  missed " ++ m.toText := by
  rw [missLine]
  rfl

theorem lacks_missLine {m : Miss} (h : Lacks '\n' m.name) : Lacks '\n' (missLine false m) := by
  have number (x : Binary64) : Lacks '\n' (x.fixed 3) := lacks_fixed (by decide) (by decide) 3 x
  rw [missLine_eq, Miss.toText_eq]
  simp only [lacks_append]
  exact ⟨by decide, h, by decide, number m.rate, by decide, number m.goal, by decide⟩

/-- From its line one reads which target was missed. -/
theorem nameIn_missLine {m : Miss} (h : Lacks ':' m.name) : Miss.nameIn (missLine false m) = m.name := by
  have other : ∀ c ∈ m.name.toList, (c != ':') = true := by
    intro c hc
    rw [bne_iff_ne]
    rintro rfl
    exact h hc
  have front : "  missed ".toList.length = 9 := rfl
  rw [missLine_eq, Miss.toText_eq, Miss.nameIn, String.toList_append, List.drop_left' front,
    String.toList_append, List.takeWhile_append_of_pos other, String.toList_append]
  exact (congrArg String.ofList (List.append_nil _)).trans String.ofList_toList

/-- What stands in a verdict behind the name of the run. -/
def verdictFigures (r : Report) : String :=
  ": " ++ (toString r.trialCount ++ (" trials, success rate " ++
    (percentText r.totals.successRate ++ (", reach rate " ++ percentText r.totals.reachRate))))

theorem verdictLine_parts (r : Report) :
    r.verdictLine false =
      (if r.passed then "PASS " else "FAIL ") ++ (r.label ++ r.verdictFigures) := by
  have words : r.verdictLine false =
      (if r.passed then "PASS" else "FAIL") ++ (" " ++ (r.label ++ r.verdictFigures)) := by
    rw [verdictLine, verdictFigures]
    cases r.passed <;> simp [Terminal.paint, String.append_assoc, toString]
  rw [words, ← String.append_assoc]
  cases r.passed <;> rfl

theorem lacks_verdictFigures (r : Report) : Lacks '\n' r.verdictFigures := by
  have percent (x : Binary64) : Lacks '\n' (percentText x) :=
    lacks_append.2 ⟨lacks_fixed (by decide) (by decide) 1 _, by decide⟩
  rw [verdictFigures]
  simp only [lacks_append]
  exact ⟨by decide, lacks_natural (by decide) _, by decide, percent _, by decide, percent _⟩

theorem lacks_verdict (r : Report) : Lacks '\n' (if r.passed then "PASS " else "FAIL ") := by
  cases r.passed <;> decide

/-- Only line feeds in the name of the run break the line of the verdict. -/
theorem length_lines_verdictLine (r : Report) :
    (lines (r.verdictLine false)).length = r.label.toList.count '\n' + 1 := by
  rw [length_lines, verdictLine_parts, String.toList_append, String.toList_append,
    List.count_append, List.count_append, List.count_eq_zero.2 r.lacks_verdict,
    List.count_eq_zero.2 r.lacks_verdictFigures, Nat.zero_add, Nat.add_zero]

/-- The verdict is one line just if the name of the run is. -/
theorem lines_verdictLine_iff (r : Report) (others : List String) :
    lines (r.verdictLine false) ++ others = r.verdictLine false :: others ↔
      '\n' ∉ r.label.toList := by
  constructor
  · intro same
    have count := congrArg List.length same
    rw [List.length_append, length_lines_verdictLine, List.length_cons] at count
    exact List.count_eq_zero.1 (by omega)
  · intro whole
    have unbroken : Lacks '\n' (r.verdictLine false) := by
      rw [verdictLine_parts]
      exact lacks_append.2 ⟨r.lacks_verdict, lacks_append.2 ⟨whole, r.lacks_verdictFigures⟩⟩
    rw [lines_of_lacks unbroken]
    rfl

theorem lines_summary {r : Report} (h : ∀ m ∈ r.misses, Lacks '\n' m.name) :
    lines (r.summary false) = lines (r.verdictLine false) ++ r.misses.map (missLine false) := by
  rw [summary]
  refine lines_intercalate _ fun line hline => ?_
  obtain ⟨m, hm, rfl⟩ := List.mem_map.1 hline
  exact lacks_missLine (h m hm)

/-- The first line begins with the verdict. -/
theorem head_lines_verdictLine (r : Report) :
    ∃ rest, (lines (r.verdictLine false)).head? =
      some ((if r.passed then "PASS " else "FAIL ") ++ rest) := by
  obtain ⟨first, rest, -, eq⟩ := lines_front r.lacks_verdict (r.label ++ r.verdictFigures)
  rw [verdictLine_parts, eq]
  exact ⟨first, rfl⟩

end Report

namespace Evaluator

theorem mem_checks_of_mem_misses {e : Evaluator} {m : Samples} {now : Instant} {miss : Miss}
    (h : miss ∈ (e.evaluate m now).misses) : ∃ c ∈ e.checks m, c.name = miss.name := by
  obtain ⟨c, hc, found⟩ := List.mem_filterMap.1 h
  rw [Check.miss?] at found
  split at found
  · cases found
  · cases found
    exact ⟨c, hc, rfl⟩

theorem lacks_missName {e : Evaluator} {m : Samples} {now : Instant} {miss : Miss} {c : Char}
    (h : c ∈ ['\n', ':']) (hm : miss ∈ (e.evaluate m now).misses) : Lacks c miss.name := by
  obtain ⟨check, hcheck, same⟩ := mem_checks_of_mem_misses hm
  obtain ⟨ending, name, aspect⟩ := name_of_mem_checks hcheck
  rw [← same, name]
  exact lacks_append.2 ⟨Series.lacks_name h _, aspect.lacks h⟩

theorem nodup_missNames (e : Evaluator) (m : Samples) (now : Instant) :
    ((e.evaluate m now).misses.map Miss.name).Nodup := by
  have names : (e.evaluate m now).misses.map Miss.name =
      ((e.checks m).filter fun c => !c.passed).map Check.name :=
    (congrArg (List.map Miss.name) (filterMap_miss? (e.checks m))).trans List.map_map
  rw [names]
  exact (e.nodup_map_name m).sublist (List.filter_sublist.map Check.name)

/-- A summary has the lines of its verdict, of which the first tells whether the run passed, and
then a line for each missed target, from which its name is read. The verdict is one line just if
the name of the run has no line feed. -/
theorem evaluate_lines (e : Evaluator) (m : Samples) (now : Instant) :
    let r := e.evaluate m now
    let breaks := r.label.toList.count '\n'
    lines (r.summary false) = lines (r.verdictLine false) ++ r.misses.map (Report.missLine false) ∧
    (lines (r.verdictLine false)).length = breaks + 1 ∧
    (∃ rest, (lines (r.summary false)).head? =
      some ((if r.passed then "PASS " else "FAIL ") ++ rest)) ∧
    (lines (r.summary false) = r.verdictLine false :: r.misses.map (Report.missLine false) ↔
      '\n' ∉ r.label.toList) ∧
    ((lines (r.summary false)).drop (breaks + 1)).map Miss.nameIn = r.misses.map Miss.name ∧
    (r.misses.map Miss.name).Nodup := by
  intro r breaks
  have all : lines (r.summary false) = _ := Report.lines_summary fun _ => lacks_missName (by decide)
  have length := r.length_lines_verdictLine
  refine ⟨all, length, ?_, ?_, ?_, ?_⟩
  · obtain ⟨rest, head⟩ := r.head_lines_verdictLine
    rw [all, List.head?_append, head]
    exact ⟨rest, rfl⟩
  · rw [all]
    exact r.lines_verdictLine_iff _
  · rw [all, List.drop_left' length, List.map_map]
    exact List.map_congr_left fun _ hm => Report.nameIn_missLine (lacks_missName (by decide) hm)
  · exact nodup_missNames e m now

/-- A run whose valid name has a line feed: its summary has one line more than the verdict and the
missed targets. -/
theorem evaluate_lines_broken :
    let s : Settings := { label := "a\nb" }
    let r := (Evaluator.mk s {} {}).evaluate .empty .epoch
    s.validate = .ok () ∧ (lines (r.summary false)).length ≠ r.misses.length + 1 := by
  decide +kernel

end Evaluator

end LinkTrials
