import StyleAudit.Report.Format
import StyleAudit.Proofs.Text.Lines

/-!
# The last line of a report

A report as text is made of whole lines. The descriptions in it may hold any characters, line breaks
among them, and each is still followed by a break of the report's own. So the line with the result
stands on its own at the end.
-/

namespace StyleAudit.Report

set_option autoImplicit false

open Text (IsLines)

theorem assertion_lines_are_lines (code : String) (a : Assertion) :
    IsLines (assertionLines code a) :=
  Text.line_is_lines _

theorem tally_line_is_lines (t : Tally) : IsLines (tallyLine t) :=
  Text.closed_is_lines _ ⟨" inapplicable\n", by decide⟩

theorem heading_is_lines : IsLines heading :=
  .inr ⟨"=== CSS Techniques Report ===\n", by decide⟩

def result (r : Report) : String :=
  if r.hasFailures then "RESULT: FAIL"
  else if 0 < r.tally.warning then "RESULT: PASS WITH WARNINGS"
  else "RESULT: PASS"

theorem result_fail_iff {r : Report} : r.result = "RESULT: FAIL" ↔ r.hasFailures = true := by
  rw [result]
  split
  · exact iff_of_true rfl ‹_›
  · refine iff_of_false ?_ ‹_›
    split <;> decide

theorem result_warned_iff {r : Report} (unfailed : r.hasFailures = false) :
    r.result = "RESULT: PASS WITH WARNINGS" ↔ 0 < r.tally.warning := by
  rw [result, unfailed, if_neg Bool.false_ne_true]
  split
  · exact iff_of_true rfl ‹_›
  · exact iff_of_false (by decide) ‹_›

theorem result_passed_iff {r : Report} (unfailed : r.hasFailures = false) :
    r.result = "RESULT: PASS" ↔ ¬ 0 < r.tally.warning := by
  rw [result, unfailed, if_neg Bool.false_ne_true]
  split
  · exact iff_of_false (by decide) (not_not_intro ‹_›)
  · exact iff_of_true rfl ‹_›

theorem result_line_eq (r : Report) : r.resultLine = r.result ++ "\n" := by
  rw [resultLine, result]
  split
  · rfl
  · split <;> rfl

theorem result_is_single_line (r : Report) : '\n' ∉ r.result.toList := by
  rw [result]
  split
  · decide
  · split <;> decide

theorem last_line_of_text (r : Report) (held : r.assertions.isEmpty = false) :
    Text.lastLine (r.render .text) = r.result := by
  have accounts : IsLines
      (String.join (r.assertions.entries.map fun entry => assertionLines entry.1 entry.2)) := by
    apply Text.join_is_lines
    rw [List.forall_mem_map]
    exact fun entry _ => assertion_lines_are_lines entry.1 entry.2
  have before := heading_is_lines.append ((tally_line_is_lines r.tally).append accounts)
  have whole : r.render .text = heading ++ (tallyLine r.tally ++
      String.join (r.assertions.entries.map fun entry => assertionLines entry.1 entry.2)) ++
        (r.result ++ "\n") := by
    rw [render, text, held, if_neg Bool.false_ne_true, result_line_eq]
    simp only [String.append_assoc]
  rw [whole]
  exact Text.last_line_behind_lines before (result_is_single_line r)

end StyleAudit.Report
