import StyleAudit.Report.Basic
import StyleAudit.Text.Casing

/-!
# Reports as text

Transcription of `render_text`.
-/

namespace StyleAudit.Report

set_option autoImplicit false

def evidenceLine (e : Evidence) : String :=
  "    " ++ e.selector.value ++ " \x7b " ++ e.property.name ++ ": " ++ e.property.value ++
    " \x7d" ++
    (match e.file with
      | some file => " in " ++ file
      | none => "") ++ "\n"

def findingLines (f : Finding) : String :=
  "  - " ++ f.verdict.name ++ ": " ++ f.description ++ "\n" ++
    (match f.evidence with
      | some e => evidenceLine e
      | none => "")

def assertionLines (code : String) (a : Assertion) : String :=
  "[" ++ code ++ "] " ++ a.name ++ " (" ++ a.mapping ++ ") - " ++ Text.upper a.outcome.name ++
    "\n" ++
    (if a.summary.description = "" then "" else "  " ++ a.summary.description ++ "\n") ++
    String.join ((flagged a.findings).map findingLines) ++ "\n"

def tallyLine (t : Tally) : String :=
  toString t.total ++ " technique(s): " ++ toString t.passed ++ " passed, " ++
    toString t.warning ++ " warning, " ++ toString t.failed ++ " failed, " ++
    toString t.inapplicable ++ " inapplicable\n\n"

def resultLine (r : Report) : String :=
  if r.hasFailures then "RESULT: FAIL\n"
  else if 0 < r.tally.warning then "RESULT: PASS WITH WARNINGS\n"
  else "RESULT: PASS\n"

def heading : String := "=== CSS Techniques Report ===\n\n"

def text (r : Report) : String :=
  heading ++
    if r.assertions.isEmpty then "No techniques were executed.\n"
    else
      tallyLine r.tally ++
        String.join (r.assertions.entries.map fun entry => assertionLines entry.1 entry.2) ++
        r.resultLine

end StyleAudit.Report
