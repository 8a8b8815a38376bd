import StyleAudit.Technique.Ledger
import StyleAudit.Keyed

/-!
# Reports

The `Report` of one run: the assertions under the codes of their techniques, and how many techniques
came to each outcome.
-/

namespace StyleAudit

set_option autoImplicit false

def toolName : String := "css-techniques"

def toolVersion : String := "0.1.0"

structure Report where
  kind : String
  tally : Tally
  assertions : Keyed Assertion
  deriving Repr, DecidableEq

namespace Report

def empty : Report :=
  ⟨toolName, .zero, .empty⟩

def add (r : Report) (a : Assertion) : Report :=
  { r with tally := r.tally.increment a.outcome, assertions := r.assertions.insert a.code a }

def get? (r : Report) (code : String) : Option Assertion :=
  r.assertions.get? code

def hasFailures (r : Report) : Bool :=
  0 < r.tally.failed

def flagged (findings : List Finding) : List Finding :=
  findings.filter fun f => f.verdict.isFlagged

end Report

end StyleAudit
