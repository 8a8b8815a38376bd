import StyleAudit.Roster
import StyleAudit.Report.Basic

/-!
# Runs

What `TechniqueRunner::execute` comes to. A run lets every enabled technique inspect the same input.
Afterwards each ledger is summed up in the report and made clean for the next run. A technique that
ends early is reported with what it wrote down before.
-/

namespace StyleAudit

set_option autoImplicit false

def Entry.run (input : Input) (e : Entry) : Entry × Assertion :=
  let (executed, _) := e.member.execute input
  let (concluded, assertion) := executed.conclude
  ({ e with member := concluded.reset }, assertion)

namespace Roster

/-- The entries after a run. Only enabled techniques take part. -/
def afterRun (r : Roster) (input : Input) : Roster :=
  ⟨r.entries.map fun e => if e.enabled then (e.run input).1 else e⟩

def assertions (r : Roster) (input : Input) : List Assertion :=
  (r.entries.filter Entry.enabled).map fun e => (e.run input).2

def report (r : Roster) (input : Input) : Report :=
  (r.assertions input).foldl Report.add .empty

def run (r : Roster) (input : Input) : Roster × Report :=
  (r.afterRun input, r.report input)

/-- The techniques whose ledgers are not clean. -/
def unclean (r : Roster) : List String :=
  (r.entries.filter fun e => !e.member.ledger.isClean).map Entry.code

end Roster

end StyleAudit
