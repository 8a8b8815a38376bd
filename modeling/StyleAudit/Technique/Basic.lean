import StyleAudit.Technique.Ledger
import StyleAudit.Page.ElementMap

/-!
# Techniques

A technique inspects an input, an `EvaluationInput`, and writes findings down in its ledger. Apart
from the ledger it has no state, so a `Technique` is its description and what its `execute` finds. A
run may end early: what was written down before counts all the same.
-/

namespace StyleAudit

set_option autoImplicit false

structure Input where
  stylesheets : List Stylesheet
  page : Option ElementMap

inductive Ending where
  | completed
  | fault (text : String)
  | aborted
  deriving Repr, DecidableEq

structure Evaluation where
  findings : List Finding
  ending : Ending
  deriving Repr, DecidableEq

structure Technique where
  descriptor : Descriptor
  evaluate : Ledger → Input → Evaluation

namespace Technique

def ofSheets (descriptor : Descriptor) (findings : Stylesheet → List Finding) : Technique where
  descriptor := descriptor
  evaluate := fun _ input => ⟨input.stylesheets.flatMap findings, .completed⟩

def scripted (descriptor : Descriptor) (findings : List Finding) (ending : Ending) : Technique where
  descriptor := descriptor
  evaluate := fun _ _ => ⟨findings, ending⟩

end Technique

/-- A technique together with its ledger. -/
structure Instance where
  technique : Technique
  ledger : Ledger

namespace Instance

def start (technique : Technique) : Instance :=
  ⟨technique, .start technique.descriptor⟩

def execute (i : Instance) (input : Input) : Instance × Ending :=
  let evaluation := i.technique.evaluate i.ledger input
  ({ i with ledger := i.ledger.fillAll evaluation.findings }, evaluation.ending)

def conclude (i : Instance) : Instance × Assertion :=
  ({ i with ledger := i.ledger.conclude }, i.ledger.assertion)

def reset (i : Instance) : Instance :=
  { i with ledger := i.ledger.reset }

end Instance

end StyleAudit
