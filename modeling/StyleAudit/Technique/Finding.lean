import StyleAudit.Technique.Verdict
import StyleAudit.Stylesheet.Walk

/-!
# Findings

One finding of a technique, an `EvaluationResult`, and the `Evidence` that points back into what was
inspected.
-/

namespace StyleAudit

set_option autoImplicit false

structure SelectorEvidence where
  value : String
  position : Option Position
  deriving Repr, DecidableEq

structure PropertyEvidence where
  name : String
  value : String
  position : Option Position
  deriving Repr, DecidableEq

structure Evidence where
  css : Option String
  file : Option String
  selector : SelectorEvidence
  property : PropertyEvidence
  deriving Repr, DecidableEq

namespace Evidence

def ofDeclaration (file : String) (block : Block) (d : Declaration) : Evidence where
  css := some block.css
  file := some file
  selector := ⟨block.selectorText, block.position⟩
  property := ⟨d.property, d.value, d.position⟩

def ofStyle (tag property value : String) : Evidence where
  css := some (property ++ ": " ++ value)
  file := none
  selector := ⟨tag, none⟩
  property := ⟨property, value, none⟩

def isComplete (e : Evidence) : Bool :=
  e.selector.value != "" && e.property.name != "" && e.property.value != ""

end Evidence

structure Finding where
  verdict : Verdict
  description : String
  evidence : Option Evidence
  deriving Repr, DecidableEq

namespace Finding

def bare (verdict : Verdict) (description : String) : Finding :=
  ⟨verdict, description, none⟩

/-- The finding with evidence attached. An inapplicable finding carries none, and incomplete
evidence is dropped as a whole. -/
def withEvidence (finding : Finding) (e : Evidence) : Finding :=
  if finding.verdict != .inapplicable && e.isComplete then { finding with evidence := some e }
  else finding

def onDeclaration (file : String) (block : Block) (d : Declaration) (verdict : Verdict)
    (description : String) : Finding :=
  (bare verdict description).withEvidence (.ofDeclaration file block d)

theorem verdict_withEvidence (finding : Finding) (e : Evidence) :
    (finding.withEvidence e).verdict = finding.verdict := by
  unfold withEvidence
  split <;> rfl

theorem description_withEvidence (finding : Finding) (e : Evidence) :
    (finding.withEvidence e).description = finding.description := by
  unfold withEvidence
  split <;> rfl

end Finding

end StyleAudit
