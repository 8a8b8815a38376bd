import StyleAudit.Technique.Basic
import StyleAudit.Text.Blank

/-!
# Justified text

Transcription of `JustifiedTextTechnique`. Each rule is judged once, by its last alignment and its
last justification. Text justified to both margins fails unless the stretching between words is
switched off.
-/

namespace StyleAudit.Justification

set_option autoImplicit false

def descriptor : Descriptor where
  name :=
    "Failure of Success Criterion 1.4.8 due to using text that is justified (aligned to both " ++
    "the left and the right margins)"
  code := "QW-CSS-T9"
  mapping := "F88"
  description :=
    "This failure describes situations where blocks of text that are justified (aligned to " ++
    "both the left and the right margins) occurs in CSS, using the 'text-align' and " ++
    "'text-justify' attributes."
  target := ⟨"*", ["text-align", "text-justify"]⟩
  criteria := [
    ⟨"1.4.8", .aaa, .perceivable,
      "https://www.w3.org/WAI/WCAG21/Understanding/visual-presentation"⟩
  ]
  related := ["C22"]
  url := some "https://www.w3.org/WAI/WCAG21/Techniques/failures/F88"

def judgeBlock (file : String) (block : Block) : Finding :=
  match block.find? "text-align", block.find? "text-justify" with
  | some align, none =>
    if Text.trim align.value = "justify" then
      .onDeclaration file block align .failed "Element has the property text-align:justify"
    else
      .onDeclaration file block align .passed
        "Element has the property text-align with its value different than justify"
  | some align, some justify =>
    if Text.trim align.value = "justify" then
      if Text.trim justify.value = "none" then
        .onDeclaration file block justify .passed
          "Element has the property text-align:justify but text-justify:none"
      else
        .onDeclaration file block justify .failed
          ("Element has the property text-align:justify and text-justify with value different " ++
            "than none")
    else .bare .passed "Element doesn't have justified text"
  | none, _ => .bare .passed "Element doesn't have justified text"

def judge (file : String) (block : Block) : Option Finding :=
  if block.hasSelectors then some (judgeBlock file block) else none

def findings (sheet : Stylesheet) : List Finding :=
  match sheet.parsedMentioning? "text-align" with
  | some node => node.blocks.filterMap (judge sheet.file)
  | none => []

def technique : Technique :=
  .ofSheets descriptor findings

end StyleAudit.Justification
