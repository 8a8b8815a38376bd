import StyleAudit.Technique.Basic

/-!
# Text aligned to one side

Transcription of `TextAlignTechnique`. Every block that holds declarations for some selector is to
align its text to the left or to the right.
-/

namespace StyleAudit.TextAlignment

set_option autoImplicit false

def descriptor : Descriptor where
  name :=
    "Specifying alignment either to the left OR right in CSS"
  code := "QW-CSS-T2"
  mapping := "C19"
  description :=
    "This technique describes how to align blocks of text either left or right by setting " ++
    "the CSS text-align property."
  target := ⟨"*", ["text-align"]⟩
  criteria := [
    ⟨"1.4.8", .aaa, .perceivable,
      "https://www.w3.org/WAI/WCAG21/Understanding/visual-presentation"⟩
  ]
  related := []
  url := some "https://www.w3.org/WAI/WCAG21/Techniques/css/C19"

def judge (file : String) (block : Block) : Option Finding :=
  if !block.hasSelectors || block.complete.isEmpty then none
  else
    match block.find? "text-align" with
    | some d =>
      if Text.mentions d.value "left" || Text.mentions d.value "right" then
        some (.onDeclaration file block d .passed "Text block is aligned either left or right.")
      else
        some (.onDeclaration file block d .failed
          "Text block is not aligned either left nor right.")
    | none => some (.bare .failed "Text block doesn't have alignment property.")

def findings (sheet : Stylesheet) : List Finding :=
  match sheet.parsed? with
  | some node => node.blocks.filterMap (judge sheet.file)
  | none => []

def technique : Technique :=
  .ofSheets descriptor findings

end StyleAudit.TextAlignment
