import StyleAudit.Technique.Basic

/-!
# Style sheets that present text

Transcription of `TextPresentationTechnique`. Some properties, `TEXT_PROPERTIES`, present text where
authors might otherwise use pictures of text.
-/

namespace StyleAudit.TextStyling

set_option autoImplicit false

def textProperties : List String :=
  ["font-family", "text-align", "font-size", "font-style", "font-weight", "color", "line-height",
    "text-transform", "letter-spacing", "background-image"]

def descriptor : Descriptor where
  name :=
    "Using CSS to control visual presentation of text"
  code := "QW-CSS-T4"
  mapping := "C22"
  description :=
    "The objective of this technique is to demonstrate how CSS can be used to control the " ++
    "visual presentation of text."
  target := ⟨"*", textProperties⟩
  criteria := [
    ⟨"1.3.1", .a, .perceivable,
      "https://www.w3.org/WAI/WCAG21/Understanding/info-and-relationships"⟩,
    ⟨"1.4.5", .aa, .perceivable,
      "https://www.w3.org/WAI/WCAG21/Understanding/images-of-text"⟩,
    ⟨"1.4.9", .aaa, .perceivable,
      "https://www.w3.org/WAI/WCAG21/Understanding/images-of-text-no-exception"⟩
  ]
  related := ["C8", "C12", "C13", "C14"]
  url := some "https://www.w3.org/WAI/WCAG21/Techniques/css/C22"

def judge (file : String) (block : Block) (d : Declaration) : Finding :=
  if textProperties.contains d.property then
    .onDeclaration file block d .passed
      "Element uses CSS properties to control the visual presentation of text"
  else
    .bare .inapplicable
      "Element does not use CSS properties to control the visual presentation of text"

def findings (sheet : Stylesheet) : List Finding :=
  match sheet.parsed? with
  | some node => node.declared.map fun (block, d) => judge sheet.file block d
  | none => []

def technique : Technique :=
  .ofSheets descriptor findings

end StyleAudit.TextStyling
