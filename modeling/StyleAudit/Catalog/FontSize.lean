import StyleAudit.Technique.Basic
import StyleAudit.Text.Blank

/-!
# Relative font sizes

Transcription of `FontSizeTechnique`; the named sizes are `NAMED_SIZES`. Sizes in pixels do not
follow the reader's text settings. Percentages, the units that end in `em` and the named sizes do.
The metric of anything else is unknown.
-/

namespace StyleAudit.FontSize

set_option autoImplicit false

def namedSizes : List String :=
  ["xx-small", "x-small", "small", "medium", "large", "x-large", "xx-large", "smaller", "larger"]

def descriptor : Descriptor where
  name :=
    "Using \"percent, em, names\" for font sizes"
  code := "QW-CSS-T1"
  mapping := "C121314"
  description :=
    "This technique checks that all font-size attribute uses percent, em or names"
  target := ⟨"*", ["font-size"]⟩
  criteria := [
    ⟨"1.4.4", .aa, .perceivable,
      "https://www.w3.org/WAI/WCAG21/Understanding/resize-text"⟩,
    ⟨"1.4.5", .aa, .perceivable,
      "https://www.w3.org/WAI/WCAG21/Understanding/images-of-text"⟩,
    ⟨"1.4.8", .aaa, .perceivable,
      "https://www.w3.org/WAI/WCAG21/Understanding/visual-presentation"⟩,
    ⟨"1.4.9", .aaa, .perceivable,
      "https://www.w3.org/WAI/WCAG21/Understanding/images-of-text-no-exception"⟩
  ]
  related := ["C12", "C13", "C14"]
  url := some "https://www.w3.org/WAI/WCAG21/Techniques/css/C12"

def classify (value : String) : Verdict × String :=
  let value := Text.trim value
  if Text.mentions value "px" then
    (.warning, "Element \"font-size\" style attribute uses \"px\"")
  else if Text.endsWith value "em" || Text.endsWith value "%" || namedSizes.contains value then
    (.passed, "Element \"font-size\" style attribute doesn't use \"px\"")
  else (.inapplicable, "Element has \"font-size\" style with unknown metric")

def judge (file : String) (block : Block) (d : Declaration) : Option Finding :=
  if d.property = "font-size" then
    let (verdict, description) := classify d.value
    some (.onDeclaration file block d verdict description)
  else none

def findings (sheet : Stylesheet) : List Finding :=
  match sheet.parsedMentioning? "font-size" with
  | some node => node.declared.filterMap fun (block, d) => judge sheet.file block d
  | none => []

def technique : Technique :=
  .ofSheets descriptor findings

end StyleAudit.FontSize
