import StyleAudit.Technique.Basic
import StyleAudit.Text.Blank

/-!
# Widths of text containers

Transcription of `ContainerWidthTechnique`. A rule is about a text container if its first selector
names a sectioning or grouping element, one of `SECTION_AND_GROUPING`. Whether a layout with
relative widths reflows is for a person to confirm, so a percentage is only a warning.
-/

namespace StyleAudit.ContainerWidth

set_option autoImplicit false

def containers : List String :=
  ["span", "article", "section", "nav", "aside", "hgroup", "header", "footer", "address", "p",
    "hr", "blockquote", "div", "h1", "h2", "h3", "h4", "h5", "h6", "li", "ul", "ol", "dd", "dt",
    "dl", "figcaption"]

def descriptor : Descriptor where
  name :=
    "Using percentage values in CSS for container sizes"
  code := "QW-CSS-T5"
  mapping := "C24"
  description :=
    "The objective of this technique is to enable users to increase the size of text without " ++
    "having to scroll horizontally to read that text. To use this technique, an author " ++
    "specifies the width of text containers using percent values."
  target := ⟨"*", ["width"]⟩
  criteria := [
    ⟨"1.4.8", .aaa, .perceivable,
      "https://www.w3.org/WAI/WCAG21/Techniques/css/C24"⟩
  ]
  related := ["C20"]
  url := some "https://www.w3.org/WAI/WCAG21/Techniques/css/C20"

def isContainer (block : Block) : Bool :=
  match block.firstSelector? with
  | some selector => containers.contains (Text.trim selector)
  | none => false

def judge (file : String) (block : Block) (d : Declaration) : Option Finding :=
  if d.property = "width" && isContainer block then
    if Text.endsWith (Text.trim d.value) "%" then
      some (.onDeclaration file block d .warning "Element \"width\" style attribute uses \"%\"")
    else some (.bare .failed "Element \"width\" style attribute doesn't use \"%\"")
  else none

def findings (sheet : Stylesheet) : List Finding :=
  match sheet.parsed? with
  | some node => node.declared.filterMap fun (block, d) => judge sheet.file block d
  | none => []

def technique : Technique :=
  .ofSheets descriptor findings

end StyleAudit.ContainerWidth
