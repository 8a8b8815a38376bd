import StyleAudit.Technique.Basic
import StyleAudit.Text.Blank
import StyleAudit.Binary64.Literal

/-!
# Line spacing

Transcription of `LineHeightTechnique`. Lines are to stand between one and a half and two line
heights apart, given as a percentage or as a bare number. Lengths fix the spacing. Keywords cannot
be measured.
-/

namespace StyleAudit.LineSpacing

set_option autoImplicit false

def descriptor : Descriptor where
  name :=
    "Specifying line spacing in CSS"
  code := "QW-CSS-T3"
  mapping := "C21"
  description :=
    "Many people with cognitive disabilities have trouble tracking lines of text when a " ++
    "block of text is single spaced. Providing spacing between 1.5 to 2 allows them to start " ++
    "a new line more easily once they have finished the previous one."
  target := ⟨"*", ["line-height"]⟩
  criteria := [
    ⟨"1.4.8", .aaa, .perceivable,
      "https://www.w3.org/WAI/WCAG21/Understanding/visual-presentation"⟩
  ]
  related := []
  url := some "https://www.w3.org/WAI/WCAG21/Techniques/css/C21"

def passed : Verdict × String :=
  (.passed, "Text block has line spacing between 150% and 200%")

def failed : Verdict × String :=
  (.failed, "Text block hasn't line spacing between 150% and 200%.")

def unmeasured : Verdict × String :=
  (.inapplicable, "Text block line-height property isn't a number or percentage.")

def percentage? (cs : List Char) : Option (List Char) :=
  if cs.getLast? = some '%' then some cs.dropLast else none

def startsLikeNumber : List Char → Bool
  | [] => false
  | c :: _ => c.isDigit || c == '.'

def classifyChars (cs : List Char) : Verdict × String :=
  match percentage? cs with
  | some percent =>
    match Binary64.literal? (Text.trimChars Text.isBlank percent) with
    | some value => if value.isBetween 150 200 1 then passed else failed
    | none => unmeasured
  | none =>
    match Binary64.literal? cs with
    | some value => if value.isBetween 3 4 2 then passed else failed
    | none => if startsLikeNumber cs then failed else unmeasured

def classify (value : String) : Verdict × String :=
  classifyChars (Text.trimChars Text.isBlank value.toList)

def judge (file : String) (block : Block) (d : Declaration) : Option Finding :=
  if block.hasSelectors && d.property = "line-height" then
    let (verdict, description) := classify d.value
    some (.onDeclaration file block d verdict description)
  else none

def findings (sheet : Stylesheet) : List Finding :=
  match sheet.parsedMentioning? "line-height" with
  | some node => node.declared.filterMap fun (block, d) => judge sheet.file block d
  | none => []

def technique : Technique :=
  .ofSheets descriptor findings

end StyleAudit.LineSpacing
