import StyleAudit.Technique.Basic
import StyleAudit.Text.Blank
import StyleAudit.Text.Casing

/-!
# Blinking text

Transcription of `BlinkTechnique`; `blinks` is its test of a value. Blinking text fails. A run that
has found none so far records a single pass.
-/

namespace StyleAudit.Blinking

set_option autoImplicit false

def descriptor : Descriptor where
  name :=
    "Failure of Success Criterion 2.2.2 due to using text-decoration:blink without a " ++
    "mechanism to stop it in less than five seconds"
  code := "QW-CSS-T6"
  mapping := "F4"
  description :=
    "CSS defines the blink value for the text-decoration property. When used, it causes any " ++
    "text in elements with this property to blink at a predetermined rate. This cannot be " ++
    "interrupted by the user, nor can it be disabled as a user agent preference. The " ++
    "blinking continues as long as the page is displayed. Therefore, content that uses " ++
    "text-decoration:blink fails the Success Criterion because blinking can continue for " ++
    "more than three seconds."
  target := ⟨"*", ["text-decoration"]⟩
  criteria := [
    ⟨"2.2.2", .a, .operable,
      "https://www.w3.org/WAI/WCAG21/Understanding/pause-stop-hide.html"⟩
  ]
  related := ["SCR22"]
  url := some "https://www.w3.org/WAI/WCAG21/Techniques/failures/F4"

/-- Some word of the value is `blink`, in any case of its letters. -/
def blinks (value : String) : Bool :=
  (Text.words value.toList).any fun word => Text.eqIgnoringAsciiCase word ['b', 'l', 'i', 'n', 'k']

def judge (file : String) (block : Block) (d : Declaration) : Option Finding :=
  if block.hasSelectors && d.property = "text-decoration" && blinks d.value then
    some (.onDeclaration file block d .failed "Element has the property text-decoration:blink.")
  else none

def findings (sheet : Stylesheet) : List Finding :=
  match sheet.parsedMentioning? "text-decoration" with
  | some node => node.declared.filterMap fun (block, d) => judge sheet.file block d
  | none => []

def nothingFound : Finding :=
  .bare .passed "Didn't find any text-decoration:blink properties"

def technique : Technique where
  descriptor := descriptor
  evaluate := fun ledger input =>
    let found := input.stylesheets.flatMap findings
    let all := if (ledger.fillAll found).tally.failed = 0 then found ++ [nothingFound] else found
    ⟨all, .completed⟩

end StyleAudit.Blinking
