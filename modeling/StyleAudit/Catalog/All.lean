import StyleAudit.Catalog.FontSize
import StyleAudit.Catalog.TextAlignment
import StyleAudit.Catalog.LineSpacing
import StyleAudit.Catalog.TextStyling
import StyleAudit.Catalog.ContainerWidth
import StyleAudit.Catalog.Blinking
import StyleAudit.Catalog.ColorPairs
import StyleAudit.Catalog.Justification

/-!
# The catalog of techniques

The built-in techniques in the order in which `all` lists them, which is that of their codes.
-/

namespace StyleAudit

set_option autoImplicit false

def catalog : List Technique :=
  [FontSize.technique, TextAlignment.technique, LineSpacing.technique, TextStyling.technique,
    ContainerWidth.technique, Blinking.technique, ColorPairs.technique, Justification.technique]

end StyleAudit
