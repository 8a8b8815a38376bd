import StyleAudit.Html.Document
import StyleAudit.Page.Basic

/-!
# Pages of HTML

Pages with the parser that the program runs with: `MappedDom` as `from_html` makes it and
`query_selector_all` asks it.
-/

namespace StyleAudit.Page

set_option autoImplicit false

def ofHtml (html : String) : Page :=
  ofSource Html.parse html

def query (page : Page) (selector : String) : Except Failure (List String) :=
  page.ask Html.parse selector

end StyleAudit.Page
