import StyleAudit.Failure
import StyleAudit.Page.Mapping
import StyleAudit.Page.Markup
import StyleAudit.Selector.Matching
import StyleAudit.Selector.Reader

/-!
# Pages

An element map that selectors can be asked of: `MappedDom` with its `query_selector_all` and
`validate`. A page mapped from HTML answers by the tree of its source until its map is changed; any
other page answers by the tree of its markup, in which each element bears its id. What HTML makes of
a text, `Html::parse_document`, is a parameter: a page relies on nothing but the trees that come
from it.
-/

namespace StyleAudit

set_option autoImplicit false

/-- An element map and, as long as it still holds, the source that the map was made of. -/
structure Page where
  map : ElementMap
  source : Option String

namespace Page

/-- Makes the element tree of HTML source. -/
abbrev Parser := String → Tree

def ofMap (map : ElementMap) : Page :=
  ⟨map, none⟩

def ofSource (parse : Parser) (html : String) : Page :=
  ⟨.ofTree (parse html), some html⟩

def insert (page : Page) (id : String) (element : Element) : Page :=
  ofMap (page.map.insert id element)

/-- The ids of the places that selectors match in a tree whose elements bear their ids. -/
def matchedByMark (selectors : List Selector.Complex) (tree : Tree) : List String :=
  (tree.places.filter (Selector.selects selectors)).filterMap fun place =>
    place.tree.attribute? idAttribute

/-- The ids of the places that selectors match in a tree whose elements are numbered. -/
def matchedByNumber (selectors : List Selector.Complex) (tree : Tree) : List String :=
  (tree.places.zipIdx.filter fun entry => Selector.selects selectors entry.1).map fun entry =>
    numberId entry.2

def matched (parse : Parser) (page : Page) (selectors : List Selector.Complex) : List String :=
  match page.source with
  | some html => matchedByNumber selectors (parse html)
  | none => matchedByMark selectors (parse page.map.markup)

/-- The elements that a selector list matches, in document order. -/
def ask (parse : Parser) (page : Page) (selector : String) : Except Failure (List String) :=
  match Selector.read? selector with
  | some selectors => .ok (dropRepeats (inDocumentOrder (page.matched parse selectors)))
  | none => .error (.invalidSelector selector)

/-- Every parent that is named must be mapped. -/
def validate (page : Page) : Except Failure Unit :=
  match page.map.missingParent? with
  | some missing => .error (.missingParent missing.element missing.parent)
  | none => .ok ()

end Page

end StyleAudit
