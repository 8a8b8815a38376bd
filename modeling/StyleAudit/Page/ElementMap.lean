import StyleAudit.Keyed
import StyleAudit.Page.Order
import StyleAudit.Text.Casing

/-!
# Element maps

The elements of a rendered page, each with its tag, attributes, styles and parent, under ids: the
`elements` of `MappedDom`, each a `MappedElement` under its `ElementId`, and the lookups that
`DomContext` asks for.
-/

namespace StyleAudit

set_option autoImplicit false

structure Element where
  tag : String
  attributes : Keyed String
  styles : Keyed String
  parent : Option String
  deriving Repr, DecidableEq, BEq

def Element.ofTag (tag : String) : Element :=
  ⟨Text.asciiLower tag, .empty, .empty, none⟩

structure ElementMap where
  elements : Keyed Element
  deriving Repr, DecidableEq

namespace ElementMap

def empty : ElementMap := ⟨.empty⟩

def insert (map : ElementMap) (id : String) (element : Element) : ElementMap :=
  ⟨map.elements.insert id element⟩

def get? (map : ElementMap) (id : String) : Option Element :=
  map.elements.get? id

def contains (map : ElementMap) (id : String) : Bool :=
  map.elements.contains id

def size (map : ElementMap) : Nat :=
  map.elements.size

def ids (map : ElementMap) : List String :=
  Page.inDocumentOrder map.elements.keys

def tag? (map : ElementMap) (id : String) : Option String :=
  (map.get? id).map Element.tag

def attribute? (map : ElementMap) (id name : String) : Option String :=
  (map.get? id).bind fun element => element.attributes.get? name

/-- The value of a style set on the element itself. An empty value sets nothing. -/
def style? (map : ElementMap) (id property : String) : Option String :=
  ((map.get? id).bind fun element => element.styles.get? property).filter fun value => value != ""

def parent? (map : ElementMap) (id : String) : Option String :=
  (map.get? id).bind Element.parent

structure MissingParent where
  element : String
  parent : String
  deriving Repr, DecidableEq

def missingParent? (map : ElementMap) : Option MissingParent :=
  map.elements.entries.findSome? fun entry =>
    match entry.2.parent with
    | some parent => if map.contains parent then none else some ⟨entry.1, parent⟩
    | none => none

end ElementMap

end StyleAudit
