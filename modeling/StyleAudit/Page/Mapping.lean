import StyleAudit.Page.ElementMap
import StyleAudit.Page.Tree
import StyleAudit.Css.InlineStyle

/-!
# Element maps of element trees

Transcription of `from_html`, from the parsed tree on. Every element of a tree stands under its
number in document order, with the number of the element around it as its parent. The styles of an
element are those of its `style` attribute and, where these do not set them, the colors given by
attributes.
-/

namespace StyleAudit

set_option autoImplicit false

namespace Page

def colorAttributes : List String := ["bgcolor", "text"]

def setDefault (styles : Keyed String) (entry : String × String) : Keyed String :=
  if styles.contains entry.1 then styles else styles.insert entry.1 entry.2

def stylesOf (attributes : List (String × String)) : Keyed String :=
  let declared := Keyed.ofList (((attributes.lookup "style").map Css.inlineStyle).getD [])
  let colors := colorAttributes.filterMap fun name =>
    (attributes.lookup name).map fun value => (name, value)
  colors.foldl setDefault declared

def numberId (n : Nat) : String :=
  toString n

def elementOf (parent : Option Nat) (tag : String) (attributes : List (String × String)) :
    Element where
  tag := Text.asciiLower tag
  attributes := .ofList attributes
  styles := stylesOf attributes
  parent := parent.map numberId

mutual

/-- The elements of a tree in document order, numbered from a first number on. -/
def Tree.numbered (parent : Option Nat) (first : Nat) : Tree → List (String × Element)
  | .element tag attributes children =>
    (numberId first, elementOf parent tag attributes) ::
      numberedAll (some first) (first + 1) children
  | .text _ => []

def numberedAll (parent : Option Nat) (first : Nat) : List Tree → List (String × Element)
  | [] => []
  | tree :: rest => tree.numbered parent first ++ numberedAll parent (first + tree.size) rest

end

end Page

def ElementMap.ofTree (tree : Page.Tree) : ElementMap :=
  ⟨.ofList (tree.numbered none 0)⟩

end StyleAudit
