/-!
# Element trees

The tree of a parsed page: elements with their attributes in source order, and the texts between
them. Comments are left out. Places point into a tree and know their surroundings; the places of a
tree are listed in document order, as `document_elements` goes through them.
-/

namespace StyleAudit.Page

set_option autoImplicit false

inductive Tree where
  | element (tag : String) (attributes : List (String × String)) (children : List Tree)
  | text (content : String)
  deriving Repr, BEq, Inhabited

namespace Tree

def isElement : Tree → Bool
  | element _ _ _ => true
  | text _ => false

def tag : Tree → String
  | element tag _ _ => tag
  | text _ => ""

def attributes : Tree → List (String × String)
  | element _ attributes _ => attributes
  | text _ => []

def children : Tree → List Tree
  | element _ _ children => children
  | text _ => []

/-- The value of an attribute. Of several attributes of one name the first counts. -/
def attribute? (tree : Tree) (name : String) : Option String :=
  tree.attributes.lookup name

mutual

def size : Tree → Nat
  | element _ _ children => 1 + sizeOfAll children
  | text _ => 0

def sizeOfAll : List Tree → Nat
  | [] => 0
  | tree :: rest => tree.size + sizeOfAll rest

end

end Tree

/-- A node of a tree with its surroundings: its siblings before it, nearest first, its siblings
after it, and the place of its parent. -/
inductive Place where
  | root (tree : Tree)
  | child (tree : Tree) (before after : List Tree) (parent : Place)

namespace Place

def tree : Place → Tree
  | root tree => tree
  | child tree _ _ _ => tree

def parent? : Place → Option Place
  | root _ => none
  | child _ _ _ parent => some parent

def ancestors : Place → List Place
  | root _ => []
  | child _ _ _ parent => parent :: parent.ancestors

/-- Where the place is in its tree: how many siblings stand before it, before its parent, and so
on up to the root. -/
def path : Place → List Nat
  | root _ => []
  | child _ before _ parent => before.length :: parent.path

def earlierFrom (parent : Place) : List Tree → List Tree → List Place
  | [], _ => []
  | tree :: before, after =>
    let rest := earlierFrom parent before (tree :: after)
    if tree.isElement then child tree before after parent :: rest else rest

def laterFrom (parent : Place) : List Tree → List Tree → List Place
  | _, [] => []
  | before, tree :: after =>
    let rest := laterFrom parent (tree :: before) after
    if tree.isElement then child tree before after parent :: rest else rest

def earlierSiblings : Place → List Place
  | root _ => []
  | child tree before after parent => earlierFrom parent before (tree :: after)

def laterSiblings : Place → List Place
  | root _ => []
  | child tree before after parent => laterFrom parent (tree :: before) after

end Place

mutual

def Tree.placesAt (place : Place) : Tree → List Place
  | .element _ _ children => place :: placesAmong place [] children
  | .text _ => []

def placesAmong (parent : Place) (before : List Tree) : List Tree → List Place
  | [] => []
  | tree :: after =>
    tree.placesAt (.child tree before after parent) ++ placesAmong parent (tree :: before) after

end

def Tree.places (tree : Tree) : List Place :=
  tree.placesAt (.root tree)

def Place.descendants (place : Place) : List Place :=
  placesAmong place [] place.tree.children

end StyleAudit.Page
