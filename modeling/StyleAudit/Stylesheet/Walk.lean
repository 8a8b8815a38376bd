import StyleAudit.Stylesheet.Basic

/-!
# Walking a stylesheet

The blocks of a stylesheet in document order, which are those that `walk` meets, and what can be
asked of a block, which is a `RuleBlock` there. Groups are descended. Animation frames apply only
while an animation runs, so they count as little as comments, imports and malformed nodes.
-/

namespace StyleAudit

set_option autoImplicit false

mutual

def Node.blocks : Node → List Block
  | .sheet rules _ => blocksOfAll rules
  | .block block => [block]
  | .group _ _ rules _ => blocksOfAll rules
  | .keyframes _ _ => []
  | .comment _ => []
  | .importRule _ => []
  | .malformed _ => []

def blocksOfAll : List Node → List Block
  | [] => []
  | node :: rest => node.blocks ++ blocksOfAll rest

end

theorem blocksOfAll_eq_flatMap (nodes : List Node) :
    blocksOfAll nodes = nodes.flatMap Node.blocks := by
  induction nodes with
  | nil => rfl
  | cons node rest ih => rw [blocksOfAll, ih, List.flatMap_cons]

def Declaration.cssLine (d : Declaration) : String :=
  "  " ++ d.property ++ ": " ++ d.value ++ ";\n"

namespace Block

def selectorText (block : Block) : String :=
  ",".intercalate block.selectors

def firstSelector? (block : Block) : Option String :=
  block.selectors.head?

def hasSelectors (block : Block) : Bool :=
  !block.selectors.isEmpty

/-- The declarations with both a property and a value. -/
def complete (block : Block) : List Declaration :=
  block.declarations.filter Declaration.isComplete

/-- The declaration that decides a property: the last complete one. -/
def find? (block : Block) (property : String) : Option Declaration :=
  (block.complete.filter fun d => d.property == property).getLast?

def heading (block : Block) : String :=
  match block.kind with
  | .rule => ",\n".intercalate block.selectors
  | .fontFace => "@font-face"
  | .page => if block.hasSelectors then "@page " ++ ", ".intercalate block.selectors else "@page"

/-- The block as CSS text, one complete declaration a line. -/
def css (block : Block) : String :=
  block.heading ++ " \x7b\n" ++ String.join (block.complete.map Declaration.cssLine) ++ "\x7d"

end Block

def Node.declared (node : Node) : List (Block × Declaration) :=
  node.blocks.flatMap fun block => block.complete.map fun d => (block, d)

end StyleAudit
