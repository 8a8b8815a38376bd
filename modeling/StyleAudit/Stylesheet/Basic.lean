import StyleAudit.Json.Basic
import StyleAudit.Text.Search

/-!
# Parsed stylesheets

The syntax tree of a stylesheet as a CSS parser delivers it in JSON. A `Node` is a `CssNode`: blocks
of declarations, each the record of a `RuleNode`, groups of rules, each a `GroupNode`, and nodes
with nothing to inspect. Parsing the text of a stylesheet happens elsewhere.
-/

namespace StyleAudit

set_option autoImplicit false

/-- A line and a column, both counted from one; zero stands for an unknown number. -/
structure Location where
  line : UInt32
  column : UInt32
  deriving Repr, DecidableEq

structure Position where
  start : Option Location
  finish : Option Location
  source : Option String
  deriving Repr, DecidableEq

def Position.span (start finish : Location) : Position :=
  ⟨some start, some finish, none⟩

/-- A property with its value. Comments among declarations have an empty property. -/
structure Declaration where
  property : String
  value : String
  position : Option Position
  deriving Repr, DecidableEq

def Declaration.isComplete (d : Declaration) : Bool :=
  d.property != "" && d.value != ""

/-- The nodes that bear declarations. -/
inductive BlockKind where
  | rule
  | fontFace
  | page
  deriving Repr, DecidableEq

structure Block where
  kind : BlockKind
  selectors : List String
  declarations : List Declaration
  position : Option Position
  deriving Repr, DecidableEq

/-- The nodes that only group further rules. A tag without a meaning of its own, or no tag at all,
makes an unlisted group. -/
inductive GroupKind where
  | media
  | supports
  | document
  | host
  | unlisted (tag : Option String)
  deriving Repr, DecidableEq

/-- A node of a stylesheet. The frames of an animation are kept as they came. -/
inductive Node where
  | sheet (rules : List Node) (source : Option String)
  | block (block : Block)
  | group (kind : GroupKind) (condition : Option String) (rules : List Node)
      (position : Option Position)
  | keyframes (name : Option String) (frames : List Json)
  | comment (text : String)
  | importRule (text : String)
  | malformed (tag : Option String)
  deriving Inhabited

structure SheetContent where
  plain : String
  parsed : Option Node

/-- One stylesheet. It has no content if it failed to load. -/
structure Stylesheet where
  file : String
  content : Option SheetContent

namespace Stylesheet

/-- The syntax tree, provided the source text is not empty. -/
def parsed? (sheet : Stylesheet) : Option Node :=
  match sheet.content with
  | some content => if content.plain = "" then none else content.parsed
  | none => none

def mentions (sheet : Stylesheet) (needle : String) : Bool :=
  match sheet.content with
  | some content => Text.mentions content.plain needle
  | none => false

/-- The syntax tree, only if the source text mentions the given one. -/
def parsedMentioning? (sheet : Stylesheet) (needle : String) : Option Node :=
  if sheet.mentions needle then sheet.parsed? else none

end Stylesheet

end StyleAudit
