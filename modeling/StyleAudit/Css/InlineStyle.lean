import StyleAudit.Css.Property

/-!
# Inline styles

The declarations in a `style` attribute, as `parse_inline_style` gives them. One that cannot be read
is passed over. Of several for one property the last counts, and important ones count before all
others.
-/

namespace StyleAudit.Css

set_option autoImplicit false

structure StyleDeclaration where
  property : String
  value : String
  important : Bool
  deriving Repr, DecidableEq

def splitSemicolons : List Component → List (List Component)
  | [] => [[]]
  | .token .semicolon :: rest => [] :: splitSemicolons rest
  | component :: rest =>
    match splitSemicolons rest with
    | [] => [[component]]
    | first :: others => (component :: first) :: others

def isMark : Component → Bool
  | .token (.delim '!') => true
  | _ => false

def isCurlyBlock : Component → Bool
  | .block .openCurly _ => true
  | _ => false

def importance? (components : List Component) : Option Bool :=
  match components.filter fun component => !component.isSpace with
  | [] => some false
  | [mark, .token (.ident name)] =>
    if isMark mark && lowered name == "important" then some true else none
  | _ => none

/-- Names that begin with two dashes keep their spelling. -/
def propertyName (name : String) : String :=
  if name.toList.take 2 == ['-', '-'] then name else lowered name

/-- Braces that were closed too often may stand before a declaration. -/
def isSkipped : Component → Bool
  | .token .closeCurly => true
  | component => component.isSpace

def styleDeclaration? (components : List Component) : Option StyleDeclaration :=
  match components.dropWhile isSkipped with
  | .token (.ident name) :: rest =>
    match rest.dropWhile Component.isSpace with
    | .token .colon :: rest => do
      let value := rest.takeWhile fun component => !isMark component
      let important ← importance? (rest.dropWhile fun component => !isMark component)
      guard (!value.any isCurlyBlock)
      let property := propertyName name
      return ⟨property, ← propertyText? property value, important⟩
    | _ => none
  | _ => none

def styleDeclarations (style : String) : List StyleDeclaration :=
  (splitSemicolons (components style)).filterMap styleDeclaration?

/-- The properties that a style sets, each with its value, so that later entries count. -/
def inlineStyle (style : String) : List (String × String) :=
  let declarations := (styleDeclarations style).filter fun d => d.value != ""
  let normal := declarations.filter fun d => !d.important
  let important := declarations.filter StyleDeclaration.important
  (normal ++ important).map fun d => (d.property, d.value)

end StyleAudit.Css
