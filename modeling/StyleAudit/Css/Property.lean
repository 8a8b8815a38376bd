import StyleAudit.Css.Written
import StyleAudit.Text.Blank

/-!
# Properties

The values that some properties take and how they are written then: colors in their shortest form,
lengths and numbers without useless zeros, keywords in lower case, names of fonts without quotes
where they need none. A value that does not fit its property is written as the sequence it is, and
so is any value of another property.
-/

namespace StyleAudit.Css

set_option autoImplicit false

structure Grammar where
  color : Bool
  number : Bool
  length : Bool
  percentage : Bool
  keywords : List String

namespace Grammar

def ofColor : Grammar := ⟨true, false, false, false, []⟩

def ofKeywords (keywords : List String) : Grammar := ⟨false, false, false, false, keywords⟩

def ofSize (keywords : List String) : Grammar := ⟨false, false, true, true, keywords⟩

def text? (g : Grammar) (component : Component) : Option String :=
  match if g.color then Color.ofComponent? component else none with
  | some color => some color.text
  | none =>
    match component with
    | .token (.ident name) =>
      if g.color && lowered name == "currentcolor" then some "currentColor"
      else if g.keywords.contains (lowered name) then some (lowered name)
      else none
    | .token (.number n) =>
      if g.number || (g.length && n.isZero) then some (String.ofList (numberText n)) else none
    | .token (.percentage n) =>
      if g.percentage then some (String.ofList (numberText n ++ ['%'])) else none
    | .token (.dimension n unit) =>
      if g.length && isLengthUnit unit then
        some (if n.isZero then "0" else String.ofList (numberText n ++ unitText unit))
      else none
    | _ => none

end Grammar

inductive ValueForm where
  | single (grammar : Grammar)
  | sides (grammar : Grammar)
  | fonts

def colorProperties : List String :=
  ["color", "background-color", "border-top-color", "border-right-color", "border-bottom-color",
    "border-left-color", "outline-color", "text-decoration-color", "text-emphasis-color"]

def sizeProperties : List String :=
  ["width", "height", "min-width", "min-height"]

def maximumProperties : List String :=
  ["max-width", "max-height"]

def sizeKeywords : List String := ["min-content", "max-content", "fit-content", "stretch"]

def marginProperties : List String :=
  ["margin-top", "margin-right", "margin-bottom", "margin-left", "top", "right", "bottom", "left"]

def paddingProperties : List String :=
  ["padding-top", "padding-right", "padding-bottom", "padding-left"]

def fontSizeKeywords : List String :=
  ["xx-small", "x-small", "small", "medium", "large", "x-large", "xx-large", "xxx-large", "smaller",
    "larger"]

def keywordProperties : List (String × List String) :=
  [("text-align", ["start", "end", "left", "right", "center", "justify", "match-parent",
      "justify-all"]),
    ("text-justify", ["auto", "none", "inter-word", "inter-character"]),
    ("text-decoration", ["none", "underline", "overline", "line-through", "blink"]),
    ("text-decoration-line", ["none", "underline", "overline", "line-through", "blink"]),
    ("text-decoration-style", ["solid", "double", "dotted", "dashed", "wavy"]),
    ("text-transform", ["none", "uppercase", "lowercase", "capitalize"]),
    ("white-space", ["normal", "pre", "nowrap", "pre-wrap", "break-spaces", "pre-line"]),
    ("font-style", ["normal", "italic", "oblique"]),
    ("visibility", ["visible", "hidden", "collapse"]),
    ("position", ["static", "relative", "absolute", "sticky", "fixed"]),
    ("overflow", ["visible", "hidden", "clip", "scroll", "auto"]),
    ("display", ["none", "block", "inline", "inline-block", "flex", "inline-flex", "grid",
      "inline-grid", "list-item", "contents", "table", "inline-table", "flow-root"])]

def valueForm? (property : String) : Option ValueForm :=
  if colorProperties.contains property then some (.single .ofColor)
  else if property == "background" then some (.single .ofColor)
  else if property == "font-size" then some (.single (.ofSize fontSizeKeywords))
  else if property == "line-height" then
    some (.single { Grammar.ofSize ["normal"] with number := true })
  else if property == "font-weight" then
    some (.single { Grammar.ofKeywords ["normal", "bold", "bolder", "lighter"] with
      number := true })
  else if property == "opacity" then some (.single { Grammar.ofKeywords [] with number := true })
  else if property == "letter-spacing" || property == "word-spacing" then
    some (.single { Grammar.ofKeywords ["normal"] with length := true })
  else if property == "text-indent" then some (.single (.ofSize []))
  else if sizeProperties.contains property then some (.single (.ofSize ("auto" :: sizeKeywords)))
  else if maximumProperties.contains property then
    some (.single (.ofSize ("none" :: sizeKeywords)))
  else if marginProperties.contains property then some (.single (.ofSize ["auto"]))
  else if paddingProperties.contains property then some (.single (.ofSize []))
  else if property == "margin" then some (.sides (.ofSize ["auto"]))
  else if property == "padding" then some (.sides (.ofSize []))
  else if property == "font-family" then some .fonts
  else (keywordProperties.lookup property).map fun keywords => .single (.ofKeywords keywords)

/-- Values for the four sides, leaving out those that say nothing new. -/
def sidesText? : List String → Option String
  | [a] => some a
  | [a, b] => some (shortest a b a b)
  | [a, b, c] => some (shortest a b c b)
  | [a, b, c, d] => some (shortest a b c d)
  | _ => none
where
  shortest (top right bottom left : String) : String :=
    " ".intercalate <|
      if left != right then [top, right, bottom, left]
      else if bottom != top then [top, right, bottom]
      else if right != top then [top, right]
      else [top]

/-- Names that would not be taken for those of a font without quotes. -/
def genericFonts : List String :=
  ["serif", "sans-serif", "cursive", "fantasy", "monospace", "system-ui", "emoji", "math",
    "fangsong", "ui-serif", "ui-sans-serif", "ui-monospace", "ui-rounded", "initial", "inherit",
    "unset", "default", "revert", "revert-layer"]

/-- A name of a font, without quotes if that is shorter. -/
def fontText (name : String) : String :=
  let quoted := String.ofList (stringText name)
  if name == "" || genericFonts.contains (lowered name) then quoted
  else
    let words := (Text.pieces (· == ' ') name.toList).map String.ofList
    let bare := " ".intercalate (words.map fun word => String.ofList (nameText word))
    if bare.utf8ByteSize < name.utf8ByteSize + 2 then bare else quoted

def identName? : Component → Option String
  | .token (.ident name) => some name
  | _ => none

/-- One font of a list: a string, a generic name, or the words of a name. -/
def font? (components : List Component) : Option String :=
  match components.filter fun component => !component.isSpace with
  | [.token (.string name)] => some (fontText name)
  | [.token (.ident name)] =>
    if genericFonts.contains (lowered name) then some (lowered name) else some (fontText name)
  | words => do
    let names ← words.mapM identName?
    if names.isEmpty then none else some (fontText (" ".intercalate names))

def splitCommas : List Component → List (List Component)
  | [] => [[]]
  | .token .comma :: rest => [] :: splitCommas rest
  | component :: rest =>
    match splitCommas rest with
    | [] => [[component]]
    | first :: others => (component :: first) :: others

def ValueForm.text? (form : ValueForm) (value : List Component) : Option String :=
  let components := value.filter fun component => !component.isSpace
  match form with
  | .single grammar =>
    match components with
    | [component] => grammar.text? component
    | _ => none
  | .sides grammar => (components.mapM grammar.text?).bind sidesText?
  | .fonts => ((splitCommas value).mapM font?).map fun names => ", ".intercalate names

def propertyText? (property : String) (value : List Component) : Option String :=
  match (valueForm? property).bind fun form => form.text? value with
  | some text => some text
  | none => valueText? value

end StyleAudit.Css
