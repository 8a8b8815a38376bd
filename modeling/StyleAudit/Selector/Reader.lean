import StyleAudit.Selector.Positions
import StyleAudit.Text.Casing

/-!
# Reading selectors

What `Selector::parse` makes of a text. A selector list is read from component values. What stands
in brackets is read first, from the inside out; after that a selector is a plain sequence, read
piece by piece. Alternatives of `is` and `where` that cannot be read are passed over; anywhere else
they make the whole unreadable.
-/

namespace StyleAudit.Selector

set_option autoImplicit false

open Css (Token Component)

def caselessAttributes : List String :=
  ["accept", "accept-charset", "align", "alink", "axis", "bgcolor", "charset", "checked", "clear",
    "codetype", "color", "compact", "declare", "defer", "dir", "direction", "disabled", "enctype",
    "face", "frame", "hreflang", "http-equiv", "lang", "language", "link", "media", "method",
    "multiple", "nohref", "noresize", "noshade", "nowrap", "readonly", "rel", "rev", "rules",
    "scope", "scrolling", "selected", "shape", "target", "text", "type", "valign", "valuetype",
    "vlink"]

def operator? : Token → Option AttributeOperator
  | .delim '=' => some .equal
  | .includesMatch => some .word
  | .dashMatch => some .dash
  | .startMatch => some .start
  | .endMatch => some .finish
  | .partMatch => some .part
  | _ => none

def operand? : Token → Option String
  | .ident name => some name
  | .string value => some value
  | _ => none

def flag? (name : String) : Option Bool :=
  match lower name with
  | ['i'] => some true
  | ['s'] => some false
  | _ => none

def attributeTest? (caseless : Bool) : List Token → Option (Option AttributeTest)
  | [] => some none
  | [op, value] => do return some ⟨← operator? op, ← operand? value, caseless⟩
  | [op, value, .ident flag] => do return some ⟨← operator? op, ← operand? value, ← flag? flag⟩
  | _ => none

/-- The test in square brackets. The name may be given for every namespace or for none. -/
def attribute? (inside : List Component) : Option Simple := do
  let tokens ← plainTokens? inside
  let (name, anyNamespace, rest) ←
    match tokens.dropWhile isSpaceToken with
    | .ident _ :: .delim '|' :: _ => none
    | .ident name :: rest => some (name, false, rest)
    | .delim '*' :: .delim '|' :: .ident name :: rest => some (name, true, rest)
    | .delim '|' :: .ident name :: rest => some (name, false, rest)
    | _ => none
  let name := Text.asciiLower name
  let caseless := !anyNamespace && caselessAttributes.contains name
  let test ← attributeTest? caseless (rest.filter fun t => !isSpaceToken t)
  return .attribute name test

inductive Piece where
  | token (token : Token)
  | attribute (test : Option Simple)
  | function (tests : Option Simple)
  | group

/-- A selector as far as it has been read: what is on the left of the element at hand, the tests of
that element, last first, and whether white space came after them. A relative selector may begin
with a combinator. -/
structure Draft where
  left : Option (Complex × Combinator)
  parts : List Simple
  spaced : Bool
  mayLead : Bool

namespace Draft

def start : Draft := ⟨none, [], false, false⟩

def relativeStart : Draft := ⟨some (.compound [.anchor], .descendant), [], false, true⟩

def finish? (d : Draft) : Option Complex :=
  if d.parts.isEmpty then none
  else
    match d.left with
    | none => some (.compound d.parts.reverse)
    | some (left, combinator) => some (.joined left combinator d.parts.reverse)

def join? (combinator : Combinator) (d : Draft) : Option Draft :=
  match d.finish?, d.left with
  | some complex, _ => some ⟨some (complex, combinator), [], false, false⟩
  | none, some (left, _) =>
    if d.mayLead then some ⟨some (left, combinator), [], false, false⟩ else none
  | none, none => none

/-- White space between two tests stands for a descendant. -/
def settled (d : Draft) : Draft :=
  if d.spaced then (d.join? .descendant).getD d else d

def space (d : Draft) : Draft :=
  { d with spaced := !d.parts.isEmpty }

def add (tests : List Simple) (d : Draft) : Draft :=
  let d := d.settled
  { d with parts := tests.reverse ++ d.parts }

def addTag? (test : Simple) (d : Draft) : Option Draft :=
  let d := d.settled
  if d.parts.isEmpty then some { d with parts := [test] } else none

end Draft

def firstChild (ofType : Bool) : Simple := .counted ⟨⟨0, 1⟩, ofType, false⟩

def lastChild (ofType : Bool) : Simple := .counted ⟨⟨0, 1⟩, ofType, true⟩

def plainClass? (name : String) : Option (List Simple) :=
  match Text.asciiLower name with
  | "first-child" => some [firstChild false]
  | "last-child" => some [lastChild false]
  | "only-child" => some [firstChild false, lastChild false]
  | "first-of-type" => some [firstChild true]
  | "last-of-type" => some [lastChild true]
  | "only-of-type" => some [firstChild true, lastChild true]
  | "root" => some [.root]
  | "scope" => some [.root]
  | "empty" => some [.empty]
  | _ => none

def sequence? (d : Draft) : List Piece → Option Complex
  | [] => d.finish?
  | .token .whitespace :: rest => sequence? d.space rest
  | .token (.delim '>') :: rest => do sequence? (← d.join? .child) rest
  | .token (.delim '+') :: rest => do sequence? (← d.join? .next) rest
  | .token (.delim '~') :: rest => do sequence? (← d.join? .later) rest
  | .token (.ident _) :: .token (.delim '|') :: _ => none
  | .token (.ident name) :: rest => do sequence? (← d.addTag? (.tag (Text.asciiLower name))) rest
  | .token (.delim '*') :: .token (.delim '|') :: .token (.ident name) :: rest => do
    sequence? (← d.addTag? (.tag (Text.asciiLower name))) rest
  | .token (.delim '*') :: .token (.delim '|') :: .token (.delim '*') :: rest => do
    sequence? (← d.addTag? .anyTag) rest
  | .token (.delim '*') :: .token (.delim '|') :: _ => none
  | .token (.delim '*') :: rest => do sequence? (← d.addTag? .anyTag) rest
  | .token (.delim '|') :: .token (.ident _) :: rest => do sequence? (← d.addTag? .noTag) rest
  | .token (.delim '|') :: .token (.delim '*') :: rest => do sequence? (← d.addTag? .noTag) rest
  | .token (.hash name true) :: rest => sequence? (d.add [.id name]) rest
  | .token (.delim '.') :: .token (.ident name) :: rest => sequence? (d.add [.className name]) rest
  | .token .colon :: .token (.ident name) :: rest => do sequence? (d.add (← plainClass? name)) rest
  | .token .colon :: .function test :: rest => do sequence? (d.add [← test]) rest
  | .attribute test :: rest => do sequence? (d.add [← test]) rest
  | _ :: _ => none

def alternatives : List Piece → List (List Piece)
  | [] => [[]]
  | .token .comma :: rest => [] :: alternatives rest
  | piece :: rest =>
    match alternatives rest with
    | [] => [[piece]]
    | first :: others => (piece :: first) :: others

def list? (start : Draft) (pieces : List Piece) : Option (List Complex) :=
  (alternatives pieces).mapM (sequence? start)

/-- Only the alternatives that can be read. -/
def readableList (pieces : List Piece) : List Complex :=
  (alternatives pieces).filterMap (sequence? .start)

def counted? (ofType fromEnd : Bool) (inside : List Component) : Option Simple :=
  (positions? inside).map fun positions => .counted ⟨positions, ofType, fromEnd⟩

/-- The test that a pseudo-class with arguments stands for, given its arguments as they are and as
pieces. There is no `has` within `has`. -/
def functionClass? (insideHas : Bool) (name : String) (inside : List Component)
    (pieces : List Piece) : Option Simple :=
  match name with
  | "nth-child" => counted? false false inside
  | "nth-last-child" => counted? false true inside
  | "nth-of-type" => counted? true false inside
  | "nth-last-of-type" => counted? true true inside
  | "is" => some (.matchesAny (readableList pieces))
  | "where" => some (.matchesAny (readableList pieces))
  | "not" => (list? .start pieces).map Simple.matchesNone
  | "has" => if insideHas then none else (list? .relativeStart pieces).map Simple.has
  | _ => none

mutual

def pieceOf (insideHas : Bool) : Component → Piece
  | .token token => .token token
  | .block opening inside =>
    match opening with
    | .openSquare => .attribute (attribute? inside)
    | .function name =>
      let name := Text.asciiLower name
      .function (functionClass? insideHas name inside (pieces (insideHas || name == "has") inside))
    | _ => .group

def pieces (insideHas : Bool) : List Component → List Piece
  | [] => []
  | component :: rest => pieceOf insideHas component :: pieces insideHas rest

end

def read? (text : String) : Option (List Complex) :=
  list? .start (pieces false (Css.components text))

end StyleAudit.Selector
