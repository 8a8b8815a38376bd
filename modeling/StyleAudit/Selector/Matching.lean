import StyleAudit.Page.Tree
import StyleAudit.Selector.Positions
import StyleAudit.Text.Blank
import StyleAudit.Text.Casing
import StyleAudit.Text.Search

/-!
# Matching

Which places of a tree a selector matches. A selector is looked at from the right: the place must
pass the tests of the last element, and some place that stands to it as the combinator says must
match what is on the left.
-/

namespace StyleAudit.Selector

set_option autoImplicit false

open Page (Place Tree)

def AttributeOperator.accepts (operator : AttributeOperator) (value wanted : List Char) : Bool :=
  match operator with
  | .equal => value == wanted
  | .word => (Text.pieces Css.isSpace value).contains wanted
  | .dash => value == wanted || (wanted ++ ['-']).isPrefixOf value
  | .start => wanted.isPrefixOf value
  | .finish => wanted.isSuffixOf value
  | .part => Text.mentionsChars wanted value

def AttributeTest.accepts (test : AttributeTest) (value : String) : Bool :=
  if test.anyCase then test.operator.accepts (lower value) (lower test.value)
  else test.operator.accepts value.toList test.value.toList

def Counting.passed (count : Counting) (place : Place) : List Place :=
  let siblings := if count.fromEnd then place.laterSiblings else place.earlierSiblings
  if count.ofType then siblings.filter fun other => other.tree.tag == place.tree.tag else siblings

def Combinator.reached (combinator : Combinator) (place : Place) : List Place :=
  match combinator with
  | .descendant => place.ancestors
  | .child => place.parent?.toList
  | .next => place.earlierSiblings.take 1
  | .later => place.earlierSiblings

def candidates (place : Place) : List Place :=
  place.descendants ++ place.laterSiblings.flatMap fun other => other :: other.descendants

def isBare (tree : Tree) : Bool :=
  tree.children.all fun child =>
    match child with
    | .element _ _ _ => false
    | .text content => content == ""

mutual

/-- Whether a place passes a test, given the path of the place that a relative selector starts
from. -/
def Simple.accepts (anchor : Option (List Nat)) (place : Place) : Simple → Bool
  | .tag name => place.tree.tag == name
  | .anyTag => true
  | .noTag => false
  | .id name => place.tree.attribute? "id" == some name
  | .className name =>
    ((place.tree.attribute? "class").getD "").toList |> Text.words |>.contains name.toList
  | .attribute name test =>
    match place.tree.attribute? name, test with
    | none, _ => false
    | some _, none => true
    | some value, some test => test.accepts value
  | .root => place.parent?.isNone
  | .empty => isBare place.tree
  | .counted count => count.positions.contain ((count.passed place).length + 1)
  | .matchesAny alternatives => acceptsAny anchor place alternatives
  | .matchesNone alternatives => !acceptsAny anchor place alternatives
  | .has relatives =>
    (candidates place).any fun other => acceptsAny (some place.path) other relatives
  | .anchor => anchor == some place.path

def acceptsAll (anchor : Option (List Nat)) (place : Place) : List Simple → Bool
  | [] => true
  | part :: rest => part.accepts anchor place && acceptsAll anchor place rest

def Complex.accepts (anchor : Option (List Nat)) (place : Place) : Complex → Bool
  | .compound parts => acceptsAll anchor place parts
  | .joined left combinator parts =>
    acceptsAll anchor place parts &&
      (combinator.reached place).any fun other => left.accepts anchor other

def acceptsAny (anchor : Option (List Nat)) (place : Place) : List Complex → Bool
  | [] => false
  | selector :: rest => selector.accepts anchor place || acceptsAny anchor place rest

end

def selects (selectors : List Complex) (place : Place) : Bool :=
  acceptsAny none place selectors

end StyleAudit.Selector
