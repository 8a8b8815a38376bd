/-!
# Selectors

What a selector asks of an element: tests of the element itself, joined by combinators with tests
of the elements around it.
-/

namespace StyleAudit.Selector

set_option autoImplicit false

inductive Combinator where
  | descendant
  | child
  | next
  | later
  deriving Repr, DecidableEq

inductive AttributeOperator where
  | equal
  | word
  | dash
  | start
  | finish
  | part
  deriving Repr, DecidableEq

structure AttributeTest where
  operator : AttributeOperator
  value : String
  anyCase : Bool
  deriving Repr, DecidableEq

/-- The positions `step * n + offset` for `n` from zero on. -/
structure Positions where
  step : Int
  offset : Int
  deriving Repr, DecidableEq

/-- A test of an element's position among its siblings, from either end, with or without regard to
their tags. -/
structure Counting where
  positions : Positions
  ofType : Bool
  fromEnd : Bool
  deriving Repr, DecidableEq

mutual

/-- A test of one element. `anchor` is the element that a `has` starts from. -/
inductive Simple where
  | tag (name : String)
  | anyTag
  | noTag
  | id (name : String)
  | className (name : String)
  | attribute (name : String) (test : Option AttributeTest)
  | root
  | empty
  | counted (count : Counting)
  | matchesAny (alternatives : List Complex)
  | matchesNone (alternatives : List Complex)
  | has (relatives : List Complex)
  | anchor

/-- Tests of one element, after tests of the elements it must stand to in some way. -/
inductive Complex where
  | compound (parts : List Simple)
  | joined (left : Complex) (combinator : Combinator) (parts : List Simple)

end

end StyleAudit.Selector
