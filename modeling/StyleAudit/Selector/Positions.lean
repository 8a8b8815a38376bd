import StyleAudit.Css.Component
import StyleAudit.Selector.Basic

/-!
# Positions

Formulas for positions such as `odd`, `3` and `2n + 1`. Numbers beyond 32 bits are taken as the
nearest number within.
-/

namespace StyleAudit.Selector

set_option autoImplicit false

open Css (Token Numeral Component)

def largest : Int := 2147483647

def smallest : Int := -2147483648

def nearestWithin (n : Int) : Int :=
  max smallest (min largest n)

/-- A position is one of those given if it is a whole number of steps away from the offset. -/
def Positions.contain (p : Positions) (position : Nat) : Bool :=
  let distance : Int := position - p.offset
  if p.step = 0 then distance == 0
  else
    let steps := distance.tdiv p.step
    decide (distance ≤ largest) && decide (0 ≤ steps) && p.step * steps == distance

def integer? (n : Numeral) : Option Int :=
  if n.whole then some (nearestWithin (if n.negative then -n.digits else n.digits)) else none

def lower (name : String) : List Char :=
  name.toList.map Char.toLower

/-- The number in a name like `n-3`, which is never positive. -/
def dashedNumber? (name : List Char) : Option Int :=
  match name with
  | 'n' :: '-' :: d :: digits =>
    if (d :: digits).all Char.isDigit then
      some (nearestWithin (-(Css.digitsValue (d :: digits))))
    else none
  | _ => none

def unsignedOffset? (step sign : Int) : List Token → Option Positions
  | [.number n] => if n.signed then none else (integer? n).map fun b => ⟨step, sign * b⟩
  | _ => none

def offset? (step : Int) : List Token → Option Positions
  | [] => some ⟨step, 0⟩
  | [.number n] => if n.signed then (integer? n).map fun b => ⟨step, b⟩ else none
  | .delim '+' :: rest => unsignedOffset? step 1 rest
  | .delim '-' :: rest => unsignedOffset? step (-1) rest
  | _ => none

def stepped? (step : Int) (name : List Char) (rest : List Token) : Option Positions :=
  if name == ['n'] then offset? step rest
  else if name == ['n', '-'] then unsignedOffset? step (-1) rest
  else if rest.isEmpty then (dashedNumber? name).map fun b => ⟨step, b⟩
  else none

def named? (signed : Bool) (name : List Char) (rest : List Token) : Option Positions :=
  if name == "even".toList then if rest.isEmpty then some ⟨2, 0⟩ else none
  else if name == "odd".toList then if rest.isEmpty then some ⟨2, 1⟩ else none
  else
    match name with
    | '-' :: name => if signed then none else stepped? (-1) name rest
    | name => stepped? 1 name rest

def isSpaceToken (t : Token) : Bool :=
  t == .whitespace

def plainTokens? (components : List Component) : Option (List Token) :=
  components.mapM Component.token?

def positions? (components : List Component) : Option Positions := do
  let tokens ← plainTokens? components
  let spaceless (tokens : List Token) := tokens.filter fun t => !isSpaceToken t
  match tokens.dropWhile isSpaceToken with
  | .number n :: rest => if (spaceless rest).isEmpty then (integer? n).map fun b => ⟨0, b⟩ else none
  | .dimension n unit :: rest => do stepped? (← integer? n) (lower unit) (spaceless rest)
  | .ident name :: rest => named? false (lower name) (spaceless rest)
  | .delim '+' :: .ident name :: rest => named? true (lower name) (spaceless rest)
  | _ => none

end StyleAudit.Selector
