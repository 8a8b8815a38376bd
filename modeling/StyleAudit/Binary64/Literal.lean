import StyleAudit.Binary64.Basic

/-!
# Decimal literals

A literal is an optional sign and either one of the words for infinity and not-a-number, or digits
with an optional point and an optional exponent. At least one digit stands before or after the
point. `classify` for line heights takes every such literal for a number.
-/

namespace StyleAudit.Binary64

set_option autoImplicit false

/-- What a literal stands for. A number too large for the format is infinite. -/
inductive Value where
  | finite (x : Binary64)
  | infinite (negative : Bool)
  | notANumber
  deriving Repr, DecidableEq

def digitsValue (cs : List Char) : Nat :=
  cs.foldl (fun n c => 10 * n + (c.toNat - '0'.toNat)) 0

def natural? (cs : List Char) : Option Nat :=
  if cs.isEmpty || !cs.all Char.isDigit then none else some (digitsValue cs)

def splitSign : List Char → Bool × List Char
  | '-' :: cs => (true, cs)
  | '+' :: cs => (false, cs)
  | cs => (false, cs)

def exponent? : List Char → Option Int
  | [] => some 0
  | c :: cs =>
    if c = 'e' || c = 'E' then
      let (negative, digits) := splitSign cs
      (natural? digits).map fun n => if negative then -(n : Int) else n
    else none

def splitFraction : List Char → List Char × List Char
  | '.' :: cs => (cs.takeWhile Char.isDigit, cs.dropWhile Char.isDigit)
  | cs => ([], cs)

def unsigned? (negative : Bool) (cs : List Char) : Option Value :=
  let whole := cs.takeWhile Char.isDigit
  let (fraction, rest) := splitFraction (cs.dropWhile Char.isDigit)
  if whole.isEmpty && fraction.isEmpty then none
  else (exponent? rest).map fun exponent =>
    match ofDecimal negative (digitsValue (whole ++ fraction)) (exponent - fraction.length) with
    | some x => .finite x
    | none => .infinite negative

def literal? (cs : List Char) : Option Value :=
  let (negative, rest) := splitSign cs
  let word := String.ofList (rest.map Char.toLower)
  if word = "inf" || word = "infinity" then some (.infinite negative)
  else if word = "nan" then some .notANumber
  else unsigned? negative rest

def Value.isBetween (v : Value) (low high den : Nat) : Bool :=
  match v with
  | .finite x => x.isBetween low high den
  | .infinite _ => false
  | .notANumber => false

end StyleAudit.Binary64
