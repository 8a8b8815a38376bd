import StyleAudit.Binary64.Basic

/-!
# The shortest decimal text of a number

The fewest decimal digits that read back as the same number, and the digits nearest to it among
those. For each count of digits the two neighbours of the number on the decimal grid are tried in
exact arithmetic.
-/

namespace StyleAudit.Binary64

set_option autoImplicit false

def floorLog10 (num den : Nat) : Int :=
  if den ≤ num then (Nat.toDigits 10 (num / den)).length - 1
  else
    let places := (Nat.toDigits 10 (den / num)).length - 1
    if den ≤ num * Nat.pow 10 places then -places else -(places + 1 : Int)

/-- Whether `digits * 10 ^ exponent` reads back as the number. The numbers that do form an
interval around it: half a unit on each side, a quarter below a power of two, and the ends belong
to it if the significand is even. All is scaled by four units of the significand. -/
def readsBack (x : Binary64) (digits : Nat) (exponent : Int) : Bool :=
  let below : Nat :=
    if x.significand = leastNormal && smallestExponent < x.exponent then 1 else 2
  let low := 4 * x.significand - below
  let high := 4 * x.significand + 2
  let (num, den) :=
    if 0 ≤ exponent then (digits * Nat.pow 10 exponent.toNat, 1)
    else (digits, Nat.pow 10 (-exponent).toNat)
  let (num, den) :=
    if 0 ≤ x.exponent then (4 * num, den * Nat.pow 2 x.exponent.toNat)
    else (4 * num * Nat.pow 2 (-x.exponent).toNat, den)
  if x.significand % 2 = 0 then low * den ≤ num && num ≤ high * den
  else low * den < num && num < high * den

/-- The digits of the given count that read back, if there are any. A count of nines rounded up is
written with its power of ten raised. -/
def digitsOfCount (x : Binary64) (count : Nat) : Option (Nat × Int) :=
  let (num, den) := x.ratio
  let exponent := floorLog10 num den - (count - 1)
  let (num, den) :=
    if 0 ≤ exponent then (num, den * Nat.pow 10 exponent.toNat)
    else (num * Nat.pow 10 (-exponent).toNat, den)
  let floor := num / den
  let nearer := roundQuotient num den
  let other := if nearer = floor then floor + 1 else floor
  if nearer = Nat.pow 10 count && readsBack x nearer exponent then
    some (Nat.pow 10 (count - 1), exponent + 1)
  else if readsBack x nearer exponent then some (nearer, exponent)
  else if readsBack x other exponent then some (other, exponent)
  else none

/-- The shortest digits with their power of ten. Seventeen digits always read back. -/
def shortest (x : Binary64) : Nat × Int :=
  if x.isZero then (0, 0)
  else ((List.range 17).firstM fun k => digitsOfCount x (k + 1)).getD (0, 0)

def exponentChars (exponent : Int) : List Char :=
  let digits := Nat.toDigits 10 exponent.natAbs
  'e' :: (if exponent < 0 then '-' else '+') ::
    (if digits.length < 2 then '0' :: digits else digits)

/-- Numbers from `10 ^ -4` up to sixteen digits before the point are written in positions, with at
least one digit on each side of the point; others have an exponent. -/
def text (x : Binary64) : String :=
  let (number, exponent) := x.shortest
  let digits := Nat.toDigits 10 number
  let point : Int := digits.length + exponent
  let body : List Char :=
    if x.isZero then ['0', '.', '0']
    else if 0 ≤ exponent && point ≤ 16 then
      digits ++ List.replicate exponent.toNat '0' ++ ['.', '0']
    else if 0 < point && point ≤ 16 then
      digits.take point.toNat ++ '.' :: digits.drop point.toNat
    else if -4 < point && point ≤ 0 then
      '0' :: '.' :: List.replicate (-point).toNat '0' ++ digits
    else
      digits.take 1 ++ (if digits.length = 1 then [] else '.' :: digits.drop 1) ++
        exponentChars (point - 1)
  String.ofList (if x.negative then '-' :: body else body)

end StyleAudit.Binary64
