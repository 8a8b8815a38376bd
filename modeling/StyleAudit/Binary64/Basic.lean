/-!
# Finite double precision numbers

A finite number of the 64-bit binary format, as a sign, a whole significand and a power of two.
Every operation is exact whole number arithmetic followed by one rounding to the nearest number of
the format, with ties going to the even significand.
-/

namespace StyleAudit

set_option autoImplicit false

/-- The number `significand * 2 ^ exponent`, or its negation. -/
structure Binary64 where
  negative : Bool
  significand : Nat
  exponent : Int
  deriving Repr, DecidableEq

namespace Binary64

def smallestExponent : Int := -1074
def largestExponent : Int := 971

def leastNormal : Nat := 4503599627370496

def roundQuotient (num den : Nat) : Nat :=
  let floor := num / den
  let doubled := 2 * (num % den)
  if doubled < den then floor
  else if den < doubled then floor + 1
  else if floor % 2 = 0 then floor else floor + 1

def floorLog2 (num den : Nat) : Int :=
  let guess : Int := (num.log2 : Int) - den.log2
  let reaches : Bool :=
    if 0 ≤ guess then den * Nat.pow 2 guess.toNat ≤ num else den ≤ num * Nat.pow 2 (-guess).toNat
  if reaches then guess else guess - 1

/-- The number of the format nearest to `num / den`, or none if that quotient is too large. -/
def ofRatio (negative : Bool) (num den : Nat) : Option Binary64 :=
  if num = 0 then some ⟨negative, 0, smallestExponent⟩ else
    let exponent := max (floorLog2 num den - 52) smallestExponent
    let significand :=
      if 0 ≤ exponent then roundQuotient num (den * Nat.pow 2 exponent.toNat)
      else roundQuotient (num * Nat.pow 2 (-exponent).toNat) den
    let (significand, exponent) :=
      if significand = 2 * leastNormal then (leastNormal, exponent + 1) else (significand, exponent)
    if largestExponent < exponent then none else some ⟨negative, significand, exponent⟩

def ratio (x : Binary64) : Nat × Nat :=
  if 0 ≤ x.exponent then (x.significand * Nat.pow 2 x.exponent.toNat, 1)
  else (x.significand, Nat.pow 2 (-x.exponent).toNat)

def isZero (x : Binary64) : Bool :=
  x.significand == 0

def scale (x : Binary64) (num den : Nat) : Option Binary64 :=
  ofRatio x.negative (x.ratio.1 * num) (x.ratio.2 * den)

/-- The number `significand * 10 ^ exponent`, rounded once. An exponent far outside the format is
settled without writing the power out. -/
def ofDecimal (negative : Bool) (significand : Nat) (exponent : Int) : Option Binary64 :=
  let digits : Int := (Nat.toDigits 10 significand).length
  if significand = 0 || digits + exponent < -400 then some ⟨negative, 0, smallestExponent⟩
  else if 400 < digits + exponent then none
  else if 0 ≤ exponent then ofRatio negative (significand * Nat.pow 10 exponent.toNat) 1
  else ofRatio negative significand (Nat.pow 10 (-exponent).toNat)

def isBetween (x : Binary64) (low high den : Nat) : Bool :=
  !x.negative && low * x.ratio.2 ≤ x.ratio.1 * den && x.ratio.1 * den ≤ high * x.ratio.2

end Binary64

end StyleAudit
