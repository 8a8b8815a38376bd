import StyleAudit.Json.Basic

/-!
# Tokens of JSON text

The tokens of a text in order. A token that breaks off or breaks the rules is the last one.
-/

namespace StyleAudit.Json

set_option autoImplicit false

/-- A token. A number too large to hold is a flawed scalar, and a text with half a surrogate pair
is none. A text that breaks off is told from other bad tokens, because it may stand where a name
must. -/
inductive Token where
  | openArray
  | closeArray
  | openObject
  | closeObject
  | comma
  | colon
  | scalar (value : Json)
  | text (value : Option String)
  | badText (fault : Fault)
  | bad (fault : Fault)
  deriving Repr

inductive NumberStage where
  | minus
  | zero
  | whole
  | point
  | fraction
  | mark
  | markSign
  | exponent
  deriving Repr, DecidableEq

namespace NumberStage

def start? (c : Char) : Option NumberStage :=
  if c = '-' then some minus
  else if c = '0' then some zero
  else if c.isDigit then some whole
  else none

def next? (stage : NumberStage) (c : Char) : Option NumberStage :=
  match stage with
  | minus => if c = '0' then some zero else if c.isDigit then some whole else none
  | zero => if c = '.' then some point else if c = 'e' || c = 'E' then some mark else none
  | whole =>
    if c.isDigit then some whole
    else if c = '.' then some point
    else if c = 'e' || c = 'E' then some mark
    else none
  | point => if c.isDigit then some fraction else none
  | fraction =>
    if c.isDigit then some fraction else if c = 'e' || c = 'E' then some mark else none
  | mark =>
    if c.isDigit then some exponent else if c = '+' || c = '-' then some markSign else none
  | markSign => if c.isDigit then some exponent else none
  | exponent => if c.isDigit then some exponent else none

def isComplete : NumberStage → Bool
  | zero => true
  | whole => true
  | fraction => true
  | exponent => true
  | minus => false
  | point => false
  | mark => false
  | markSign => false

/-- Whether the number may end before this character. A zero takes no further digit. -/
def endsBefore (stage : NumberStage) (c : Char) : Bool :=
  stage.isComplete && !(stage == zero && c.isDigit)

end NumberStage

def largestWord : Nat := 18446744073709551615

def smallestSize : Nat := 9223372036854775808

/-- Reads digits into a significand as long as it fits in 64 bits, and gives what is left over. -/
def accumulate (significand : Nat) : List Char → Nat × List Char
  | [] => (significand, [])
  | c :: cs =>
    let longer := 10 * significand + (c.toNat - '0'.toNat)
    if largestWord < longer then (significand, c :: cs) else accumulate longer cs

/-- The significand times a power of ten, computed as one rounded product or quotient with the
double next to that power. Powers beyond `10 ^ -308` take several quotients. -/
def scaled (x : Binary64) (exponent : Int) : Nat → Option Binary64
  | 0 => some x
  | steps + 1 =>
    let power (n : Nat) : Nat × Nat :=
      ((Binary64.ofRatio false (Nat.pow 10 n) 1).map (·.ratio)).getD (0, 1)
    if x.isZero then some x
    else if 308 < exponent then none
    else if 0 ≤ exponent then
      let (num, den) := power exponent.toNat
      x.scale num den
    else if -308 ≤ exponent then
      let (num, den) := power (-exponent).toNat
      x.scale den num
    else
      let (num, den) := power 308
      (x.scale den num).bind fun y => scaled y (exponent + 308) steps

def realOfParts (negative : Bool) (significand : Nat) (exponent : Int) : Option Number :=
  ((Binary64.ofRatio negative significand 1).bind fun x => scaled x exponent 4).map .real

/-- The number of a literal. Digits that do not fit in 64 bits only raise the exponent before the
point, and are left out after it. -/
def numberOfLiteral (literal : List Char) : Option Number :=
  let (negative, rest) :=
    match literal with
    | '-' :: rest => (true, rest)
    | rest => (false, rest)
  let (whole, rest) := (rest.takeWhile Char.isDigit, rest.dropWhile Char.isDigit)
  let (significand, dropped) := accumulate 0 whole
  let (fraction, rest) :=
    match rest with
    | '.' :: rest => (rest.takeWhile Char.isDigit, rest.dropWhile Char.isDigit)
    | rest => ([], rest)
  let (significand, skipped) := accumulate significand fraction
  let base : Int := dropped.length - (fraction.length - skipped.length : Nat)
  match rest with
  | [] =>
    if fraction.isEmpty && dropped.isEmpty then
      if !negative then some (.natural significand)
      else if significand = 0 || smallestSize < significand then realOfParts true significand 0
      else some (.negative significand)
    else realOfParts negative significand base
  | _ :: rest =>
    let (down, digits) :=
      match rest with
      | '-' :: digits => (true, digits)
      | '+' :: digits => (false, digits)
      | digits => (false, digits)
    let shift : Int := digits.foldl (fun n c => 10 * n + (c.toNat - '0'.toNat)) 0
    realOfParts negative significand (if down then base - shift else base + shift)

def hexValue? (c : Char) : Option Nat :=
  if c.isDigit then some (c.toNat - '0'.toNat)
  else if 'a' ≤ c && c ≤ 'f' then some (c.toNat - 'a'.toNat + 10)
  else if 'A' ≤ c && c ≤ 'F' then some (c.toNat - 'A'.toNat + 10)
  else none

def hexUnit? (a b c d : Char) : Option Nat := do
  let a ← hexValue? a
  let b ← hexValue? b
  let c ← hexValue? c
  let d ← hexValue? d
  return ((a * 16 + b) * 16 + c) * 16 + d

def shortEscape? : Char → Option Char
  | '"' => some '"'
  | '\\' => some '\\'
  | '/' => some '/'
  | 'b' => some '\x08'
  | 'f' => some '\x0c'
  | 'n' => some '\n'
  | 'r' => some '\r'
  | 't' => some '\t'
  | _ => none

/-- A text being read: its characters in reverse, a first half of a surrogate pair that waits for
the second, and whether all halves so far found each other. -/
structure OpenText where
  done : List Char
  high : Option Nat
  paired : Bool
  deriving Repr

namespace OpenText

def start : OpenText := ⟨[], none, true⟩

def push (t : OpenText) (c : Char) : OpenText :=
  ⟨c :: t.done, none, t.paired && t.high.isNone⟩

def pushUnit (t : OpenText) (unit : Nat) : OpenText :=
  if 0xD800 ≤ unit && unit < 0xDC00 then ⟨t.done, some unit, t.paired && t.high.isNone⟩
  else if 0xDC00 ≤ unit && unit < 0xE000 then
    match t.high with
    | some high =>
      ⟨Char.ofNat (0x10000 + (high - 0xD800) * 0x400 + (unit - 0xDC00)) :: t.done, none, t.paired⟩
    | none => ⟨t.done, none, false⟩
  else t.push (Char.ofNat unit)

def isSound (t : OpenText) : Bool :=
  t.paired && t.high.isNone

def close (t : OpenText) : Token :=
  .text (if t.isSound then some (String.ofList t.done.reverse) else none)

/-- The token of a text that breaks off. A broken pair before the break counts first. -/
def breakOff (t : OpenText) (fault : Fault) : Token :=
  .badText (if t.paired then fault else .malformed)

end OpenText

inductive Mode where
  | between
  | word (expected : List Char) (value : Json)
  | text (t : OpenText)
  | number (stage : NumberStage) (seen : List Char)
  | over
  deriving Repr

def begin (c : Char) : List Token × Mode :=
  match c with
  | ' ' => ([], .between)
  | '\t' => ([], .between)
  | '\n' => ([], .between)
  | '\r' => ([], .between)
  | '[' => ([.openArray], .between)
  | ']' => ([.closeArray], .between)
  | '\x7b' => ([.openObject], .between)
  | '\x7d' => ([.closeObject], .between)
  | ',' => ([.comma], .between)
  | ':' => ([.colon], .between)
  | '"' => ([], .text .start)
  | 'n' => ([], .word ['u', 'l', 'l'] .null)
  | 't' => ([], .word ['r', 'u', 'e'] (.bool true))
  | 'f' => ([], .word ['a', 'l', 's', 'e'] (.bool false))
  | c =>
    match NumberStage.start? c with
    | some stage => ([], .number stage [c])
    | none => ([.bad .malformed], .over)

def numberToken (seen : List Char) : Token :=
  .scalar (((numberOfLiteral seen.reverse).map Json.number).getD (.flawed none))

def finish : Mode → List Token
  | .between => []
  | .word _ _ => [.bad .truncated]
  | .text t => [t.breakOff .truncated]
  | .number stage seen => if stage.isComplete then [numberToken seen] else [.bad .truncated]
  | .over => []

/-- The tokens of a text. Four hexadecimal digits follow `\u`; a text that ends within four bytes
of it is taken to break off there. -/
def tokens : Mode → List Char → List Token
  | mode, [] => finish mode
  | .over, _ :: _ => []
  | .between, c :: cs => (begin c).1 ++ tokens (begin c).2 cs
  | .word expected value, c :: cs =>
    match expected with
    | [] => (begin c).1 ++ tokens (begin c).2 cs
    | [last] => if c = last then .scalar value :: tokens .between cs else [.bad .malformed]
    | next :: more => if c = next then tokens (.word more value) cs else [.bad .malformed]
  | .number stage seen, c :: cs =>
    match stage.next? c with
    | some stage => tokens (.number stage (c :: seen)) cs
    | none =>
      if stage.endsBefore c then numberToken seen :: (begin c).1 ++ tokens (begin c).2 cs
      else [.bad .malformed]
  | .text t, '"' :: cs => t.close :: tokens .between cs
  | .text t, '\\' :: 'u' :: a :: b :: c :: d :: cs =>
    match hexUnit? a b c d with
    | some unit => tokens (.text (t.pushUnit unit)) cs
    | none => [.bad .malformed]
  | .text t, '\\' :: 'u' :: cs =>
    [if (String.ofList cs).utf8ByteSize < 4 then t.breakOff .truncated else .bad .malformed]
  | .text t, '\\' :: c :: cs =>
    match shortEscape? c with
    | some c => tokens (.text (t.push c)) cs
    | none => [.bad .malformed]
  | .text t, ['\\'] => [t.breakOff .truncated]
  | .text t, c :: cs =>
    if c.toNat < 0x20 then [.bad .malformed] else tokens (.text (t.push c)) cs

end StyleAudit.Json
