import StyleAudit.Css.Color

/-!
# Written values

How names, strings, numbers and sequences of component values are written. Numbers have at most six
digits and no useless zeros. In a sequence, white space and comments become single blanks, commas
have one blank behind them, and colors that are given by digits or by a function are written in
their shortest form.
-/

namespace StyleAudit.Css

set_option autoImplicit false

def hexEscape (c : Char) : List Char :=
  '\\' :: Nat.toDigits 16 c.toNat ++ [' ']

def isControl (c : Char) : Bool :=
  c.toNat < 0x20 || c.toNat == 0x7F

def nameCharText (c : Char) : List Char :=
  if isNameChar c then [c] else if isControl c then hexEscape c else ['\\', c]

def startText (c : Char) : List Char :=
  if c.isDigit then hexEscape c else nameCharText c

/-- A name so that it reads back as a name: no digit stands at its start, nor does a lone dash. -/
def nameText (name : String) : List Char :=
  match name.toList with
  | ['-'] => ['\\', '-']
  | '-' :: '-' :: cs => '-' :: '-' :: cs.flatMap nameCharText
  | '-' :: c :: cs => '-' :: startText c ++ cs.flatMap nameCharText
  | c :: cs => startText c ++ cs.flatMap nameCharText
  | [] => []

def stringCharText (c : Char) : List Char :=
  if c = '"' then ['\\', '"'] else if c = '\\' then ['\\', '\\']
  else if isControl c then hexEscape c else [c]

def stringText (value : String) : List Char :=
  '"' :: value.toList.flatMap stringCharText ++ ['"']

structure Decimal where
  digits : Nat
  exponent : Int

namespace Decimal

def precision : Nat := 6

def trimmed : Nat → Decimal → Decimal
  | 0, d => d
  | fuel + 1, d =>
    if d.digits != 0 && d.digits % 10 == 0 then trimmed fuel ⟨d.digits / 10, d.exponent + 1⟩ else d

/-- The number with as many digits as are kept, a half going up, and without zeros at the end. -/
def rounded (d : Decimal) : Decimal :=
  let length := (Nat.toDigits 10 d.digits).length
  let excess := length - precision
  let digits := (d.digits + Nat.pow 10 excess / 2) / Nat.pow 10 excess
  trimmed (length + 1) ⟨digits, d.exponent + excess⟩

/-- The digits with a point where it belongs, and a zero before the point if nothing else is. -/
def text (d : Decimal) : List Char :=
  let digits := Nat.toDigits 10 d.digits
  if 0 ≤ d.exponent then digits ++ List.replicate d.exponent.toNat '0'
  else
    let places := (-d.exponent).toNat
    let padded := List.replicate (places + 1 - digits.length) '0' ++ digits
    padded.take (padded.length - places) ++ '.' :: padded.drop (padded.length - places)

end Decimal

/-- The powers of ten beyond which a number counts as the largest there is, or as zero. -/
def greatestPower : Int := 39

def leastPower : Int := -45

def Numeral.decimal (n : Numeral) : Decimal :=
  let d := Decimal.rounded ⟨n.digits, n.exponent⟩
  let power := d.exponent + (Nat.toDigits 10 d.digits).length
  if d.digits = 0 || power < leastPower then ⟨0, 0⟩
  else if greatestPower < power then ⟨340282, 33⟩
  else d

def Numeral.isZero (n : Numeral) : Bool :=
  n.decimal.digits == 0

def signText (n : Numeral) : List Char :=
  if n.negative && !n.isZero then ['-'] else []

def plainNumberText (n : Numeral) : List Char :=
  signText n ++ n.decimal.text

def numberText (n : Numeral) : List Char :=
  signText n ++
    match n.decimal.text with
    | '0' :: '.' :: places => '.' :: places
    | text => text

def lowered (name : String) : String :=
  Text.asciiLower name

def lengthUnits : List String :=
  ["px", "in", "cm", "mm", "q", "pt", "pc", "em", "rem", "ex", "rex", "ch", "rch", "cap", "rcap",
    "ic", "ric", "lh", "rlh", "vw", "lvw", "svw", "dvw", "cqw", "vh", "lvh", "svh", "dvh", "cqh",
    "vi", "svi", "lvi", "dvi", "cqi", "vb", "svb", "lvb", "dvb", "cqb", "vmin", "svmin", "lvmin",
    "dvmin", "cqmin", "vmax", "svmax", "lvmax", "dvmax", "cqmax"]

def isLengthUnit (unit : String) : Bool :=
  lengthUnits.contains (lowered unit)

def unitText (unit : String) : List Char :=
  if lowered unit == "q" then ['Q'] else (lowered unit).toList

/-- How a token stands in a sequence, if it can stand there at all. -/
def tokenText? : Token → Option (List Char)
  | .ident name => some (nameText name)
  | .function name => some (nameText name ++ ['('])
  | .atKeyword name => some ('@' :: nameText name)
  | .hash name _ =>
    match Color.ofDigits? name with
    | some color => some color.text.toList
    | none => some ('#' :: name.toList.flatMap nameCharText)
  | .string value => some (stringText value)
  | .badString => none
  | .url value => some ("url(".toList ++ stringText value ++ [')'])
  | .badUrl => none
  | .number n => some (plainNumberText n)
  | .percentage n => some (plainNumberText n ++ ['%'])
  | .dimension n unit =>
    if isLengthUnit unit then some (numberText n ++ unitText unit)
    else some (plainNumberText n ++ nameText unit)
  | .whitespace => some [' ']
  | .colon => some [':']
  | .semicolon => some [';']
  | .comma => some [',', ' ']
  | .openParen => some ['(']
  | .closeParen => none
  | .openSquare => some ['[']
  | .closeSquare => none
  | .openCurly => some ['\x7b']
  | .closeCurly => none
  | .includesMatch => some ['~', '=']
  | .dashMatch => some ['|', '=']
  | .startMatch => some ['^', '=']
  | .endMatch => some ['$', '=']
  | .partMatch => some ['*', '=']
  | .commentOpen => some "<!--".toList
  | .commentClose => some "-->".toList
  | .delim c => if ['+', '-', '/', '*'].contains c then some [' ', c, ' '] else some [c, ' ']

/-- Commas and single characters take the white space around them in. -/
def takesSpace : Component → Bool
  | .token .comma => true
  | .token (.delim _) => true
  | _ => false

def closingText : Token → List Char
  | .openSquare => [']']
  | .openCurly => ['\x7d']
  | _ => [')']

mutual

def componentText? : Component → Option (List Char)
  | .token token => tokenText? token
  | .block opening inside =>
    match Color.ofComponent? (.block opening inside) with
    | some color => some color.text.toList
    | none => do
      let opened ← tokenText? opening
      let content ← sequenceText? false inside
      return opened ++ content ++ closingText opening

/-- A sequence, given whether white space at its start was taken in by what stands before it. -/
def sequenceText? (taken : Bool) : List Component → Option (List Char)
  | [] => some []
  | component :: rest =>
    if component.isSpace then
      let takenByNext := match rest with
        | next :: _ => next.isSpace || takesSpace next
        | [] => false
      if taken || takenByNext then sequenceText? taken rest
      else (sequenceText? false rest).map fun others => ' ' :: others
    else do
      let first ← componentText? component
      let others ← sequenceText? (takesSpace component) rest
      return first ++ others

end

def trimmed (components : List Component) : List Component :=
  ((components.dropWhile Component.isSpace).reverse.dropWhile Component.isSpace).reverse

def valueText? (components : List Component) : Option String :=
  (sequenceText? false (trimmed components)).map String.ofList

end StyleAudit.Css
