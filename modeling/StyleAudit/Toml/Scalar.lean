import StyleAudit.Binary64.Literal

/-!
# TOML scalars

Strings in their four forms, and the numbers, truth values, dates and times, which are only checked.
-/

namespace StyleAudit.Toml

set_option autoImplicit false

def isBlank (c : Char) : Bool :=
  c == ' ' || c == '\t'

/-- A control character that may stand nowhere. The tab is not one of them. -/
def isControl (c : Char) : Bool :=
  (c.toNat < 0x20 && c != '\t') || c.toNat == 0x7F

def skipBlanks (cs : List Char) : List Char :=
  cs.dropWhile isBlank

def afterLineEnd? : List Char → Option (List Char)
  | '\n' :: rest => some rest
  | '\r' :: '\n' :: rest => some rest
  | _ => none

def hexValue? (c : Char) : Option Nat :=
  if c.isDigit then some (c.toNat - '0'.toNat)
  else if 'a' ≤ c && c ≤ 'f' then some (c.toNat - 'a'.toNat + 10)
  else if 'A' ≤ c && c ≤ 'F' then some (c.toNat - 'A'.toNat + 10)
  else none

def hexChar? (count : Nat) (cs : List Char) : Option (Char × List Char) := do
  let digits ← (cs.take count).mapM hexValue?
  guard (digits.length == count)
  let code := digits.foldl (fun n d => 16 * n + d) 0
  guard (code ≤ 0x10FFFF && !(0xD800 ≤ code && code ≤ 0xDFFF))
  return (Char.ofNat code, cs.drop count)

def escape? : List Char → Option (Char × List Char)
  | 'b' :: rest => some ('\x08', rest)
  | 't' :: rest => some ('\t', rest)
  | 'n' :: rest => some ('\n', rest)
  | 'f' :: rest => some ('\x0c', rest)
  | 'r' :: rest => some ('\r', rest)
  | '"' :: rest => some ('"', rest)
  | '\\' :: rest => some ('\\', rest)
  | 'u' :: rest => hexChar? 4 rest
  | 'U' :: rest => hexChar? 8 rest
  | _ => none

def takeLine? (quote : Char) : Nat → List Char → List Char → Option (List Char × List Char)
  | 0, _, _ => none
  | fuel + 1, value, cs =>
    match cs with
    | [] => none
    | c :: rest =>
      if c = quote then some (value.reverse, rest)
      else if c = '\\' && quote = '"' then do
        let (escaped, rest) ← escape? rest
        takeLine? quote fuel (escaped :: value) rest
      else if isControl c then none
      else takeLine? quote fuel (c :: value) rest

def skipLines : Nat → List Char → List Char
  | 0, cs => cs
  | fuel + 1, cs =>
    let cs := skipBlanks cs
    match afterLineEnd? cs with
    | some rest => skipLines fuel rest
    | none => cs

/-- The rest of a string over several lines, and what follows it. Two quotes may stand right before
the three that end it. -/
def takeLines? (quote : Char) : Nat → List Char → List Char → Option (List Char × List Char)
  | 0, _, _ => none
  | fuel + 1, value, cs =>
    match cs with
    | [] => none
    | c :: rest =>
      if c = quote then
        let count := (cs.takeWhile fun c => c == quote).length
        if 3 ≤ count then
          let kept := min (count - 3) 2
          some (value.reverse ++ List.replicate kept quote, cs.drop (3 + kept))
        else takeLines? quote fuel (List.replicate count quote ++ value) (cs.drop count)
      else if c = '\\' && quote = '"' then
        match afterLineEnd? (skipBlanks rest) with
        | some after => takeLines? quote fuel value (skipLines (after.length + 1) after)
        | none => do
          let (escaped, rest) ← escape? rest
          takeLines? quote fuel (escaped :: value) rest
      else
        match afterLineEnd? cs with
        | some after => takeLines? quote fuel ('\n' :: value) after
        | none => if isControl c then none else takeLines? quote fuel (c :: value) rest

def takeString? (quote : Char) (cs : List Char) : Option (String × List Char) := do
  let (value, rest) ←
    match cs with
    | a :: b :: rest =>
      if a = quote && b = quote then
        takeLines? quote (cs.length + 1) [] ((afterLineEnd? rest).getD rest)
      else takeLine? quote (cs.length + 1) [] cs
    | _ => takeLine? quote (cs.length + 1) [] cs
  return (String.ofList value, rest)

/-- Digits of a class, with single underscores only between two of them. -/
def areDigits (isDigit : Char → Bool) : List Char → Bool
  | [] => false
  | [c] => isDigit c
  | c :: '_' :: rest => isDigit c && areDigits isDigit rest
  | c :: rest => isDigit c && areDigits isDigit rest

def dropSign : List Char → List Char
  | '+' :: rest => rest
  | '-' :: rest => rest
  | cs => cs

/-- A whole number in base ten does not begin with a needless zero. -/
def isDecimal (cs : List Char) : Bool :=
  match cs with
  | ['0'] => true
  | '0' :: _ => false
  | cs => areDigits Char.isDigit cs

def valueIn (base : Nat) (cs : List Char) : Nat :=
  (cs.filterMap hexValue?).foldl (fun n d => base * n + d) 0

/-- Whole numbers lie between two to the power of 63 and its negation, which may be reached. -/
def integerBound : Nat := 9223372036854775808

def isInteger (cs : List Char) : Bool :=
  match cs with
  | '0' :: 'x' :: digits =>
    areDigits (fun c => (hexValue? c).isSome) digits && valueIn 16 digits < integerBound
  | '0' :: 'o' :: digits =>
    areDigits (fun c => '0' ≤ c && c ≤ '7') digits && valueIn 8 digits < integerBound
  | '0' :: 'b' :: digits =>
    areDigits (fun c => c == '0' || c == '1') digits && valueIn 2 digits < integerBound
  | '-' :: digits => isDecimal digits && valueIn 10 digits ≤ integerBound
  | cs => isDecimal (dropSign cs) && valueIn 10 (dropSign cs) < integerBound

def isExponentMark (c : Char) : Bool :=
  c == 'e' || c == 'E'

def hasFloatForm (cs : List Char) : Bool :=
  let cs := dropSign cs
  let mantissa := cs.takeWhile fun c => !isExponentMark c
  let exponent := cs.drop mantissa.length
  let whole := mantissa.takeWhile fun c => c != '.'
  let fraction := mantissa.drop whole.length
  isDecimal whole && (fraction.isEmpty || areDigits Char.isDigit (fraction.drop 1)) &&
    (exponent.isEmpty || areDigits Char.isDigit (dropSign (exponent.drop 1))) &&
    !(fraction.isEmpty && exponent.isEmpty)

/-- A number with a fraction or an exponent must not be beyond the largest one. -/
def isFloat (cs : List Char) : Bool :=
  let word := String.ofList (dropSign cs)
  word == "inf" || word == "nan" ||
    (hasFloatForm cs &&
      Binary64.literal? (cs.filter fun c => c != '_') != some (.infinite false))

def isBetween (low high : Nat) (digits : List Char) : Bool :=
  digits.all Char.isDigit && low ≤ valueIn 10 digits && valueIn 10 digits ≤ high

def isLeapYear (year : Nat) : Bool :=
  year % 4 == 0 && (year % 100 != 0 || year % 400 == 0)

def daysIn (year month : Nat) : Nat :=
  if month = 2 then if isLeapYear year then 29 else 28
  else if [4, 6, 9, 11].contains month then 30
  else 31

def isDate (cs : List Char) : Bool :=
  match cs with
  | [y, y', y'', y''', '-', m, m', '-', d, d'] =>
    let year := [y, y', y'', y''']
    year.all Char.isDigit && isBetween 1 12 [m, m'] &&
      isBetween 1 (daysIn (valueIn 10 year) (valueIn 10 [m, m'])) [d, d']
  | _ => false

def isTime (cs : List Char) : Bool :=
  match cs with
  | h :: h' :: ':' :: m :: m' :: ':' :: s :: s' :: fraction =>
    isBetween 0 23 [h, h'] && isBetween 0 59 [m, m'] && isBetween 0 60 [s, s'] &&
      match fraction with
      | [] => true
      | '.' :: digits => !digits.isEmpty && digits.all Char.isDigit
      | _ => false
  | _ => false

def isOffset (cs : List Char) : Bool :=
  match cs with
  | ['Z'] => true
  | ['z'] => true
  | [sign, h, h', ':', m, m'] =>
    (sign == '+' || sign == '-') && isBetween 0 23 [h, h'] && isBetween 0 59 [m, m']
  | _ => false

/-- A date, a time, or both, with or without an offset. -/
def isMoment (cs : List Char) : Bool :=
  let afterDate := cs.drop 11
  let time := afterDate.takeWhile fun c => !(['Z', 'z', '+', '-'].contains c)
  let offset := afterDate.drop time.length
  isDate cs || isTime cs ||
    (isDate (cs.take 10) && (cs.drop 10).head?.any (['T', 't', ' '].contains ·) && isTime time &&
      (offset.isEmpty || isOffset offset))

def isPlain (cs : List Char) : Bool :=
  cs == "true".toList || cs == "false".toList || isInteger cs || isFloat cs || isMoment cs

def isPlainChar (c : Char) : Bool :=
  c.isAlphanum || ['_', '+', '-', '.', ':'].contains c

/-- What follows a scalar without quotes. A blank may stand between a date and a time. -/
def afterPlain? (cs : List Char) : Option (List Char) :=
  let word := cs.takeWhile isPlainChar
  let rest := cs.drop word.length
  match rest with
  | ' ' :: d :: more =>
    if isDate word && d.isDigit then
      let time := (d :: more).takeWhile isPlainChar
      if isPlain (word ++ ' ' :: time) then some (rest.drop (time.length + 1)) else none
    else if isPlain word then some rest
    else none
  | _ => if isPlain word then some rest else none

end StyleAudit.Toml
