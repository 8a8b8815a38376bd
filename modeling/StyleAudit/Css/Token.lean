/-!
# CSS tokens

The tokens of CSS text. Comments separate tokens and leave no trace. A string or an escape that
the text ends in is closed there.
-/

namespace StyleAudit.Css

set_option autoImplicit false

/-- A number as it was written: `± digits * 10 ^ exponent`. -/
structure Numeral where
  signed : Bool
  negative : Bool
  digits : Nat
  exponent : Int
  whole : Bool
  deriving Repr, DecidableEq

inductive Token where
  | ident (name : String)
  | function (name : String)
  | atKeyword (name : String)
  | hash (name : String) (isName : Bool)
  | string (value : String)
  | badString
  | url (value : String)
  | badUrl
  | number (n : Numeral)
  | percentage (n : Numeral)
  | dimension (n : Numeral) (unit : String)
  | whitespace
  | colon
  | semicolon
  | comma
  | openParen
  | closeParen
  | openSquare
  | closeSquare
  | openCurly
  | closeCurly
  | includesMatch
  | dashMatch
  | startMatch
  | endMatch
  | partMatch
  | commentOpen
  | commentClose
  | delim (c : Char)
  deriving Repr, DecidableEq, Inhabited

def isSpace (c : Char) : Bool :=
  c == ' ' || c == '\t' || c == '\n' || c == '\r' || c == '\x0c'

def isNewline (c : Char) : Bool :=
  c == '\n' || c == '\r' || c == '\x0c'

def isNameStart (c : Char) : Bool :=
  c.isAlpha || c == '_' || 0x80 ≤ c.toNat

def isNameChar (c : Char) : Bool :=
  isNameStart c || c.isDigit || c == '-'

def hexValue? (c : Char) : Option Nat :=
  if c.isDigit then some (c.toNat - '0'.toNat)
  else if 'a' ≤ c && c ≤ 'f' then some (c.toNat - 'a'.toNat + 10)
  else if 'A' ≤ c && c ≤ 'F' then some (c.toNat - 'A'.toNat + 10)
  else none

def replacementChar : Char := Char.ofNat 0xFFFD

/-- A backslash begins an escape unless a line ends behind it. -/
def startsEscape : List Char → Bool
  | '\\' :: c :: _ => !isNewline c
  | ['\\'] => true
  | _ => false

def startsName : List Char → Bool
  | '-' :: '-' :: _ => true
  | '-' :: c :: cs => isNameStart c || startsEscape (c :: cs)
  | c :: cs => isNameStart c || startsEscape (c :: cs)
  | [] => false

def startsNumber : List Char → Bool
  | '.' :: d :: _ => d.isDigit
  | '+' :: '.' :: d :: _ => d.isDigit
  | '-' :: '.' :: d :: _ => d.isDigit
  | '+' :: d :: _ => d.isDigit
  | '-' :: d :: _ => d.isDigit
  | d :: _ => d.isDigit
  | [] => false

def dropOneSpace : List Char → List Char
  | '\r' :: '\n' :: cs => cs
  | c :: cs => if isSpace c then cs else c :: cs
  | [] => []

def hexRun (limit : Nat) (cs : List Char) : List Char :=
  (cs.take limit).takeWhile fun c => (hexValue? c).isSome

def escaped (cs : List Char) : Char × List Char :=
  match cs with
  | [] => (replacementChar, [])
  | c :: rest =>
    let digits := hexRun 6 cs
    if digits.isEmpty then (c, rest)
    else
      let code := digits.foldl (fun n d => 16 * n + (hexValue? d).getD 0) 0
      let valid := code != 0 && code ≤ 0x10FFFF && !(0xD800 ≤ code && code ≤ 0xDFFF)
      (if valid then Char.ofNat code else replacementChar, dropOneSpace (cs.drop digits.length))

def takeName : Nat → List Char → List Char × List Char
  | 0, cs => ([], cs)
  | fuel + 1, cs =>
    match cs with
    | [] => ([], [])
    | c :: rest =>
      if isNameChar c then
        let (name, rest) := takeName fuel rest
        (c :: name, rest)
      else if startsEscape cs then
        let (e, rest) := escaped rest
        let (name, rest) := takeName fuel rest
        (e :: name, rest)
      else ([], cs)

/-- The characters up to the closing quote and the rest. A line end inside makes no string. -/
def takeString (quote : Char) : Nat → List Char → Option (List Char) × List Char
  | 0, cs => (some [], cs)
  | fuel + 1, cs =>
    match cs with
    | [] => (some [], [])
    | '\\' :: '\r' :: '\n' :: rest => takeString quote fuel rest
    | ['\\'] => (some [], [])
    | '\\' :: c :: rest =>
      if isNewline c then takeString quote fuel rest
      else
        let (e, rest) := escaped (c :: rest)
        let (value, rest) := takeString quote fuel rest
        (value.map (e :: ·), rest)
    | c :: rest =>
      if c = quote then (some [], rest)
      else if isNewline c then (none, cs)
      else
        let (value, rest) := takeString quote fuel rest
        (value.map (c :: ·), rest)

def skipComment : List Char → List Char
  | '*' :: '/' :: cs => cs
  | _ :: cs => skipComment cs
  | [] => []

def digitsValue (cs : List Char) : Nat :=
  cs.foldl (fun n c => 10 * n + (c.toNat - '0'.toNat)) 0

def takeExponent : List Char → Option (Int × List Char)
  | e :: cs =>
    if e = 'e' || e = 'E' then
      let (negative, rest) :=
        match cs with
        | '-' :: rest => (true, rest)
        | '+' :: rest => (false, rest)
        | rest => (false, rest)
      let digits := rest.takeWhile Char.isDigit
      if digits.isEmpty then none
      else
        let value : Int := digitsValue digits
        some (if negative then -value else value, rest.dropWhile Char.isDigit)
    else none
  | [] => none

def takeNumber (cs : List Char) : Numeral × List Char :=
  let (signed, negative, rest) :=
    match cs with
    | '-' :: rest => (true, true, rest)
    | '+' :: rest => (true, false, rest)
    | rest => (false, false, rest)
  let whole := rest.takeWhile Char.isDigit
  let rest := rest.dropWhile Char.isDigit
  let (fraction, rest) :=
    match rest with
    | '.' :: d :: more =>
      if d.isDigit then ((d :: more).takeWhile Char.isDigit, (d :: more).dropWhile Char.isDigit)
      else ([], rest)
    | rest => ([], rest)
  let digits := digitsValue (whole ++ fraction)
  match takeExponent rest with
  | some (exponent, rest) => (⟨signed, negative, digits, exponent - fraction.length, false⟩, rest)
  | none => (⟨signed, negative, digits, -fraction.length, fraction.isEmpty⟩, rest)

def skipBadUrl : Nat → List Char → List Char
  | 0, cs => cs
  | fuel + 1, cs =>
    match cs with
    | [] => []
    | ')' :: rest => rest
    | c :: rest =>
      if startsEscape cs then skipBadUrl fuel (escaped rest).2
      else
        let _ := c
        skipBadUrl fuel rest

def takeUrl : Nat → List Char → Option (List Char) × List Char
  | 0, cs => (some [], cs)
  | fuel + 1, cs =>
    match cs with
    | [] => (some [], [])
    | ')' :: rest => (some [], rest)
    | c :: rest =>
      if isSpace c then
        match rest.dropWhile isSpace with
        | [] => (some [], [])
        | ')' :: rest => (some [], rest)
        | rest => (none, skipBadUrl fuel rest)
      else if startsEscape cs then
        let (e, rest) := escaped rest
        let (value, rest) := takeUrl fuel rest
        (value.map (e :: ·), rest)
      else if c = '"' || c = '\'' || c = '(' || c = '\\' || c.toNat < 0x20 || c.toNat = 0x7F then
        (none, skipBadUrl fuel cs)
      else
        let (value, rest) := takeUrl fuel rest
        (value.map (c :: ·), rest)

def startsQuoted : List Char → Bool
  | '"' :: _ => true
  | '\'' :: _ => true
  | _ => false

/-- The token of a name: a plain name, a function or an unquoted url. -/
def nameToken (fuel : Nat) (cs : List Char) : Token × List Char :=
  let (name, rest) := takeName fuel cs
  match rest with
  | '(' :: inside =>
    if name.map Char.toLower = ['u', 'r', 'l'] && !startsQuoted (inside.dropWhile isSpace) then
      match takeUrl fuel (inside.dropWhile isSpace) with
      | (some value, rest) => (.url (String.ofList value), rest)
      | (none, rest) => (.badUrl, rest)
    else (.function (String.ofList name), inside)
  | rest => (.ident (String.ofList name), rest)

def numberToken (fuel : Nat) (cs : List Char) : Token × List Char :=
  let (n, rest) := takeNumber cs
  match rest with
  | '%' :: rest => (.percentage n, rest)
  | rest =>
    if startsName rest then
      let (unit, rest) := takeName fuel rest
      (.dimension n (String.ofList unit), rest)
    else (.number n, rest)

/-- The token at the front of a text that is not empty, and the rest. A comment gives none. -/
def takeToken (fuel : Nat) (c : Char) (cs : List Char) : Option Token × List Char :=
  let whole := c :: cs
  match whole with
  | '/' :: '*' :: rest => (none, skipComment rest)
  | '~' :: '=' :: rest => (some .includesMatch, rest)
  | '|' :: '=' :: rest => (some .dashMatch, rest)
  | '^' :: '=' :: rest => (some .startMatch, rest)
  | '$' :: '=' :: rest => (some .endMatch, rest)
  | '*' :: '=' :: rest => (some .partMatch, rest)
  | '<' :: '!' :: '-' :: '-' :: rest => (some .commentOpen, rest)
  | _ =>
    if isSpace c then (some .whitespace, cs.dropWhile isSpace)
    else if c = '"' || c = '\'' then
      match takeString c fuel cs with
      | (some value, rest) => (some (.string (String.ofList value)), rest)
      | (none, rest) => (some .badString, rest)
    else if startsNumber whole then
      let (token, rest) := numberToken fuel whole
      (some token, rest)
    else if whole.take 3 = ['-', '-', '>'] then (some .commentClose, whole.drop 3)
    else if startsName whole then
      let (token, rest) := nameToken fuel whole
      (some token, rest)
    else
      match c with
      | '#' =>
        match cs with
        | d :: _ =>
          if isNameChar d || startsEscape cs then
            let (name, rest) := takeName fuel cs
            (some (.hash (String.ofList name) (startsName cs)), rest)
          else (some (.delim '#'), cs)
        | [] => (some (.delim '#'), cs)
      | '@' =>
        if startsName cs then
          let (name, rest) := takeName fuel cs
          (some (.atKeyword (String.ofList name)), rest)
        else (some (.delim '@'), cs)
      | ':' => (some .colon, cs)
      | ';' => (some .semicolon, cs)
      | ',' => (some .comma, cs)
      | '(' => (some .openParen, cs)
      | ')' => (some .closeParen, cs)
      | '[' => (some .openSquare, cs)
      | ']' => (some .closeSquare, cs)
      | '\x7b' => (some .openCurly, cs)
      | '\x7d' => (some .closeCurly, cs)
      | c => (some (.delim c), cs)

def tokensFrom : Nat → List Char → List Token
  | 0, _ => []
  | fuel + 1, cs =>
    match cs with
    | [] => []
    | c :: rest =>
      let (token, rest) := takeToken (rest.length + 1) c rest
      token.toList ++ tokensFrom fuel rest

/-- The tokens of a text. Every token takes at least one character. -/
def tokens (text : String) : List Token :=
  let cs := text.toList.map fun c => if c = '\x00' then replacementChar else c
  tokensFrom (cs.length + 1) cs

def closer? : Token → Option Token
  | .function _ => some .closeParen
  | .openParen => some .closeParen
  | .openSquare => some .closeSquare
  | .openCurly => some .closeCurly
  | _ => none

/-- The tokens up to the one that closes the innermost of the open blocks, and the rest behind it.
A closing token that matches no open block is an ordinary one. A block that the text ends in is
closed there. -/
def takeBlock : List Token → List Token → List Token × List Token
  | [], rest => ([], rest)
  | _ :: _, [] => ([], [])
  | close :: outer, token :: rest =>
    if token = close then
      match outer with
      | [] => ([], rest)
      | outer =>
        let (inside, rest) := takeBlock outer rest
        (token :: inside, rest)
    else
      match closer? token with
      | some inner =>
        let (inside, rest) := takeBlock (inner :: close :: outer) rest
        (token :: inside, rest)
      | none =>
        let (inside, rest) := takeBlock (close :: outer) rest
        (token :: inside, rest)

end StyleAudit.Css
