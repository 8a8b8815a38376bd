import StyleAudit.Json.Basic
import StyleAudit.Binary64.Shortest

/-!
# Writing JSON text

Values on one line, and values over several lines with two blanks of indentation a level. Members
keep their order. Only quotes, backslashes and control characters are escaped.
-/

namespace StyleAudit.Json

set_option autoImplicit false

def hexDigit (n : Nat) : Char :=
  Char.ofNat (if n < 10 then '0'.toNat + n else 'a'.toNat + (n - 10))

def escapeChar (c : Char) : List Char :=
  match c with
  | '"' => ['\\', '"']
  | '\\' => ['\\', '\\']
  | '\x08' => ['\\', 'b']
  | '\x0c' => ['\\', 'f']
  | '\n' => ['\\', 'n']
  | '\r' => ['\\', 'r']
  | '\t' => ['\\', 't']
  | c =>
    if c.toNat < 0x20 then
      ['\\', 'u', '0', '0', hexDigit (c.toNat / 16), hexDigit (c.toNat % 16)]
    else [c]

def textChars (s : String) : List Char :=
  '"' :: s.toList.flatMap escapeChar ++ ['"']

def numberChars : Number → List Char
  | .natural n => Nat.toDigits 10 n
  | .negative magnitude => '-' :: Nat.toDigits 10 magnitude
  | .real x => x.text.toList

def boolChars : Bool → List Char
  | true => ['t', 'r', 'u', 'e']
  | false => ['f', 'a', 'l', 's', 'e']

def nullChars : List Char := ['n', 'u', 'l', 'l']

mutual

/-- The value on one line. What could not be read is written as null. -/
def compactChars : Json → List Char
  | null => nullChars
  | bool b => boolChars b
  | number n => numberChars n
  | text s => textChars s
  | array items => '[' :: compactItems items ++ [']']
  | object members => '\x7b' :: compactMembers members ++ ['\x7d']
  | unread _ => nullChars
  | flawed _ => nullChars

def compactItems : List Json → List Char
  | [] => []
  | [item] => compactChars item
  | item :: rest => compactChars item ++ ',' :: compactItems rest

def compactMembers : List (String × Json) → List Char
  | [] => []
  | [(name, value)] => textChars name ++ ':' :: compactChars value
  | (name, value) :: rest =>
    textChars name ++ ':' :: compactChars value ++ ',' :: compactMembers rest

end

def lineBreak (level : Nat) : List Char :=
  '\n' :: List.replicate (2 * level) ' '

mutual

/-- The value over several lines, begun at a level. Empty containers stay on their line. -/
def prettyChars (level : Nat) : Json → List Char
  | null => nullChars
  | bool b => boolChars b
  | number n => numberChars n
  | text s => textChars s
  | array items =>
    match items with
    | [] => ['[', ']']
    | item :: rest => '[' :: prettyItems level (item :: rest)
  | object members =>
    match members with
    | [] => ['\x7b', '\x7d']
    | member :: rest => '\x7b' :: prettyMembers level (member :: rest)
  | unread _ => nullChars
  | flawed _ => nullChars

def prettyItems (level : Nat) : List Json → List Char
  | [] => lineBreak level ++ [']']
  | [item] => lineBreak (level + 1) ++ prettyChars (level + 1) item ++ lineBreak level ++ [']']
  | item :: rest =>
    lineBreak (level + 1) ++ prettyChars (level + 1) item ++ ',' :: prettyItems level rest

def prettyMembers (level : Nat) : List (String × Json) → List Char
  | [] => lineBreak level ++ ['\x7d']
  | [(name, value)] =>
    lineBreak (level + 1) ++ textChars name ++ ':' :: ' ' :: prettyChars (level + 1) value ++
      lineBreak level ++ ['\x7d']
  | (name, value) :: rest =>
    lineBreak (level + 1) ++ textChars name ++ ':' :: ' ' :: prettyChars (level + 1) value ++
      ',' :: prettyMembers level rest

end

def compact (value : Json) : String :=
  String.ofList (compactChars value)

def pretty (value : Json) : String :=
  String.ofList (prettyChars 0 value)

mutual

def sorted : Json → Json
  | array items => array (sortedItems items)
  | object members =>
    object ((sortedMembers members).mergeSort fun a b => decide (a.1 ≤ b.1))
  | null => null
  | bool b => bool b
  | number n => number n
  | text s => text s
  | unread fault => unread fault
  | flawed rest => flawed rest

def sortedItems : List Json → List Json
  | [] => []
  | item :: rest => item.sorted :: sortedItems rest

def sortedMembers : List (String × Json) → List (String × Json)
  | [] => []
  | (name, value) :: rest => (name, value.sorted) :: sortedMembers rest

end

end StyleAudit.Json
