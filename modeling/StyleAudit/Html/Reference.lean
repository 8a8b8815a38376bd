/-!
# Character references

The references in texts and attribute values of HTML: by number, in either base, and by the names
that markup cannot do without.
-/

namespace StyleAudit.Html

set_option autoImplicit false

def replacement : Char := Char.ofNat 0xFFFD

/-- The characters that the numbers from 0x80 on stand for, by the code page that the web goes by.
Zero marks a number that stands for itself. -/
def codePage : List Nat :=
  [0x20AC, 0, 0x201A, 0x0192, 0x201E, 0x2026, 0x2020, 0x2021, 0x02C6, 0x2030, 0x0160, 0x2039,
    0x0152, 0, 0x017D, 0, 0, 0x2018, 0x2019, 0x201C, 0x201D, 0x2022, 0x2013, 0x2014, 0x02DC,
    0x2122, 0x0161, 0x203A, 0x0153, 0, 0x017E, 0x0178]

/-- The character that a number stands for. -/
def charOfNumber (n : Nat) : Char :=
  if n = 0 || 0x10FFFF < n || (0xD800 ≤ n && n ≤ 0xDFFF) then replacement
  else if 0x80 ≤ n && n ≤ 0x9F then
    match codePage[n - 0x80]? with
    | some 0 => Char.ofNat n
    | some m => Char.ofNat m
    | none => Char.ofNat n
  else Char.ofNat n

structure NamedReference where
  name : List Char
  char : Char
  needsSemicolon : Bool

def namedReferences : List NamedReference :=
  [⟨"amp".toList, '&', false⟩, ⟨"lt".toList, '<', false⟩, ⟨"gt".toList, '>', false⟩,
    ⟨"quot".toList, '"', false⟩, ⟨"apos".toList, '\'', true⟩, ⟨"nbsp".toList, '\u00a0', false⟩,
    ⟨"AMP".toList, '&', false⟩, ⟨"LT".toList, '<', false⟩, ⟨"GT".toList, '>', false⟩,
    ⟨"QUOT".toList, '"', false⟩]

def hexValue? (c : Char) : Option Nat :=
  if c.isDigit then some (c.toNat - '0'.toNat)
  else if 'a' ≤ c && c ≤ 'f' then some (c.toNat - 'a'.toNat + 10)
  else if 'A' ≤ c && c ≤ 'F' then some (c.toNat - 'A'.toNat + 10)
  else none

def dropSemicolon : List Char → List Char
  | ';' :: rest => rest
  | rest => rest

def takeNumber? (base : Nat) (digit? : Char → Option Nat) (cs : List Char) :
    Option (Char × List Char) :=
  let digits := cs.takeWhile fun c => (digit? c).isSome
  if digits.isEmpty then none
  else
    let value := digits.foldl (fun n c => base * n + (digit? c).getD 0) 0
    some (charOfNumber value, dropSemicolon (cs.dropWhile fun c => (digit? c).isSome))

def decimalValue? (c : Char) : Option Nat :=
  if c.isDigit then some (c.toNat - '0'.toNat) else none

/-- The character of a name and what follows it. In an attribute value a name without a semicolon
is no reference if it could go on. -/
def takeNamed? (inAttribute : Bool) (cs : List Char) : Option (Char × List Char) :=
  let word := cs.takeWhile Char.isAlphanum
  let rest := cs.dropWhile Char.isAlphanum
  match rest, namedReferences.find? fun reference => reference.name == word with
  | ';' :: rest, some reference => some (reference.char, rest)
  | _, _ =>
    match namedReferences.find? fun reference =>
        !reference.needsSemicolon && reference.name.isPrefixOf word with
    | none => none
    | some reference =>
      let rest := cs.drop reference.name.length
      let goesOn := match rest with
        | c :: _ => c == '=' || c.isAlphanum
        | [] => false
      if inAttribute && goesOn then none else some (reference.char, rest)

def takeReference? (inAttribute : Bool) : List Char → Option (Char × List Char)
  | '#' :: 'x' :: cs => takeNumber? 16 hexValue? cs
  | '#' :: 'X' :: cs => takeNumber? 16 hexValue? cs
  | '#' :: cs => takeNumber? 10 decimalValue? cs
  | cs => takeNamed? inAttribute cs

def decodeFrom (inAttribute : Bool) : Nat → List Char → List Char
  | 0, cs => cs
  | fuel + 1, cs =>
    match cs with
    | [] => []
    | '&' :: rest =>
      match takeReference? inAttribute rest with
      | some (c, rest) => c :: decodeFrom inAttribute fuel rest
      | none => '&' :: decodeFrom inAttribute fuel rest
    | c :: rest => c :: decodeFrom inAttribute fuel rest

def decode (inAttribute : Bool) (cs : List Char) : List Char :=
  decodeFrom inAttribute (cs.length + 1) cs

end StyleAudit.Html
