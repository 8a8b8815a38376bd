import StyleAudit.Toml.Scalar
import StyleAudit.Toml.Table

/-!
# Reading TOML

A document is read line by line: headers, and keys with their values. Arrays may go over several
lines; tables in braces may not.
-/

namespace StyleAudit.Toml

set_option autoImplicit false

def afterComment? (cs : List Char) : Option (List Char) :=
  match cs with
  | '#' :: rest =>
    let comment := rest.takeWhile fun c => c != '\n' && c != '\r'
    if comment.any isControl then none else some (rest.drop comment.length)
  | cs => some cs

def skipFiller? : Nat → List Char → Option (List Char)
  | 0, _ => none
  | fuel + 1, cs => do
    let rest ← afterComment? (skipBlanks cs)
    match afterLineEnd? rest with
    | some rest => skipFiller? fuel rest
    | none => return rest

/-- What follows the end of a line with nothing but a comment left on it. -/
def afterLine? (cs : List Char) : Option (List Char) := do
  let rest ← afterComment? (skipBlanks cs)
  if rest.isEmpty then return [] else afterLineEnd? rest

def isBareKeyChar (c : Char) : Bool :=
  c.isAlphanum || c == '_' || c == '-'

def takeLineText? (quote : Char) (cs : List Char) : Option (String × List Char) :=
  (takeLine? quote (cs.length + 1) [] cs).map fun (s, rest) => (String.ofList s, rest)

def takeKeyPart? (cs : List Char) : Option (String × List Char) :=
  match cs with
  | '"' :: rest => takeLineText? '"' rest
  | '\'' :: rest => takeLineText? '\'' rest
  | cs =>
    let name := cs.takeWhile isBareKeyChar
    if name.isEmpty then none else some (String.ofList name, cs.drop name.length)

/-- A key in one or several parts: the parts before the last, the last, and what follows. -/
def takeKey? : Nat → List Char → Option (List String × String × List Char)
  | 0, _ => none
  | fuel + 1, cs => do
    let (part, rest) ← takeKeyPart? (skipBlanks cs)
    match skipBlanks rest with
    | '.' :: rest => do
      let (path, key, rest) ← takeKey? fuel rest
      return (part :: path, key, rest)
    | rest => return ([], part, rest)

mutual

def takeValue? : Nat → List Char → Option (Value × List Char)
  | 0, _ => none
  | fuel + 1, cs =>
    match cs with
    | '"' :: rest => (takeString? '"' rest).map fun (s, rest) => (.text s, rest)
    | '\'' :: rest => (takeString? '\'' rest).map fun (s, rest) => (.text s, rest)
    | '[' :: rest => takeItems? fuel [] rest
    | '\x7b' :: rest =>
      match skipBlanks rest with
      | '\x7d' :: rest => some (.table .braces [], rest)
      | rest => takePairs? fuel [] rest
    | cs => (afterPlain? cs).map fun rest => (.plain, rest)

def takeItems? : Nat → List Value → List Char → Option (Value × List Char)
  | 0, _, _ => none
  | fuel + 1, done, cs => do
    match ← skipFiller? (cs.length + 1) cs with
    | ']' :: rest => return (.array done.reverse, rest)
    | cs => do
      let (item, rest) ← takeValue? fuel cs
      match ← skipFiller? (rest.length + 1) rest with
      | ',' :: rest => takeItems? fuel (item :: done) rest
      | ']' :: rest => return (.array (item :: done).reverse, rest)
      | _ => none

def takePairs? : Nat → Entries → List Char → Option (Value × List Char)
  | 0, _, _ => none
  | fuel + 1, done, cs => do
    let (path, key, rest) ← takeKey? (cs.length + 1) cs
    match rest with
    | '=' :: rest => do
      let (value, rest) ← takeValue? fuel (skipBlanks rest)
      let done ← addDotted? path key value .braces done
      match skipBlanks rest with
      | ',' :: rest => takePairs? fuel done rest
      | '\x7d' :: rest => return (.table .braces done, rest)
      | _ => none
    | _ => none

end

/-- A document so far: its entries and the header that is in force. -/
structure Draft where
  entries : Entries
  header : List String

def takeHeader? (closing : List Char) (cs : List Char) :
    Option (List String × String × List Char) := do
  let (path, key, rest) ← takeKey? (cs.length + 1) cs
  guard (closing.isPrefixOf rest)
  return (path, key, rest.drop closing.length)

def takeLine (d : Draft) (cs : List Char) : Option (Draft × List Char) :=
  match cs with
  | '[' :: '[' :: rest => do
    let (path, key, rest) ← takeHeader? [']', ']'] rest
    let entries ← enterPath? headerMayEnter .implied (beginNext? key) path .header d.entries
    return (⟨entries, path ++ [key]⟩, rest)
  | '[' :: rest => do
    let (path, key, rest) ← takeHeader? [']'] rest
    let entries ← enterPath? headerMayEnter .implied (beginTable? key) path .header d.entries
    return (⟨entries, path ++ [key]⟩, rest)
  | cs => do
    let (path, key, rest) ← takeKey? (cs.length + 1) cs
    match rest with
    | '=' :: rest => do
      let (value, rest) ← takeValue? (rest.length + 1) (skipBlanks rest)
      let entries ← enterPath? headerMayEnter .implied (addDotted? path key value) d.header .header
        d.entries
      return ({ d with entries := entries }, rest)
    | _ => none

def readLines? : Nat → Draft → List Char → Option Entries
  | 0, _, _ => none
  | fuel + 1, d, cs => do
    match ← skipFiller? (cs.length + 1) cs with
    | [] => return d.entries
    | cs => do
      let (d, rest) ← takeLine d cs
      readLines? fuel d (← afterLine? rest)

def read? (text : String) : Option Entries :=
  let cs := match text.toList with
    | c :: cs => if c.toNat = 0xFEFF then cs else c :: cs
    | [] => []
  readLines? (cs.length + 1) ⟨[], []⟩ cs

end StyleAudit.Toml
