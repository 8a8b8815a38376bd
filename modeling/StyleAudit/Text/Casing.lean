import StyleAudit.Text.CaseTables
import StyleAudit.Text.CasedRanges

/-!
# Upper and lower case

Case mappings of single characters and of whole texts. A mapping looks at one character at a time,
with one exception: the lower case of a whole text ends a word with the final form of sigma.
-/

namespace StyleAudit.Text

set_option autoImplicit false

def mapByRuns (runs : List (Nat × Nat × Nat × Int)) (n : Nat) : Option Nat :=
  (runs.find? fun run => run.1 ≤ n && n ≤ run.2.1 && (n - run.1) % run.2.2.1 == 0).map
    fun run => (n + run.2.2.2 : Int).toNat

def mapByTables (expansions : List (Nat × List Nat)) (runs : List (Nat × Nat × Nat × Int))
    (c : Char) : List Char :=
  match expansions.lookup c.toNat with
  | some codes => codes.map Char.ofNat
  | none => [((mapByRuns runs c.toNat).map Char.ofNat).getD c]

def upperChar (c : Char) : List Char :=
  if c.toNat < 0x80 then [c.toUpper] else mapByTables upperCaseExpansions upperCaseRuns c

def lowerChar (c : Char) : List Char :=
  if c.toNat < 0x80 then [c.toLower] else mapByTables lowerCaseExpansions lowerCaseRuns c

def upper (s : String) : String :=
  String.ofList (s.toList.flatMap upperChar)

/-- The first character in upper case and every other one in lower case. -/
def titleChars : List Char → List Char
  | [] => []
  | c :: cs => upperChar c ++ cs.flatMap lowerChar

def title (s : String) : String :=
  String.ofList (titleChars s.toList)

def inRanges (ranges : List (Nat × Nat)) (c : Char) : Bool :=
  ranges.any fun range => range.1 ≤ c.toNat && c.toNat ≤ range.2

def meetsCased (cs : List Char) : Bool :=
  match cs.dropWhile (inRanges caseIgnorableRanges) with
  | [] => false
  | c :: _ => inRanges casedRanges c

/-- Lower case of the characters after `before`, which is kept in reverse. A capital sigma takes
its final form between a cased character before it and no cased character after it. -/
def lowerFrom (before : List Char) : List Char → List Char
  | [] => []
  | c :: cs =>
    (if c = 'Σ' then [if meetsCased before && !meetsCased cs then 'ς' else 'σ'] else lowerChar c) ++
      lowerFrom (c :: before) cs

def lower (s : String) : String :=
  String.ofList (lowerFrom [] s.toList)

def eqIgnoringAsciiCase (a b : List Char) : Bool :=
  a.map Char.toLower == b.map Char.toLower

def asciiLower (s : String) : String :=
  String.ofList (s.toList.map Char.toLower)

end StyleAudit.Text
