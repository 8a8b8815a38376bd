import StyleAudit.Yaml.Scalar

/-!
# YAML tokens

The tokens of YAML text, with marks for where the blocks that indentation makes begin and end. A
scalar may turn out to be the key of a mapping only when the colon behind it is met, which must
happen on the same line; the marks are then put in before it. Anchors, aliases, tags, directives and
block scalars are not read.
-/

namespace StyleAudit.Yaml

set_option autoImplicit false

inductive Token where
  | documentStart
  | documentEnd
  | blockSequence
  | blockMapping
  | blockEnd
  | flowSequence
  | flowSequenceEnd
  | flowMapping
  | flowMappingEnd
  | blockEntry
  | flowEntry
  | key
  | value
  | scalar (content : String)
  deriving Repr, DecidableEq

/-- Where a key may have begun. If it is required, a colon must follow it. -/
structure Candidate where
  required : Bool
  position : Nat
  line : Nat
  column : Nat
  index : Nat

def longestKey : Nat := 1024

/-- The state of the scanner: the tokens so far, the indentation of the open blocks, innermost
first, and a possible key for each level of brackets, innermost first. -/
structure Scanner where
  cursor : Cursor
  tokens : List Token
  indent : Int
  outerIndents : List Int
  candidate : Option Candidate
  outerCandidates : List (Option Candidate)
  keyAllowed : Bool

namespace Scanner

def start (cs : List Char) : Scanner :=
  ⟨.ofText cs, [], -1, [], none, [], true⟩

def inFlow (s : Scanner) : Bool :=
  !s.outerCandidates.isEmpty

def column (s : Scanner) : Int :=
  s.cursor.column

def push (token : Token) (s : Scanner) : Scanner :=
  { s with tokens := s.tokens ++ [token] }

def pushAt (position : Nat) (token : Token) (s : Scanner) : Scanner :=
  { s with tokens := s.tokens.take position ++ token :: s.tokens.drop position }

def advance (count : Nat) (s : Scanner) : Scanner :=
  { s with cursor := s.cursor.skip count }

def allowKey (allowed : Bool) (s : Scanner) : Scanner :=
  { s with keyAllowed := allowed }

/-- A candidate is given up when it can no longer be a key. A required one must not be. -/
def forget? (candidate : Option Candidate) (gone : Candidate → Bool) :
    Option (Option Candidate) :=
  match candidate with
  | none => some none
  | some k => if !gone k then some (some k) else if k.required then none else some none

/-- Gives up the candidates on lines before, and those too far back. -/
def dropStale? (s : Scanner) : Option Scanner := do
  let stale (k : Candidate) : Bool :=
    k.line < s.cursor.line || k.index + longestKey < s.cursor.index
  let candidate ← forget? s.candidate stale
  let outer ← s.outerCandidates.mapM fun k => forget? k stale
  return { s with candidate := candidate, outerCandidates := outer }

def removeCandidate? (s : Scanner) : Option Scanner := do
  let candidate ← forget? s.candidate fun _ => true
  return { s with candidate := candidate }

def noteCandidate? (s : Scanner) : Option Scanner :=
  if s.keyAllowed then do
    let s ← s.removeCandidate?
    let required := !s.inFlow && s.indent == s.column
    return { s with candidate := some ⟨required, s.tokens.length, s.cursor.line, s.cursor.column,
      s.cursor.index⟩ }
  else some s

/-- Opens a block at a column further in, with its mark at a position among the tokens. -/
def indentTo (column : Int) (position : Nat) (mark : Token) (s : Scanner) : Scanner :=
  if s.inFlow || column ≤ s.indent then s
  else { s.pushAt position mark with indent := column, outerIndents := s.indent :: s.outerIndents }

def closeBlocks (column : Int) : Nat → Scanner → Scanner
  | 0, s => s
  | fuel + 1, s =>
    if s.indent ≤ column then s
    else
      match s.outerIndents with
      | [] => s
      | outer :: rest =>
        closeBlocks column fuel { s.push .blockEnd with indent := outer, outerIndents := rest }

def outdentTo (column : Int) (s : Scanner) : Scanner :=
  if s.inFlow then s else closeBlocks column (s.outerIndents.length + 1) s

def skipSpaces : Nat → Scanner → Scanner
  | 0, s => s
  | fuel + 1, s =>
    match s.cursor.rest with
    | ' ' :: _ => skipSpaces fuel (s.advance 1)
    | '\t' :: _ => if s.inFlow || !s.keyAllowed then skipSpaces fuel (s.advance 1) else s
    | '#' :: more =>
      skipSpaces fuel (s.advance (1 + (more.takeWhile fun c => !isBreak c).length))
    | c :: _ =>
      if isBreak c then skipSpaces fuel ((s.advance 1).allowKey (s.keyAllowed || !s.inFlow)) else s
    | [] => s

def documentMark? (token : Token) (s : Scanner) : Option Scanner := do
  let s ← (s.outdentTo (-1)).removeCandidate?
  return ((s.allowKey false).push token).advance 3

def openFlow? (token : Token) (s : Scanner) : Option Scanner := do
  let s ← s.noteCandidate?
  let s := { s with candidate := none, outerCandidates := s.candidate :: s.outerCandidates }
  return ((s.allowKey true).push token).advance 1

def closeFlow? (token : Token) (s : Scanner) : Option Scanner := do
  let s ← s.removeCandidate?
  let s :=
    match s.outerCandidates with
    | [] => s
    | candidate :: outer => { s with candidate := candidate, outerCandidates := outer }
  return ((s.allowKey false).push token).advance 1

def flowEntry? (s : Scanner) : Option Scanner := do
  let s ← s.removeCandidate?
  return ((s.allowKey true).push .flowEntry).advance 1

def blockEntry? (s : Scanner) : Option Scanner := do
  guard (s.inFlow || s.keyAllowed)
  let s ← (s.indentTo s.column s.tokens.length .blockSequence).removeCandidate?
  return ((s.allowKey true).push .blockEntry).advance 1

def key? (s : Scanner) : Option Scanner := do
  guard (s.inFlow || s.keyAllowed)
  let s ← (s.indentTo s.column s.tokens.length .blockMapping).removeCandidate?
  return ((s.allowKey (!s.inFlow)).push .key).advance 1

/-- The colon of a mapping. What stands before it is the key, if a key may have begun there. -/
def value? (s : Scanner) : Option Scanner :=
  match s.candidate with
  | some k =>
    let s := (s.pushAt k.position .key).indentTo k.column k.position .blockMapping
    some ((({ s with candidate := none }.allowKey false).push .value).advance 1)
  | none => do
    guard (s.inFlow || s.keyAllowed)
    let s := s.indentTo s.column s.tokens.length .blockMapping
    return ((s.allowKey (!s.inFlow)).push .value).advance 1

def quoted? (quote : Char) (s : Scanner) : Option Scanner := do
  let s ← s.noteCandidate?
  let start := s.cursor.next
  let (content, cursor) ← takeQuoted quote (start.rest.length + 1) [] start
  return ({ s with cursor := cursor }.allowKey false).push (.scalar (String.ofList content))

def plain? (s : Scanner) : Option Scanner := do
  let s ← s.noteCandidate?
  let plain ← takePlain s.inFlow s.indent (s.cursor.rest.length + 1) [] .none s.cursor
  return ({ s with cursor := plain.cursor }.allowKey plain.broken).push
    (.scalar (String.ofList plain.value))

def reserved : List Char :=
  ['-', '?', ':', ',', '[', ']', '\x7b', '\x7d', '#', '&', '*', '!', '|', '>', '\'', '"', '%', '@',
    Char.ofNat 0x60]

def startsPlain (inFlow : Bool) (c : Char) (more : List Char) : Bool :=
  !(isBlank c || isBreak c || reserved.contains c) ||
    (c == '-' && !(more.take 1).any isBlank) ||
    (!inFlow && (c == '?' || c == ':') && !endsWord more)

def step? (s : Scanner) : Option (Option Scanner) := do
  let s ← (skipSpaces (s.cursor.rest.length + 1) s).dropStale?
  let s := s.outdentTo s.column
  match s.cursor.rest with
  | [] => return none
  | c :: more =>
    if s.cursor.isMark '-' then return some (← s.documentMark? .documentStart)
    else if s.cursor.isMark '.' then return some (← s.documentMark? .documentEnd)
    else if c = '[' then return some (← s.openFlow? .flowSequence)
    else if c = '\x7b' then return some (← s.openFlow? .flowMapping)
    else if c = ']' then return some (← s.closeFlow? .flowSequenceEnd)
    else if c = '\x7d' then return some (← s.closeFlow? .flowMappingEnd)
    else if c = ',' then return some (← s.flowEntry?)
    else if c = '-' && endsWord more then return some (← s.blockEntry?)
    else if c = '?' && (s.inFlow || endsWord more) then return some (← s.key?)
    else if c = ':' && (s.inFlow || endsWord more) then return some (← s.value?)
    else if c = '\'' || c = '"' then return some (← s.quoted? c)
    else if startsPlain s.inFlow c more then return some (← s.plain?)
    else none

def finish? (s : Scanner) : Option (List Token) := do
  let s ← (skipSpaces (s.cursor.rest.length + 1) s).dropStale?
  let s ← (s.outdentTo (-1)).removeCandidate?
  return s.tokens

def run? : Nat → Scanner → Option (List Token)
  | 0, _ => none
  | fuel + 1, s => do
    match ← s.step? with
    | some s => run? fuel s
    | none => s.finish?

end Scanner

def isAllowed (c : Char) : Bool :=
  let n := c.toNat
  n == 0x9 || n == 0xA || n == 0xD || (0x20 ≤ n && n ≤ 0x7E) || n == 0x85 ||
    (0xA0 ≤ n && n ≤ 0xD7FF) || (0xE000 ≤ n && n ≤ 0xFFFD && n != 0xFEFF) || 0x10000 ≤ n

def withPlainLineEnds : List Char → List Char
  | '\r' :: '\n' :: cs => '\n' :: withPlainLineEnds cs
  | c :: cs => (if c = '\r' || c.toNat = 0x85 then '\n' else c) :: withPlainLineEnds cs
  | [] => []

def tokens? (text : String) : Option (List Token) :=
  let cs := match text.toList with
    | c :: cs => if c.toNat = 0xFEFF then cs else c :: cs
    | [] => []
  if cs.all isAllowed then Scanner.run? (cs.length + 1) (.start (withPlainLineEnds cs)) else none

end StyleAudit.Yaml
