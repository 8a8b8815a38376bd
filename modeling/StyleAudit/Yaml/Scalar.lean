/-!
# YAML scalars

A cursor in YAML text and the scalars at it: plain ones and quoted ones, over one line or several.
Line ends inside a scalar are folded: a single one becomes a blank, of more than one the first is
dropped.
-/

namespace StyleAudit.Yaml

set_option autoImplicit false

structure Cursor where
  rest : List Char
  line : Nat
  column : Nat
  index : Nat

def isBreak (c : Char) : Bool :=
  c == '\n' || c.toNat == 0x2028 || c.toNat == 0x2029

def isBlank (c : Char) : Bool :=
  c == ' ' || c == '\t'

def endsWord : List Char → Bool
  | [] => true
  | c :: _ => isBlank c || isBreak c

namespace Cursor

def ofText (cs : List Char) : Cursor := ⟨cs, 0, 0, 0⟩

def next (c : Cursor) : Cursor :=
  match c.rest with
  | [] => c
  | char :: rest =>
    if isBreak char then ⟨rest, c.line + 1, 0, c.index + 1⟩
    else ⟨rest, c.line, c.column + 1, c.index + 1⟩

def skip : Nat → Cursor → Cursor
  | 0, c => c
  | n + 1, c => skip n c.next

/-- Three of a character at the start of a line, with nothing right behind them. -/
def isMark (mark : Char) (c : Cursor) : Bool :=
  c.column == 0 && c.rest.take 3 == [mark, mark, mark] && endsWord (c.rest.drop 3)

def isDocumentMark (c : Cursor) : Bool :=
  c.isMark '-' || c.isMark '.'

end Cursor

/-- White space between two words of a scalar: blanks on one line, or line ends. -/
structure Gap where
  blanks : List Char
  breaks : List Char

def Gap.none : Gap := ⟨[], []⟩

def Gap.add (gap : Gap) (c : Char) : Gap :=
  if isBreak c then ⟨[], gap.breaks ++ [c]⟩
  else if gap.breaks.isEmpty then ⟨gap.blanks ++ [c], []⟩
  else gap

def Gap.text (gap : Gap) : List Char :=
  match gap.breaks with
  | [] => gap.blanks
  | ['\n'] => [' ']
  | '\n' :: more => more
  | breaks => breaks

def takeGap : Nat → Gap → Cursor → Gap × Cursor
  | 0, gap, c => (gap, c)
  | fuel + 1, gap, c =>
    match c.rest with
    | char :: _ =>
      if isBlank char || isBreak char then takeGap fuel (gap.add char) c.next else (gap, c)
    | [] => (gap, c)

def flowIndicators : List Char := [',', '[', ']', '\x7b', '\x7d']

structure Plain where
  value : List Char
  cursor : Cursor
  broken : Bool

/-- The plain scalar at a cursor, within brackets or indented by more than a number of columns. -/
def takePlain (inFlow : Bool) (indent : Int) :
    Nat → List Char → Gap → Cursor → Option Plain
  | 0, _, _, _ => none
  | fuel + 1, value, gap, c =>
    let stop : Plain := ⟨value.reverse, c, !gap.breaks.isEmpty⟩
    if c.isDocumentMark then some stop
    else
      match c.rest with
      | [] => some stop
      | '#' :: _ =>
        if gap.blanks.isEmpty && gap.breaks.isEmpty && !value.isEmpty then
          takePlain inFlow indent fuel ('#' :: value) .none c.next
        else some stop
      | char :: more =>
        if isBlank char || isBreak char then
          let (gap, after) := takeGap (more.length + 1) .none c
          if !inFlow && !gap.breaks.isEmpty && decide ((after.column : Int) ≤ indent) then
            some ⟨value.reverse, after, true⟩
          else takePlain inFlow indent fuel value gap after
        else if char = ':' && endsWord more then some stop
        else if inFlow && char = ':' && (more.take 1).any ('?' :: flowIndicators).contains then none
        else if inFlow && flowIndicators.contains char then some stop
        else takePlain inFlow indent fuel (char :: (gap.text.reverse ++ value)) .none c.next

def hexValue? (c : Char) : Option Nat :=
  if c.isDigit then some (c.toNat - '0'.toNat)
  else if 'a' ≤ c && c ≤ 'f' then some (c.toNat - 'a'.toNat + 10)
  else if 'A' ≤ c && c ≤ 'F' then some (c.toNat - 'A'.toNat + 10)
  else none

def hexChar? (count : Nat) (cs : List Char) : Option Char := do
  let digits ← (cs.take count).mapM hexValue?
  guard (digits.length == count)
  let code := digits.foldl (fun n d => 16 * n + d) 0
  guard (code ≤ 0x10FFFF && !(0xD800 ≤ code && code ≤ 0xDFFF))
  return Char.ofNat code

def escape? : List Char → Option (Char × Nat)
  | '0' :: _ => some ('\x00', 1)
  | 'a' :: _ => some ('\x07', 1)
  | 'b' :: _ => some ('\x08', 1)
  | 't' :: _ => some ('\t', 1)
  | '\t' :: _ => some ('\t', 1)
  | 'n' :: _ => some ('\n', 1)
  | 'v' :: _ => some ('\x0b', 1)
  | 'f' :: _ => some ('\x0c', 1)
  | 'r' :: _ => some ('\r', 1)
  | 'e' :: _ => some ('\x1b', 1)
  | ' ' :: _ => some (' ', 1)
  | '"' :: _ => some ('"', 1)
  | '/' :: _ => some ('/', 1)
  | '\\' :: _ => some ('\\', 1)
  | 'N' :: _ => some (Char.ofNat 0x85, 1)
  | '_' :: _ => some (Char.ofNat 0xA0, 1)
  | 'L' :: _ => some (Char.ofNat 0x2028, 1)
  | 'P' :: _ => some (Char.ofNat 0x2029, 1)
  | 'x' :: cs => (hexChar? 2 cs).map fun c => (c, 3)
  | 'u' :: cs => (hexChar? 4 cs).map fun c => (c, 5)
  | 'U' :: cs => (hexChar? 8 cs).map fun c => (c, 9)
  | _ => none

/-- The rest of a scalar in quotes. The mark of a document must not stand in it. -/
def takeQuoted (quote : Char) : Nat → List Char → Cursor → Option (List Char × Cursor)
  | 0, _, _ => none
  | fuel + 1, value, c =>
    if c.isDocumentMark then none
    else
      match c.rest with
      | [] => none
      | char :: more =>
        if char = quote then
          match quote, more with
          | '\'', '\'' :: _ => takeQuoted quote fuel ('\'' :: value) c.next.next
          | _, _ => some (value.reverse, c.next)
        else if char = '\\' && quote = '"' then
          match more with
          | next :: _ =>
            if isBreak next then
              let (gap, after) := takeGap (more.length + 1) .none c.next.next
              let kept := if gap.breaks.isEmpty then [] else gap.breaks
              takeQuoted quote fuel (kept.reverse ++ value) after
            else do
              let (escaped, count) ← escape? more
              takeQuoted quote fuel (escaped :: value) (c.next.skip count)
          | [] => none
        else if isBlank char || isBreak char then
          let (gap, after) := takeGap (more.length + 1) .none c
          takeQuoted quote fuel (gap.text.reverse ++ value) after
        else takeQuoted quote fuel (char :: value) c.next

end StyleAudit.Yaml
