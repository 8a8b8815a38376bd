import StyleAudit.Html.Reference
import StyleAudit.Html.Tags

/-!
# HTML tokens

The tags and texts of HTML source. Comments and document types leave no trace. A tag that the
source ends in is dropped. An element that can hold nothing but text is a single token.
-/

namespace StyleAudit.Html

set_option autoImplicit false

inductive Token where
  | startTag (name : String) (attributes : List (String × String))
  | endTag (name : String)
  | textElement (name : String) (attributes : List (String × String)) (content : List Char)
  | text (content : List Char)
  deriving Repr, DecidableEq, Inhabited

def isSpace (c : Char) : Bool :=
  c == ' ' || c == '\t' || c == '\n' || c == '\x0c' || c == '\r'

def withPlainLineEnds : List Char → List Char
  | '\r' :: '\n' :: cs => '\n' :: withPlainLineEnds cs
  | '\r' :: cs => '\n' :: withPlainLineEnds cs
  | c :: cs => c :: withPlainLineEnds cs
  | [] => []

def nameChar (c : Char) : Char :=
  if c = '\x00' then replacement else c.toLower

def nameOf (cs : List Char) : String :=
  String.ofList (cs.map nameChar)

def valueOf (cs : List Char) : String :=
  String.ofList (decode true (cs.map fun c => if c = '\x00' then replacement else c))

/-- Only the first attribute of each name counts. -/
def firstOfEach (seen : List String) : List (String × String) → List (String × String)
  | [] => []
  | (name, value) :: rest =>
    if seen.contains name then firstOfEach seen rest
    else (name, value) :: firstOfEach (name :: seen) rest

def takeValue? (cs : List Char) : Option (List Char × List Char) :=
  match cs.dropWhile isSpace with
  | [] => none
  | '"' :: rest => afterQuote (rest.span fun c => c != '"')
  | '\'' :: rest => afterQuote (rest.span fun c => c != '\'')
  | rest => some (rest.span fun c => !(isSpace c || c == '>'))
where
  afterQuote (parts : List Char × List Char) : Option (List Char × List Char) :=
    match parts.2 with
    | [] => none
    | _ :: rest => some (parts.1, rest)

/-- The attributes of a tag and what follows the tag, unless the source ends inside it. -/
def takeAttributes? : Nat → List Char → Option (List (String × String) × List Char)
  | 0, _ => none
  | fuel + 1, cs =>
    match cs.dropWhile fun c => isSpace c || c == '/' with
    | [] => none
    | '>' :: rest => some ([], rest)
    | first :: rest =>
      let (name, rest) := rest.span fun c => !(isSpace c || c == '/' || c == '>' || c == '=')
      let name := nameOf (first :: name)
      match rest.dropWhile isSpace with
      | '=' :: rest => do
        let (value, rest) ← takeValue? rest
        let (others, rest) ← takeAttributes? fuel rest
        return ((name, valueOf value) :: others, rest)
      | rest => do
        let (others, rest) ← takeAttributes? fuel rest
        return ((name, "") :: others, rest)

def takeTag? (cs : List Char) : Option (String × List (String × String) × List Char) := do
  let (name, rest) := cs.span fun c => !(isSpace c || c == '/' || c == '>')
  let (attributes, rest) ← takeAttributes? (rest.length + 1) rest
  return (nameOf name, firstOfEach [] attributes, rest)

def afterBracket (cs : List Char) : List Char :=
  (cs.dropWhile fun c => c != '>').drop 1

def skipCommentBody : List Char → List Char
  | '-' :: '-' :: '>' :: rest => rest
  | '-' :: '-' :: '!' :: '>' :: rest => rest
  | _ :: rest => skipCommentBody rest
  | [] => []

def skipComment : List Char → List Char
  | '>' :: rest => rest
  | '-' :: '>' :: rest => rest
  | cs => skipCommentBody cs

def startsEndTag (name : List Char) (cs : List Char) : Bool :=
  match cs with
  | '<' :: '/' :: rest =>
    (rest.take name.length).map nameChar == name &&
      match rest.drop name.length with
      | c :: _ => isSpace c || c == '/' || c == '>'
      | [] => false
  | _ => false

def takeTextOf (name : List Char) : List Char → List Char × List Char
  | [] => ([], [])
  | c :: cs =>
    if startsEndTag name (c :: cs) then
      match takeTag? (cs.drop 1) with
      | some (_, _, rest) => ([], rest)
      | none => ([], [])
    else
      let (text, rest) := takeTextOf name cs
      (c :: text, rest)

/-- Elements whose text does not begin with the line end right behind their start tag. -/
def lineStartTags : List String := ["pre", "listing", "textarea"]

def dropLineStart (name : String) (cs : List Char) : List Char :=
  match cs with
  | '\n' :: rest => if lineStartTags.contains name then rest else cs
  | cs => cs

def startTagTokens (cs : List Char) : List Token × List Char :=
  match takeTag? cs with
  | none => ([], [])
  | some (name, attributes, rest) =>
    if escapableTextTags.contains name then
      let (text, rest) := takeTextOf name.toList rest
      ([.textElement name attributes (dropLineStart name (decode false text))], rest)
    else if rawTextTags.contains name then
      let (text, rest) := takeTextOf name.toList rest
      ([.textElement name attributes text], rest)
    else if name == "plaintext" then ([.textElement name attributes rest], [])
    else ([.startTag name attributes], rest)

def endTagTokens (cs : List Char) : List Token × List Char :=
  match takeTag? cs with
  | none => ([], [])
  | some (name, _, rest) => ([.endTag name], rest)

def takeTokens (first : Char) (rest : List Char) : List Token × List Char :=
  if first = '<' then
    match rest with
    | '!' :: '-' :: '-' :: rest => ([], skipComment rest)
    | '!' :: rest => ([], afterBracket rest)
    | '?' :: rest => ([], afterBracket rest)
    | '/' :: c :: more =>
      if c.isAlpha then endTagTokens (c :: more) else ([], afterBracket (c :: more))
    | c :: more => if c.isAlpha then startTagTokens (c :: more) else ([.text ['<']], rest)
    | [] => ([.text ['<']], [])
  else
    let (text, more) := rest.span fun c => c != '<'
    ([.text (decode false (first :: text))], more)

def tokensFrom : Nat → List Char → List Token
  | 0, _ => []
  | fuel + 1, cs =>
    match cs with
    | [] => []
    | c :: rest =>
      let (tokens, rest) := takeTokens c rest
      tokens ++ tokensFrom fuel rest

def dropLineStarts : List Token → List Token
  | .startTag name attributes :: .text cs :: rest =>
    .startTag name attributes :: .text (dropLineStart name cs) :: dropLineStarts rest
  | token :: rest => token :: dropLineStarts rest
  | [] => []

def byteOrderMark : Char := Char.ofNat 0xFEFF

/-- The tokens of HTML source. Each step takes at least one character. -/
def tokens (source : String) : List Token :=
  let cs := match source.toList with
    | c :: cs => if c = byteOrderMark then cs else c :: cs
    | [] => []
  dropLineStarts (tokensFrom (cs.length + 1) (withPlainLineEnds cs))

end StyleAudit.Html
