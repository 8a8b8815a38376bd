import StyleAudit.Yaml.Token

/-!
# YAML nodes

The single document of a YAML text as a tree of scalars, lists and mappings. A scalar is its text,
however it was written; what is left out is a node of its own, and not the same as empty quotes.
-/

namespace StyleAudit.Yaml

set_option autoImplicit false

inductive Node where
  | absent
  | scalar (content : String)
  | list (items : List Node)
  | mapping (entries : List (Node × Node))
  deriving Inhabited

def Node.text? : Node → Option String
  | absent => some ""
  | scalar content => some content
  | _ => none

def isAbsent (ends : List Token) : List Token → Bool
  | [] => true
  | token :: _ => ends.contains token

mutual

/-- The node at the front. Where the entries of a list may stand without indentation of their own,
they make up the node. -/
def node? (inBlock bareEntries : Bool) : Nat → List Token → Option (Node × List Token)
  | 0, _ => none
  | fuel + 1, tokens =>
    match tokens with
    | .scalar content :: rest => some (.scalar content, rest)
    | .flowSequence :: rest => flowItems? true fuel [] rest
    | .flowMapping :: rest => flowEntries? true fuel [] rest
    | .blockSequence :: rest => if inBlock then blockItems? fuel [] rest else none
    | .blockMapping :: rest => if inBlock then blockEntries? fuel [] rest else none
    | .blockEntry :: _ => if bareEntries then bareItems? fuel [] tokens else none
    | _ => none

def nodeOrEmpty? (inBlock bareEntries : Bool) (ends : List Token) :
    Nat → List Token → Option (Node × List Token)
  | 0, _ => none
  | fuel + 1, tokens =>
    if isAbsent ends tokens then some (.absent, tokens) else node? inBlock bareEntries fuel tokens

def blockItems? : Nat → List Node → List Token → Option (Node × List Token)
  | 0, _, _ => none
  | fuel + 1, done, tokens =>
    match tokens with
    | .blockEntry :: rest => do
      let (item, rest) ← nodeOrEmpty? true false [.blockEntry, .blockEnd] fuel rest
      blockItems? fuel (item :: done) rest
    | .blockEnd :: rest => some (.list done.reverse, rest)
    | _ => none

def bareItems? : Nat → List Node → List Token → Option (Node × List Token)
  | 0, _, _ => none
  | fuel + 1, done, tokens =>
    match tokens with
    | .blockEntry :: rest => do
      let (item, rest) ← nodeOrEmpty? true false [.blockEntry, .key, .value, .blockEnd] fuel rest
      bareItems? fuel (item :: done) rest
    | _ => some (.list done.reverse, tokens)

def blockEntries? : Nat → List (Node × Node) → List Token → Option (Node × List Token)
  | 0, _, _ => none
  | fuel + 1, done, tokens =>
    match tokens with
    | .key :: rest => do
      let (key, rest) ← nodeOrEmpty? true true [.key, .value, .blockEnd] fuel rest
      let (value, rest) ← entryValue? fuel rest
      blockEntries? fuel ((key, value) :: done) rest
    | .value :: _ => do
      let (value, rest) ← entryValue? fuel tokens
      blockEntries? fuel ((.absent, value) :: done) rest
    | .blockEnd :: rest => some (.mapping done.reverse, rest)
    | _ => none

def entryValue? : Nat → List Token → Option (Node × List Token)
  | 0, _ => none
  | fuel + 1, tokens =>
    match tokens with
    | .value :: rest => nodeOrEmpty? true true [.key, .value, .blockEnd] fuel rest
    | _ => some (.absent, tokens)

/-- The items of a list in brackets. An item with a key is a mapping by itself. -/
def flowItems? (first : Bool) : Nat → List Node → List Token → Option (Node × List Token)
  | 0, _, _ => none
  | fuel + 1, done, tokens =>
    match tokens with
    | .flowSequenceEnd :: rest => some (.list done.reverse, rest)
    | .flowEntry :: rest =>
      if first then none
      else
        match rest with
        | .flowSequenceEnd :: rest => some (.list done.reverse, rest)
        | _ => flowItem? fuel done rest
    | _ => if first then flowItem? fuel done tokens else none

def flowItem? : Nat → List Node → List Token → Option (Node × List Token)
  | 0, _, _ => none
  | fuel + 1, done, tokens =>
    match tokens with
    | .key :: rest => do
      let (key, rest) ← nodeOrEmpty? false false [.value, .flowEntry, .flowSequenceEnd] fuel rest
      let (value, rest) ← flowValue? [.flowEntry, .flowSequenceEnd] fuel rest
      flowItems? false fuel (.mapping [(key, value)] :: done) rest
    | _ => do
      let (item, rest) ← node? false false fuel tokens
      flowItems? false fuel (item :: done) rest

def flowValue? (ends : List Token) : Nat → List Token → Option (Node × List Token)
  | 0, _ => none
  | fuel + 1, tokens =>
    match tokens with
    | .value :: rest => nodeOrEmpty? false false ends fuel rest
    | _ => some (.absent, tokens)

def flowEntries? (first : Bool) : Nat → List (Node × Node) → List Token → Option (Node × List Token)
  | 0, _, _ => none
  | fuel + 1, done, tokens =>
    match tokens with
    | .flowMappingEnd :: rest => some (.mapping done.reverse, rest)
    | .flowEntry :: rest =>
      if first then none
      else
        match rest with
        | .flowMappingEnd :: rest => some (.mapping done.reverse, rest)
        | _ => flowPair? fuel done rest
    | _ => if first then flowPair? fuel done tokens else none

def flowPair? : Nat → List (Node × Node) → List Token → Option (Node × List Token)
  | 0, _, _ => none
  | fuel + 1, done, tokens => do
    let (key, rest) ←
      match tokens with
      | .key :: rest => nodeOrEmpty? false false [.value, .flowEntry, .flowMappingEnd] fuel rest
      | .value :: _ => some (.absent, tokens)
      | _ => node? false false fuel tokens
    let (value, rest) ← flowValue? [.flowEntry, .flowMappingEnd] fuel rest
    flowEntries? false fuel ((key, value) :: done) rest

end

/-- The document at the front. It may be marked as such, and then it may be empty. -/
def document? (fuel : Nat) : List Token → Option (Node × List Token)
  | .documentStart :: rest => nodeOrEmpty? true false [.documentStart, .documentEnd] fuel rest
  | tokens => node? true false fuel tokens

/-- The document of a text, which is absent if the text has no tokens. There must be only one. -/
def read? (text : String) : Option Node := do
  let tokens ← tokens? text
  if tokens.isEmpty then return .absent
  let (node, rest) ← document? (8 * tokens.length + 8) tokens
  guard (rest.all fun token => token == .documentEnd)
  return node

end StyleAudit.Yaml
