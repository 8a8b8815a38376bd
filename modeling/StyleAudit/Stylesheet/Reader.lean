import StyleAudit.Stylesheet.Basic
import StyleAudit.Json.Record

/-!
# Reading stylesheets

Transcription of `load_stylesheets` and `CssNode::from_tagged`. A file holds one stylesheet or an
array of them. Where a field is read by `null_as_default`, null stands for nothing given. Reading a
node never fails: a node whose members do not fit its tag becomes a malformed node and its
neighbours stay as they are.
-/

namespace StyleAudit

set_option autoImplicit false

open Json (ReadError readRecord readText readWord32 readNullable readNullAs readList)

def Location.read : Json → Except ReadError Location :=
  readRecord "Location" ["line", "column"] fun fields =>
    Location.mk <$> fields.defaulted "line" 0 readWord32 <*> fields.defaulted "column" 0 readWord32

def Position.read : Json → Except ReadError Position :=
  readRecord "Position" ["start", "end", "source"] fun fields =>
    Position.mk <$> fields.defaulted "start" none (readNullable Location.read)
      <*> fields.defaulted "end" none (readNullable Location.read)
      <*> fields.defaulted "source" none (readNullable readText)

def Declaration.read : Json → Except ReadError Declaration :=
  readRecord "Declaration" ["property", "value", "position"] fun fields =>
    Declaration.mk <$> fields.defaulted "property" "" (readNullAs "" readText)
      <*> fields.defaulted "value" "" (readNullAs "" readText)
      <*> fields.defaulted "position" none (readNullable Position.read)

def Block.read (kind : BlockKind) : Json → Except ReadError Block :=
  readRecord "RuleNode" ["selectors", "declarations", "position"] fun fields =>
    Block.mk kind <$> fields.defaulted "selectors" [] (readNullAs [] (readList readText))
      <*> fields.defaulted "declarations" [] (readNullAs [] (readList Declaration.read))
      <*> fields.defaulted "position" none (readNullable Position.read)

namespace Node

/-- The tag of a node: its member `type`, if that is a text. -/
def tag? (members : List (String × Json)) : Option String :=
  match Json.lastMember? "type" members with
  | some (.text tag) => some tag
  | _ => none

/-- The values given as nested rules. None are given by null or by nothing. -/
def rulesIn : Option Json → Option (List Json)
  | none => some []
  | some .null => some []
  | some (.array items) => some items
  | some _ => none

def optionalIn {α : Type} (read : Json → Except ReadError α) (value : Option Json) :
    Option (Option α) :=
  match value with
  | none => some none
  | some value => (readNullable read value).toOption

/-- A node apart from its nested rules: either it has none, or they are still to be read. -/
inductive Form where
  | leaf (node : Node)
  | branch (rules : List Json) (build : List Node → Node)

/-- The names under which a group may give its condition, of which it may use one. -/
def conditionNames : List String := ["prelude", "media", "supports", "document"]

def groupForm (kind : GroupKind) (members : List (String × Json)) : Option Form :=
  match members.filter fun member => conditionNames.contains member.1 with
  | _ :: _ :: _ => none
  | given => do
    let condition ← optionalIn readText (given.head?.map Prod.snd)
    let rules ← rulesIn (Json.lastMember? "rules" members)
    let position ← optionalIn Position.read (Json.lastMember? "position" members)
    return .branch rules fun nodes => .group kind condition nodes position

/-- The body of the root node, given as an object or as the array of its fields. -/
def sheetForm : Option Json → Option Form
  | none => some (.branch [] fun nodes => .sheet nodes none)
  | some .null => some (.branch [] fun nodes => .sheet nodes none)
  | some (.object body) => do
    let rules ← rulesIn (Json.lastMember? "rules" body)
    let source ← optionalIn readText (Json.lastMember? "source" body)
    return .branch rules fun nodes => .sheet nodes source
  | some (.array body) =>
    if 2 < body.length then none
    else do
      let rules ← rulesIn body[0]?
      let source ← optionalIn readText body[1]?
      return .branch rules fun nodes => .sheet nodes source
  | some _ => none

def keyframesForm (members : List (String × Json)) : Option Form := do
  let name ← optionalIn readText (Json.lastMember? "name" members)
  let frames ← rulesIn (Json.lastMember? "keyframes" members)
  return .leaf (.keyframes name frames)

/-- A member read as a text, which is empty if it is anything else. -/
def textIn (name : String) (members : List (String × Json)) : String :=
  match Json.lastMember? name members with
  | some (.text value) => value
  | _ => ""

def blockForm (kind : BlockKind) (members : List (String × Json)) : Option Form :=
  (Block.read kind (.object members)).toOption.map fun block => .leaf (.block block)

def form? (members : List (String × Json)) : Option Form :=
  match tag? members with
  | some "stylesheet" => sheetForm (Json.lastMember? "stylesheet" members)
  | some "rule" => blockForm .rule members
  | some "font-face" => blockForm .fontFace members
  | some "page" => blockForm .page members
  | some "media" => groupForm .media members
  | some "supports" => groupForm .supports members
  | some "document" => groupForm .document members
  | some "host" => groupForm .host members
  | some "keyframes" => keyframesForm members
  | some "comment" => some (.leaf (.comment (textIn "comment" members)))
  | some "import" => some (.leaf (.importRule (textIn "import" members)))
  | tag => groupForm (.unlisted tag) members

private theorem sizeOf_lastMember {name : String} {members : List (String × Json)} {value : Json}
    (h : Json.lastMember? name members = some value) : sizeOf value < sizeOf members := by
  obtain ⟨member, found, rfl⟩ := Option.map_eq_some_iff.1 h
  have mem : member ∈ members := List.mem_reverse.1 (List.mem_of_find?_eq_some found)
  have := List.sizeOf_lt_of_mem mem
  cases member
  simp_all
  omega

private theorem sizeOf_rulesIn {value : Option Json} {rules : List Json} {rule : Json}
    (h : rulesIn value = some rules) (mem : rule ∈ rules) :
    ∃ json, value = some json ∧ sizeOf rule < sizeOf json := by
  unfold rulesIn at h
  split at h
  · cases h
    simp at mem
  · cases h
    simp at mem
  · cases h
    have := List.sizeOf_lt_of_mem mem
    exact ⟨_, rfl, by simp; omega⟩
  · simp at h

private theorem sizeOf_groupForm {kind : GroupKind} {members : List (String × Json)}
    {rules : List Json} {build : List Node → Node} {rule : Json}
    (h : groupForm kind members = some (.branch rules build)) (mem : rule ∈ rules) :
    sizeOf rule < sizeOf members := by
  unfold groupForm at h
  split at h
  · simp at h
  · simp only [bind, Option.bind_eq_some_iff, pure, Option.some.injEq, Form.branch.injEq] at h
    obtain ⟨_, _, found, rulesFound, _, _, rfl, _⟩ := h
    obtain ⟨json, inMembers, smaller⟩ := sizeOf_rulesIn rulesFound mem
    have := sizeOf_lastMember inMembers
    omega

private theorem sizeOf_sheetForm {body : Option Json} {rules : List Json}
    {build : List Node → Node} {rule : Json}
    (h : sheetForm body = some (.branch rules build)) (mem : rule ∈ rules) :
    ∃ json, body = some json ∧ sizeOf rule < sizeOf json := by
  unfold sheetForm at h
  split at h
  · cases h
    simp at mem
  · cases h
    simp at mem
  · rename_i members
    simp only [bind, Option.bind_eq_some_iff, pure, Option.some.injEq, Form.branch.injEq] at h
    obtain ⟨_, rulesFound, _, _, rfl, _⟩ := h
    obtain ⟨json, inMembers, smaller⟩ := sizeOf_rulesIn rulesFound mem
    have := sizeOf_lastMember inMembers
    exact ⟨_, rfl, by simp; omega⟩
  · rename_i items
    split at h
    · simp at h
    · simp only [bind, Option.bind_eq_some_iff, pure, Option.some.injEq, Form.branch.injEq] at h
      obtain ⟨_, rulesFound, _, _, rfl, _⟩ := h
      obtain ⟨json, inItems, smaller⟩ := sizeOf_rulesIn rulesFound mem
      have := List.sizeOf_lt_of_mem (List.mem_of_getElem? inItems)
      exact ⟨_, rfl, by simp; omega⟩
  · simp at h

/-- Nested rules are smaller than the members they are found in. -/
theorem sizeOf_rule_of_form {members : List (String × Json)} {rules : List Json}
    {build : List Node → Node} {rule : Json}
    (h : form? members = some (.branch rules build)) (mem : rule ∈ rules) :
    sizeOf rule < sizeOf members := by
  unfold form? at h
  split at h
  · obtain ⟨json, inMembers, smaller⟩ := sizeOf_sheetForm h mem
    have := sizeOf_lastMember inMembers
    omega
  · simp [blockForm] at h
  · simp [blockForm] at h
  · simp [blockForm] at h
  · exact sizeOf_groupForm h mem
  · exact sizeOf_groupForm h mem
  · exact sizeOf_groupForm h mem
  · exact sizeOf_groupForm h mem
  · simp [keyframesForm, bind, Option.bind_eq_some_iff, pure] at h
  · simp at h
  · simp at h
  · exact sizeOf_groupForm h mem

def ofSettled (json : Json) : Node :=
  match json with
  | .object members =>
    match h : form? members with
    | none => .malformed (tag? members)
    | some (.leaf node) => node
    | some (.branch rules build) =>
      build (rules.attach.map fun rule =>
        have _ := sizeOf_rule_of_form h rule.2
        ofSettled rule.1)
  | _ => .malformed none
termination_by sizeOf json
decreasing_by
  simp
  omega

/-- The node that a value describes. Of members of one name the last counts. -/
def ofJson (json : Json) : Node :=
  ofSettled json.settled

end Node

/-- The content of a stylesheet. Whatever its syntax tree holds, there is a node for it. -/
def SheetContent.read : Json → Except ReadError SheetContent :=
  readRecord "StylesheetContent" ["plain", "parsed"] fun fields =>
    SheetContent.mk <$> fields.defaulted "plain" "" readText
      <*> fields.defaulted "parsed" none (readNullable fun json => .ok (Node.ofJson json))

def Stylesheet.read : Json → Except ReadError Stylesheet :=
  readRecord "Stylesheet" ["file", "content"] fun fields =>
    Stylesheet.mk <$> fields.defaulted "file" "" readText
      <*> fields.defaulted "content" none (readNullable SheetContent.read)

/-- The stylesheets of a value: an array of them, or a single one. -/
def Stylesheet.readAll (json : Json) : Except ReadError (List Stylesheet) :=
  match readList Stylesheet.read json with
  | .ok sheets => .ok sheets
  | .error _ =>
    match Stylesheet.read json with
    | .ok sheet => .ok [sheet]
    | .error _ => .error (.mismatch (.noAlternative "StylesheetFile"))

/-- The stylesheets of a file. The text must be well formed as a whole before it is looked at. -/
def Stylesheet.load (source : String) : Except ReadError (List Stylesheet) :=
  let reading := Json.read source
  match reading.value.fault? with
  | some fault => .error (.fault fault)
  | none =>
    match Stylesheet.readAll reading.value with
    | .error e => .error e
    | .ok sheets => if reading.trailing then .error (.fault .malformed) else .ok sheets

end StyleAudit
