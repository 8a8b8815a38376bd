import StyleAudit.Technique.Ledger
import StyleAudit.Stylesheet.Reader
import StyleAudit.Json.Printer

/-!
# Findings and assertions as JSON

The derived JSON forms of everything that `TechniqueState` is made of, and their readers. What is
absent is left out of the written form. The evidence of a finding stands among its own members;
where these members do not make up complete evidence, the finding is read without any.
-/

namespace StyleAudit

set_option autoImplicit false

open Json (ReadError Fields Placed readRecord readSpreadRecord readText readWord32 readNullable
  readList readVariant)

def jsonOfText (s : String) : Json := .text s

def jsonOfNat (n : Nat) : Json := .number (.natural n)

def jsonOfTexts (ss : List String) : Json := .array (ss.map Json.text)

def optionalMember (name : String) (value : Option Json) : List (String × Json) :=
  match value with
  | some value => [(name, value)]
  | none => []

def Location.json (l : Location) : Json :=
  .object [("line", jsonOfNat l.line.toNat), ("column", jsonOfNat l.column.toNat)]

def Position.json (p : Position) : Json :=
  .object (optionalMember "start" (p.start.map Location.json) ++
    optionalMember "end" (p.finish.map Location.json) ++
    optionalMember "source" (p.source.map jsonOfText))

def SelectorEvidence.json (e : SelectorEvidence) : Json :=
  .object (("value", .text e.value) :: optionalMember "position" (e.position.map Position.json))

def PropertyEvidence.json (e : PropertyEvidence) : Json :=
  .object (("name", .text e.name) :: ("value", .text e.value) ::
    optionalMember "position" (e.position.map Position.json))

def Evidence.members (e : Evidence) : List (String × Json) :=
  optionalMember "cssCode" (e.css.map jsonOfText) ++
    optionalMember "stylesheetFile" (e.file.map jsonOfText) ++
    [("selector", e.selector.json), ("property", e.property.json)]

def Finding.json (f : Finding) : Json :=
  .object (("verdict", .text f.verdict.name) :: ("description", .text f.description) ::
    (f.evidence.map Evidence.members).getD [])

def Criterion.json (c : Criterion) : Json :=
  .object [("name", .text c.name), ("level", .text c.level.name),
    ("principle", .text c.principle.name), ("url", .text c.url)]

def Target.json (t : Target) : Json :=
  .object [("element", .text t.element), ("attributes", jsonOfTexts t.attributes)]

def Descriptor.json (d : Descriptor) : Json :=
  .object [("name", .text d.name), ("code", .text d.code), ("mapping", .text d.mapping),
    ("description", .text d.description), ("target", d.target.json),
    ("success_criteria", .array (d.criteria.map Criterion.json)),
    ("related", jsonOfTexts d.related), ("url", (d.url.map jsonOfText).getD .null)]

def Tally.members (t : Tally) : List (String × Json) :=
  [("passed", jsonOfNat t.passed), ("warning", jsonOfNat t.warning),
    ("failed", jsonOfNat t.failed), ("inapplicable", jsonOfNat t.inapplicable)]

def Tally.json (t : Tally) : Json :=
  .object t.members

def jsonOfOutcome (outcome : Option Verdict) : Json :=
  match outcome with
  | some verdict => .text verdict.name
  | none => .null

def Summary.json (s : Summary) : Json :=
  .object ([("target", s.target.json), ("success-criteria", .array (s.criteria.map Criterion.json)),
      ("related", jsonOfTexts s.related)] ++
    optionalMember "url" (s.url.map jsonOfText) ++ s.tally.members ++
    [("outcome", jsonOfOutcome s.outcome), ("description", .text s.description)])

def Assertion.json (a : Assertion) : Json :=
  .object [("name", .text a.name), ("code", .text a.code), ("mapping", .text a.mapping),
    ("description", .text a.description), ("metadata", a.summary.json),
    ("results", .array (a.findings.map Finding.json))]

def Verdict.read : Json → Except ReadError Verdict :=
  readVariant (Verdict.all.map fun v => (v.name, v))

def Principle.read : Json → Except ReadError Principle :=
  readVariant (Principle.all.map fun p => (p.name, p))

def Level.read : Json → Except ReadError Level :=
  readVariant (Level.all.map fun l => (l.name, l))

def SelectorEvidence.read : Json → Except ReadError SelectorEvidence :=
  readRecord "SelectorEvidence" ["value", "position"] fun fields =>
    SelectorEvidence.mk <$> fields.required "value" readText
      <*> fields.defaulted "position" none (readNullable Position.read)

def PropertyEvidence.read : Json → Except ReadError PropertyEvidence :=
  readRecord "PropertyEvidence" ["name", "value", "position"] fun fields =>
    PropertyEvidence.mk <$> fields.required "name" readText <*> fields.required "value" readText
      <*> fields.defaulted "position" none (readNullable Position.read)

namespace Evidence

def fieldNames : List String := ["cssCode", "stylesheetFile", "selector", "property"]

def ofFields (fields : Fields) : Placed Evidence :=
  Evidence.mk <$> fields.defaulted "cssCode" none (readNullable readText)
    <*> fields.defaulted "stylesheetFile" none (readNullable readText)
    <*> fields.required "selector" SelectorEvidence.read
    <*> fields.required "property" PropertyEvidence.read

def read : Json → Except ReadError Evidence :=
  readRecord "Evidence" fieldNames ofFields

/-- The evidence that some members of an object make up, if they do. -/
def ofMembers? (members : List (String × Json)) : Option Evidence :=
  (ofFields (.ofObject fieldNames members)).get.toOption

end Evidence

def Finding.read : Json → Except ReadError Finding :=
  readSpreadRecord "EvaluationResult" ["verdict", "description"] fun fields =>
    Finding.mk <$> fields.required "verdict" Verdict.read
      <*> fields.required "description" readText
      <*> Placed.ok (Evidence.ofMembers? fields.others)

def Criterion.read : Json → Except ReadError Criterion :=
  readRecord "SuccessCriterion" ["name", "level", "principle", "url"] fun fields =>
    Criterion.mk <$> fields.required "name" readText <*> fields.required "level" Level.read
      <*> fields.required "principle" Principle.read <*> fields.required "url" readText

def Target.read : Json → Except ReadError Target :=
  readRecord "Target" ["element", "attributes"] fun fields =>
    Target.mk <$> fields.required "element" readText
      <*> fields.required "attributes" (readList readText)

def Descriptor.read : Json → Except ReadError Descriptor :=
  readRecord "Descriptor" ["name", "code", "mapping", "description", "target", "success_criteria",
      "related", "url"] fun fields =>
    Descriptor.mk <$> fields.required "name" readText <*> fields.required "code" readText
      <*> fields.required "mapping" readText <*> fields.required "description" readText
      <*> fields.required "target" Target.read
      <*> fields.required "success_criteria" (readList Criterion.read)
      <*> fields.required "related" (readList readText) <*> fields.optional "url" readText

namespace Tally

def fieldNames : List String := ["passed", "warning", "failed", "inapplicable"]

/-- A count, which must fit in 32 bits. -/
def readCount (json : Json) : Except ReadError Nat :=
  (readWord32 json).map UInt32.toNat

def ofFields (fields : Fields) : Placed Tally :=
  Tally.mk <$> fields.required "passed" readCount <*> fields.required "warning" readCount
    <*> fields.required "failed" readCount <*> fields.required "inapplicable" readCount

def read : Json → Except ReadError Tally :=
  readRecord "Tally" fieldNames ofFields

end Tally

/-- A summary. The counts stand among its own members and are looked at last. -/
def Summary.read : Json → Except ReadError Summary :=
  readSpreadRecord "TechniqueMetadata" ["target", "success-criteria", "related", "url", "outcome",
      "description"] fun fields =>
    Summary.mk <$> fields.required "target" Target.read
      <*> fields.required "success-criteria" (readList Criterion.read)
      <*> fields.required "related" (readList readText) <*> fields.optional "url" readText
      <*> (Tally.ofFields (.ofObject Tally.fieldNames fields.others)).after fields.span
      <*> fields.optional "outcome" Verdict.read <*> fields.required "description" readText

def Assertion.read : Json → Except ReadError Assertion :=
  readRecord "TechniqueState" ["name", "code", "mapping", "description", "metadata", "results"]
    fun fields =>
      Assertion.mk <$> fields.required "name" readText <*> fields.required "code" readText
        <*> fields.required "mapping" readText <*> fields.required "description" readText
        <*> fields.required "metadata" Summary.read
        <*> fields.required "results" (readList Finding.read)

end StyleAudit
