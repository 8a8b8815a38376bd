import StyleAudit.Report.Basic
import StyleAudit.Technique.Json

/-!
# Reports as SARIF

Transcription of `render_sarif` and `sarif_result`. A report is written in the interchange format of
static analysis tools: one rule for each assertion and one result for each finding that asks for
attention.
-/

namespace StyleAudit.Report

set_option autoImplicit false

/-- Where a result points: a file and, if it is known, the place in it where something starts. -/
structure SarifLocation where
  uri : String
  start : Option Location
  deriving Repr, DecidableEq

structure SarifResult where
  rule : String
  level : String
  message : String
  location : Option SarifLocation
  deriving Repr, DecidableEq

structure SarifRule where
  id : String
  name : String
  summary : String
  help : Option String
  deriving Repr, DecidableEq

/-- The place a piece of evidence points to. The position of the property counts; that of the
selector stands in only where the property has none. -/
def Evidence.start? (e : Evidence) : Option Location :=
  (e.property.position.or e.selector.position).bind Position.start

def sarifLocation? (f : Finding) : Option SarifLocation :=
  f.evidence.bind fun e => e.file.map fun file => ⟨file, Evidence.start? e⟩

def sarifLevel (v : Verdict) : String :=
  if v = .failed then "error" else "warning"

def sarifResult (code : String) (f : Finding) : SarifResult :=
  ⟨code, sarifLevel f.verdict, f.description, sarifLocation? f⟩

def sarifRule (a : Assertion) : SarifRule :=
  ⟨a.code, a.name, a.description, a.summary.url⟩

def sarifRules (r : Report) : List SarifRule :=
  r.assertions.values.map sarifRule

def sarifResults (r : Report) : List SarifResult :=
  r.assertions.values.flatMap fun a => (flagged a.findings).map (sarifResult a.code)

/-- A region. A column of zero is unknown and left out. -/
def regionJson (l : Location) : Json :=
  .object (("startLine", jsonOfNat l.line.toNat) ::
    if 0 < l.column then [("startColumn", jsonOfNat l.column.toNat)] else [])

def SarifLocation.json (l : SarifLocation) : Json :=
  .object [("physicalLocation", .object (("artifactLocation", .object [("uri", .text l.uri)]) ::
    optionalMember "region" (l.start.map regionJson)))]

def SarifResult.json (r : SarifResult) : Json :=
  .object [("ruleId", .text r.rule), ("level", .text r.level),
    ("message", .object [("text", .text r.message)]),
    ("locations", .array (r.location.toList.map SarifLocation.json))]

def SarifRule.json (r : SarifRule) : Json :=
  .object ([("id", .text r.id), ("name", .text r.name),
      ("shortDescription", .object [("text", .text r.summary)])] ++
    optionalMember "helpUri" (r.help.map jsonOfText))

def sarif (r : Report) : Json :=
  .object [
    ("$schema", .text "https://json.schemastore.org/sarif-2.1.0.json"),
    ("version", .text "2.1.0"),
    ("runs", .array [.object [
      ("tool", .object [("driver", .object [("name", .text toolName),
        ("version", .text toolVersion), ("rules", .array (r.sarifRules.map SarifRule.json))])]),
      ("results", .array (r.sarifResults.map SarifResult.json))]])]

def sarifText (r : Report) : String :=
  r.sarif.pretty

end StyleAudit.Report
