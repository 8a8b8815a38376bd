import StyleAudit.Proofs.Report.Levels

/-!
# The log in a SARIF text

A SARIF text is a log of one run: the rules of the tool and the results under these rules, each with
the locations it points to. Whoever takes in the text of a report finds its rules as they are and
its results with what of a start location is written down, which leaves out a column of zero.
-/

namespace StyleAudit

set_option autoImplicit false

namespace Json

def at? (path : List String) (json : Json) : Option Json :=
  path.foldlM (fun json name => json.member? name) json

def natural? : Json → Option Nat
  | number (.natural n) => some n
  | _ => none

end Json

namespace Report

structure Region where
  line : Nat
  column : Option Nat
  deriving Repr, DecidableEq

structure LogLocation where
  uri : String
  region : Option Region
  deriving Repr, DecidableEq

structure LogResult where
  rule : String
  level : String
  message : String
  locations : List LogLocation
  deriving Repr, DecidableEq

structure Log where
  rules : List SarifRule
  results : List LogResult
  deriving Repr, DecidableEq

def Region.read? (json : Json) : Option Region := do
  let line ← json.member? "startLine" >>= Json.natural?
  let column ← (json.member? "startColumn").mapM Json.natural?
  return ⟨line, column⟩

def LogLocation.read? (json : Json) : Option LogLocation := do
  let uri ← json.at? ["physicalLocation", "artifactLocation", "uri"] >>= Json.string?
  let physical ← json.member? "physicalLocation"
  let region ← (physical.member? "region").mapM Region.read?
  return ⟨uri, region⟩

def LogResult.read? (json : Json) : Option LogResult := do
  let rule ← json.member? "ruleId" >>= Json.string?
  let level ← json.member? "level" >>= Json.string?
  let message ← json.at? ["message", "text"] >>= Json.string?
  let locations ← json.member? "locations" >>= Json.items?
  return ⟨rule, level, message, ← locations.mapM LogLocation.read?⟩

def readRule? (json : Json) : Option SarifRule := do
  let id ← json.member? "id" >>= Json.string?
  let name ← json.member? "name" >>= Json.string?
  let summary ← json.at? ["shortDescription", "text"] >>= Json.string?
  let help ← (json.member? "helpUri").mapM Json.string?
  return ⟨id, name, summary, help⟩

def Log.readRun? (run : Json) : Option Log := do
  let rules ← run.at? ["tool", "driver", "rules"] >>= Json.items?
  let results ← run.member? "results" >>= Json.items?
  return ⟨← rules.mapM readRule?, ← results.mapM LogResult.read?⟩

/-- The log of the only run that a text tells of, if it is a SARIF text of one run. -/
def Log.ofText? (source : String) : Option Log := do
  let reading := Json.read source
  guard (!reading.trailing)
  let runs ← reading.value.member? "runs" >>= Json.items?
  match runs with
  | [run] => Log.readRun? run
  | _ => none

/-- The regions that the locations of all results have. -/
def Log.regions (log : Log) : List Region :=
  (log.results.flatMap LogResult.locations).filterMap LogLocation.region

/-- The region of a start location. -/
def Region.ofStart (l : Location) : Region :=
  ⟨l.line.toNat, if 0 < l.column then some l.column.toNat else none⟩

def SarifLocation.shown (l : SarifLocation) : LogLocation :=
  ⟨l.uri, l.start.map Region.ofStart⟩

def SarifResult.shown (r : SarifResult) : LogResult :=
  ⟨r.rule, r.level, r.message, r.location.toList.map SarifLocation.shown⟩

def log (r : Report) : Log :=
  ⟨r.sarifRules, r.sarifResults.map SarifResult.shown⟩

theorem read_region (l : Location) : Region.read? (regionJson l) = some (.ofStart l) := by
  unfold regionJson Region.ofStart
  split
  · rfl
  · rfl

theorem SarifLocation.read_json (l : SarifLocation) : LogLocation.read? l.json = some l.shown := by
  rcases l with ⟨uri, start⟩
  cases start with
  | none => rfl
  | some start =>
      have unfolded : LogLocation.read? (SarifLocation.json ⟨uri, some start⟩) =
          ((Region.read? (regionJson start)).map some).bind fun region => some ⟨uri, region⟩ := rfl
      rw [unfolded, read_region]
      rfl

theorem SarifResult.read_json (r : SarifResult) : LogResult.read? r.json = some r.shown := by
  have locations : (r.location.toList.map SarifLocation.json).mapM LogLocation.read? =
      some (r.location.toList.map SarifLocation.shown) :=
    map_m_of_written SarifLocation.read_json _
  have unfolded : LogResult.read? r.json =
      ((r.location.toList.map SarifLocation.json).mapM LogLocation.read?).bind fun locations =>
        some ⟨r.rule, r.level, r.message, locations⟩ := rfl
  rw [unfolded, locations]
  rfl

theorem SarifRule.read_json (r : SarifRule) : readRule? r.json = some r := by
  rcases r with ⟨id, name, summary, help⟩
  cases help with
  | none => rfl
  | some help => rfl

/-- The log in a rendered text is that of the report. -/
theorem read_sarif_log (r : Report) : Log.ofText? (r.render .sarif) = some r.log := by
  have rules : (r.sarifRules.map SarifRule.json).mapM readRule? = some (r.sarifRules.map id) :=
    map_m_of_written SarifRule.read_json _
  have results : (r.sarifResults.map SarifResult.json).mapM LogResult.read? =
      some (r.sarifResults.map SarifResult.shown) :=
    map_m_of_written SarifResult.read_json _
  -- There is one run, and its members are the tool with its rules and the results.
  let run : Json := .object [
    ("tool", .object [("driver", .object [("name", .text toolName), ("version", .text toolVersion),
      ("rules", .array (r.sarifRules.map SarifRule.json))])]),
    ("results", .array (r.sarifResults.map SarifResult.json))]
  have unfolded : Log.readRun? run =
      ((r.sarifRules.map SarifRule.json).mapM readRule?).bind fun rules =>
        ((r.sarifResults.map SarifResult.json).mapM LogResult.read?).bind fun results =>
          some ⟨rules, results⟩ := rfl
  rw [Log.ofText?, read_sarif_text]
  change Log.readRun? run = _
  rw [unfolded, rules, results, List.map_id]
  rfl

theorem log_of_text {r : Report} {log : Log} (read : Log.ofText? (r.render .sarif) = some log) :
    log = r.log := by
  rw [read_sarif_log] at read
  exact (Option.some.inj read).symm

theorem log_results (r : Report) : r.log.results = r.assertions.values.flatMap fun a =>
    (flagged a.findings).map fun f => (sarifResult a.code f).shown := by
  rw [log, sarifResults, List.map_flatMap]
  simp only [List.map_map]
  rfl

end Report

end StyleAudit
