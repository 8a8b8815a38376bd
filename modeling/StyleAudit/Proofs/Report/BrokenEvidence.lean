import StyleAudit.Report.Json
import StyleAudit.Proofs.Json.Fields

/-!
# Broken evidence

A finding needs its verdict and its description, each given once. Its evidence is read from its
other members as a whole: if one of them is not what it should be, at any depth, the finding is read
without evidence, and it is read all the same. So damage to the evidence of one finding in a report
does not go beyond that evidence.
-/

namespace StyleAudit

set_option autoImplicit false

open Json (Fields Placed ReadError valuesOf readNullable readText readList readMapping readRecord)
open Json.Placed (map_eq_ok_iff seq_eq_ok_iff)

namespace Evidence

/-- Selector and property are given once and can be read. The text of the block and the file may be
lacking or null; what is given is a text, and given once. -/
structure AmongMembers (members : List (String × Json)) (e : Evidence) : Prop where
  css : Fields.ReadAs (readNullable readText) (.ok none) e.css (valuesOf "cssCode" members)
  file : Fields.ReadAs (readNullable readText) (.ok none) e.file
    (valuesOf "stylesheetFile" members)
  selector : ∃ value, valuesOf "selector" members = [value] ∧
    SelectorEvidence.read value = .ok e.selector
  property : ∃ value, valuesOf "property" members = [value] ∧
    PropertyEvidence.read value = .ok e.property

theorem of_members_iff {members : List (String × Json)} {e : Evidence} :
    ofMembers? members = some e ↔ AmongMembers members e := by
  have found : ofMembers? members = some e ↔
      ofFields (.ofObject fieldNames members) = .ok e := by
    rw [← Placed.get_eq_ok_iff, ofMembers?]
    cases (ofFields (.ofObject fieldNames members)).get with
    | ok other => simp [Except.toOption]
    | error error => simp [Except.toOption]
  rw [found, ofFields]
  simp only [seq_eq_ok_iff, map_eq_ok_iff, Fields.required_eq_ok_iff, Fields.defaulted_eq_ok_iff,
    Fields.values]
  constructor
  · rintro ⟨_, ⟨_, ⟨_, ⟨css, cssRead, rfl⟩, file, fileRead, rfl⟩, selector, selectorRead, rfl⟩,
      property, propertyRead, rfl⟩
    exact ⟨cssRead, fileRead, selectorRead, propertyRead⟩
  · rintro ⟨css, file, selector, property⟩
    exact ⟨_, ⟨_, ⟨_, ⟨_, css, rfl⟩, _, file, rfl⟩, _, selector, rfl⟩, _, property, rfl⟩

theorem of_others {names : List String} (members : List (String × Json))
    (foreign : ∀ name ∈ fieldNames, name ∉ names) {e : Evidence} :
    AmongMembers (Fields.ofObject names members).others e ↔ AmongMembers members e := by
  simp only [fieldNames, List.forall_mem_cons] at foreign
  obtain ⟨css, file, selector, property, _⟩ := foreign
  constructor
  · rintro ⟨cssHeld, fileHeld, selectorHeld, propertyHeld⟩
    rw [Fields.values_others css] at cssHeld
    rw [Fields.values_others file] at fileHeld
    rw [Fields.values_others selector] at selectorHeld
    rw [Fields.values_others property] at propertyHeld
    exact ⟨cssHeld, fileHeld, selectorHeld, propertyHeld⟩
  · rintro ⟨cssHeld, fileHeld, selectorHeld, propertyHeld⟩
    rw [← Fields.values_others css] at cssHeld
    rw [← Fields.values_others file] at fileHeld
    rw [← Fields.values_others selector] at selectorHeld
    rw [← Fields.values_others property] at propertyHeld
    exact ⟨cssHeld, fileHeld, selectorHeld, propertyHeld⟩

end Evidence

namespace Finding

/-- The verdict and the description are given, each of them once. -/
structure Told (members : List (String × Json)) (verdict : Verdict) (description : String) :
    Prop where
  verdict : ∃ value, valuesOf "verdict" members = [value] ∧ Verdict.read value = .ok verdict
  description : valuesOf "description" members = [.text description]

theorem read_iff {members : List (String × Json)} (held : (Json.object members).fault? = none)
    {f : Finding} : read (.object members) = .ok f ↔
      Told members f.verdict f.description ∧
        ∀ e, f.evidence = some e ↔ Evidence.AmongMembers members e := by
  have foreign : ∀ name ∈ Evidence.fieldNames, name ∉ ["verdict", "description"] := by decide
  have evidence : (∀ e, f.evidence = some e ↔ Evidence.AmongMembers members e) ↔
      Evidence.ofMembers? (Fields.ofObject ["verdict", "description"] members).others =
        f.evidence := by
    rw [eq_comm, Option.ext_iff]
    simp only [Evidence.of_members_iff, Evidence.of_others members foreign]
  rw [evidence, read, Json.read_spread_record_iff]
  simp only [seq_eq_ok_iff, map_eq_ok_iff, Fields.required_eq_ok_iff, Fields.values,
    Json.read_text_iff]
  constructor
  · rintro ⟨_, shape, _, _, ⟨_, ⟨verdict, verdictRead, rfl⟩, description, ⟨_, given, rfl⟩, rfl⟩,
      found, same, rfl⟩
    cases shape
    cases same
    exact ⟨⟨verdictRead, given⟩, rfl⟩
  · rintro ⟨⟨verdictRead, given⟩, found⟩
    refine ⟨members, rfl, fun member inside _ => Json.fault_of_object.mp held member inside, _,
      ⟨_, ⟨_, verdictRead, rfl⟩, _, ⟨_, given, rfl⟩, rfl⟩, _, rfl, ?_⟩
    rw [found]

theorem read_exists_iff {members : List (String × Json)}
    (held : (Json.object members).fault? = none) :
    (∃ f, read (.object members) = .ok f) ↔
      ∃ verdict description, Told members verdict description := by
  constructor
  · rintro ⟨f, readAsFinding⟩
    exact ⟨f.verdict, f.description, ((read_iff held).mp readAsFinding).1⟩
  · rintro ⟨verdict, description, told⟩
    refine ⟨⟨verdict, description, Evidence.ofMembers? members⟩, (read_iff held).mpr ⟨told, ?_⟩⟩
    exact fun e => Evidence.of_members_iff

end Finding

/-- The members around one of an object. -/
structure Around where
  before : List (String × Json)
  after : List (String × Json)

def Around.fill (around : Around) (name : String) (value : Json) : Json :=
  .object (around.before ++ (name, value) :: around.after)

/-- All that stands around one finding in a report. -/
structure FindingFrame where
  report : Around
  accounts : Around
  code : String
  account : Around
  left : List Json
  right : List Json

def FindingFrame.fill (frame : FindingFrame) (finding : Json) : Json :=
  frame.report.fill "assertions" (frame.accounts.fill frame.code
    (frame.account.fill "results" (.array (frame.left ++ finding :: frame.right))))

/-- All that a report tells beside one finding. Of several accounts under one code the last is the
one that stands in the report. -/
structure Report.Rest where
  kind : String
  tally : Tally
  earlier : List (String × Assertion)
  later : List (String × Assertion)
  code : String
  account : Assertion
  left : List Finding
  right : List Finding

def Report.Rest.fill (rest : Report.Rest) (f : Finding) : Report :=
  ⟨rest.kind, rest.tally, Keyed.ofList (rest.earlier ++
    (rest.code, { rest.account with findings := rest.left ++ f :: rest.right }) :: rest.later)⟩

section Lists

variable {α β : Type} {P : α → β → Prop}

theorem forall_two_refilled {left right : List α} {x : α} {ys : List β}
    (related : List.Forall₂ P (left ++ x :: right) ys) :
    ∃ before y after, ys = before ++ y :: after ∧ P x y ∧
      ∀ other changed, P other changed →
        List.Forall₂ P (left ++ other :: right) (before ++ changed :: after) := by
  induction left generalizing ys with
  | nil =>
      obtain ⟨y, after, first, others, rfl⟩ := List.forall₂_cons_left_iff.mp related
      exact ⟨[], y, after, rfl, first, fun other changed held => .cons held others⟩
  | cons first left ih =>
      obtain ⟨y, rest, same, others, rfl⟩ := List.forall₂_cons_left_iff.mp related
      obtain ⟨before, middle, after, rfl, held, replace⟩ := ih others
      exact ⟨y :: before, middle, after, rfl, held, fun other changed also =>
        .cons same (replace other changed also)⟩

end Lists

theorem Json.read_list_refilled {α : Type} {reader : Json → Except ReadError α}
    {left right : List Json} {value : Json} {values : List α}
    (read : readList reader (.array (left ++ value :: right)) = .ok values) :
    ∃ before a after, values = before ++ a :: after ∧ reader value = .ok a ∧
      ∀ replaced other, reader replaced = .ok other →
        readList reader (.array (left ++ replaced :: right)) = .ok (before ++ other :: after) := by
  obtain ⟨_, shape, each⟩ := read_list_iff.mp read
  cases shape
  obtain ⟨before, a, after, rfl, held, replace⟩ := forall_two_refilled each
  exact ⟨before, a, after, rfl, held, fun replaced other also =>
    read_list_iff.mpr ⟨_, rfl, replace replaced other also⟩⟩

theorem Assertion.read_refilled {around : Around} {value : Json} {account : Assertion}
    (read : Assertion.read (around.fill "results" value) = .ok account) :
    readList Finding.read value = .ok account.findings ∧
      ∀ replaced findings, readList Finding.read replaced = .ok findings →
        Assertion.read (around.fill "results" replaced) = .ok { account with findings } := by
  have refilled := Json.read_record_refilled _ (by decide) (by
    intro held replaced f
    simp (disch := decide) only [map_eq_ok_iff, seq_eq_ok_iff, Fields.required_eq_ok_iff,
      Fields.values, Fields.values_beside_hole]
    exact id) read
  obtain ⟨f, findings, others, held, rfl, replace⟩ := refilled
  simp only [seq_eq_ok_iff, map_eq_ok_iff] at others
  obtain ⟨_, ⟨_, ⟨_, ⟨_, ⟨_, _, rfl⟩, _, _, rfl⟩, _, _, rfl⟩, _, _, rfl⟩, _, _, rfl⟩ := others
  exact ⟨held, replace⟩

/-- A report can be read with any other finding in the place of one, and all else in it stays. -/
theorem Report.read_refilled {frame : FindingFrame} {value : Json} {r : Report}
    (read : Report.read (frame.fill value) = .ok r) :
    ∃ (rest : Rest) (f : Finding), Finding.read value = .ok f ∧ r = rest.fill f ∧
      ∀ replaced g, Finding.read replaced = .ok g →
        Report.read (frame.fill replaced) = .ok (rest.fill g) := by
  have refilled := Json.read_record_refilled _ (by decide) (by
    intro held replaced f
    simp (disch := decide) only [map_eq_ok_iff, seq_eq_ok_iff, Fields.required_eq_ok_iff,
      Fields.values, Fields.values_beside_hole]
    exact id) read
  obtain ⟨f, assertions, others, accountsRead, rfl, replaceAccounts⟩ := refilled
  simp only [seq_eq_ok_iff, map_eq_ok_iff] at others
  obtain ⟨_, ⟨kind, _, rfl⟩, tally, _, rfl⟩ := others
  obtain ⟨_, entries, shape, rfl, each⟩ := Json.read_mapping_iff.mp accountsRead
  cases shape
  obtain ⟨earlier, ⟨code, account⟩, later, rfl, ⟨accountRead, named⟩, replaceEntry⟩ :=
    forall_two_refilled each
  obtain ⟨findingsRead, replaceFindings⟩ := Assertion.read_refilled accountRead
  obtain ⟨left, f, right, listed, findingRead, replaceFinding⟩ :=
    Json.read_list_refilled findingsRead
  refine ⟨⟨kind, tally, earlier, later, code, account, left, right⟩, f, findingRead, ?_, ?_⟩
  · have same : { account with findings := left ++ f :: right } = account := by rw [← listed]
    rw [Rest.fill, same]
  · intro replaced g readAsFinding
    have findings := replaceFinding replaced g readAsFinding
    have entry := replaceEntry (frame.code, _) (code, _) ⟨replaceFindings _ _ findings, named⟩
    exact replaceAccounts _ _ (Json.read_mapping_iff.mpr ⟨_, _, rfl, rfl, entry⟩)

/-- An object is read as a finding exactly if it tells a verdict and a description, whatever its
other members. The finding has evidence exactly if these members make it up. So if a report can be
read, then it can be read with any other members beside the verdict and the description of one
finding, and nothing but the evidence of that finding changes. -/
theorem broken_evidence_costs_no_finding :
    (∀ members, (Json.object members).fault? = none →
      ((∃ f, Finding.read (.object members) = .ok f) ↔
        ∃ verdict description, Finding.Told members verdict description) ∧
      ∀ f, Finding.read (.object members) = .ok f →
        Finding.Told members f.verdict f.description ∧
          ∀ e, f.evidence = some e ↔ Evidence.AmongMembers members e) ∧
    ∀ (frame : FindingFrame) (members damaged : List (String × Json)) (r : Report),
      (Json.object members).fault? = none → (Json.object damaged).fault? = none →
      valuesOf "verdict" damaged = valuesOf "verdict" members →
      valuesOf "description" damaged = valuesOf "description" members →
      Report.read (frame.fill (.object members)) = .ok r →
        ∃ (rest : Report.Rest) (f : Finding) (evidence : Option Evidence),
          Finding.read (.object members) = .ok f ∧ r = rest.fill f ∧
          Finding.read (.object damaged) = .ok { f with evidence } ∧
          Report.read (frame.fill (.object damaged)) = .ok (rest.fill { f with evidence }) := by
  constructor
  · intro members held
    exact ⟨Finding.read_exists_iff held, fun f => (Finding.read_iff held).mp⟩
  · intro frame members damaged r held alsoHeld verdicts descriptions read
    obtain ⟨rest, f, findingRead, rfl, replace⟩ := Report.read_refilled read
    obtain ⟨⟨verdict, description⟩, _⟩ := (Finding.read_iff held).mp findingRead
    have damagedRead : Finding.read (.object damaged) =
        .ok { f with evidence := Evidence.ofMembers? damaged } := by
      refine (Finding.read_iff alsoHeld).mpr ⟨⟨?_, ?_⟩, fun e => Evidence.of_members_iff⟩
      · rw [verdicts]
        exact verdict
      · rw [descriptions]
        exact description
    exact ⟨rest, f, _, findingRead, rfl, damagedRead, replace _ _ damagedRead⟩

def smallSize : Finding :=
  ⟨.failed, "Text is too small", some ⟨none, some "a.css", ⟨"p", none⟩, ⟨"font-size", "9px", none⟩⟩⟩

def smallSizeAccount : Assertion where
  name := "Sizes"
  code := "QW-CSS-T1"
  mapping := "T1"
  description := ""
  summary := ⟨⟨"*", []⟩, [], [], none, ⟨0, 0, 1, 0⟩, some .failed, "Text is too small"⟩
  findings := [smallSize]

def smallSizeReport : Report :=
  Report.empty.add smallSizeAccount

def aroundSmallSize : FindingFrame where
  report := ⟨[("type", .text toolName), ("metadata", smallSizeReport.tally.json)], []⟩
  accounts := ⟨[], []⟩
  code := "QW-CSS-T1"
  account := ⟨[("name", .text "Sizes"), ("code", .text "QW-CSS-T1"), ("mapping", .text "T1"),
    ("description", .text ""), ("metadata", smallSizeAccount.summary.json)], []⟩
  left := []
  right := []

def smallSizeMembers (selector : Json) : List (String × Json) :=
  [("verdict", .text "failed"), ("description", .text "Text is too small"),
    ("stylesheetFile", .text "a.css"), ("selector", selector),
    ("property", .object [("name", .text "font-size"), ("value", .text "9px")])]

/-- A selector that is a text and no object takes the evidence from the finding, and nothing else
from the report. -/
theorem bare_selector_costs_no_finding :
    let members := smallSizeMembers (.object [("value", .text "p")])
    let damaged := smallSizeMembers (.text "p")
    aroundSmallSize.fill (.object members) = smallSizeReport.json ∧
    (Json.object members).fault? = none ∧ (Json.object damaged).fault? = none ∧
    valuesOf "verdict" damaged = valuesOf "verdict" members ∧
    valuesOf "description" damaged = valuesOf "description" members ∧
    Report.read (aroundSmallSize.fill (.object members)) = .ok smallSizeReport ∧
    Finding.read (.object members) = .ok smallSize ∧
    Finding.Told members .failed "Text is too small" ∧
    ∃ (rest : Report.Rest) (evidence : Option Evidence),
      smallSizeReport = rest.fill smallSize ∧ evidence = none ∧
      Finding.read (.object damaged) = .ok { smallSize with evidence } ∧
      Report.read (aroundSmallSize.fill (.object damaged)) =
        .ok (rest.fill { smallSize with evidence }) := by
  intro members damaged
  have read : Report.read (aroundSmallSize.fill (.object members)) = .ok smallSizeReport := by rfl
  have held : (Json.object members).fault? = none := by rfl
  have alsoHeld : (Json.object damaged).fault? = none := by rfl
  have whole : Finding.read (.object members) = .ok smallSize := by rfl
  have bare : Finding.read (.object damaged) = .ok { smallSize with evidence := none } := by rfl
  obtain ⟨findings, frames⟩ := broken_evidence_costs_no_finding
  obtain ⟨told, _⟩ := (findings members held).2 smallSize whole
  obtain ⟨rest, f, evidence, findingRead, shape, damagedRead, reportRead⟩ :=
    frames aroundSmallSize members damaged smallSizeReport held alsoHeld rfl rfl read
  obtain rfl : smallSize = f := Except.ok.inj (whole.symm.trans findingRead)
  have lost : evidence = none :=
    congrArg Finding.evidence (Except.ok.inj (damagedRead.symm.trans bare))
  exact ⟨rfl, held, alsoHeld, rfl, rfl, read, whole, told, rest, evidence, shape, lost, damagedRead,
    reportRead⟩

end StyleAudit
