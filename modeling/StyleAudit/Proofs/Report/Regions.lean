import StyleAudit.Proofs.Catalog.Evidence
import StyleAudit.Proofs.Isolation
import StyleAudit.Proofs.Report.Fairness
import StyleAudit.Proofs.Report.Log

/-!
# Regions of a log

A result points to the start of the property in its evidence or, if the property has no position, to
the start of the selector. The two fall short of each other in one case: a position of the property
that tells no start hides a start of the selector that is known. In a run of the built-in techniques
each region is the start of a declaration or a block in one of the sheets. Its column counts from
one or is left out, while its line is written down even if it is unknown, and then it is zero.
-/

namespace StyleAudit

set_option autoImplicit false

namespace Evidence

def propertyStart? (e : Evidence) : Option Location :=
  e.property.position.bind Position.start

def selectorStart? (e : Evidence) : Option Location :=
  e.selector.position.bind Position.start

/-- The start of the property or, if that is unknown, the start of the selector. -/
def knownStart? (e : Evidence) : Option Location :=
  e.propertyStart?.or e.selectorStart?

/-- The start of the selector is known, and the property has a position that tells no start. -/
structure HidesStart (e : Evidence) : Prop where
  placed : e.property.position ≠ none
  startless : e.propertyStart? = none
  known : e.selectorStart? ≠ none

variable {e : Evidence}

theorem start_of_hidden (hidden : e.HidesStart) : Report.Evidence.start? e = none := by
  have startless := hidden.startless
  rw [propertyStart?] at startless
  rw [Report.Evidence.start?]
  cases position : e.property.position with
  | none => exact absurd position hidden.placed
  | some p =>
      rw [position] at startless
      exact startless

theorem start_of_clear (clear : ¬ e.HidesStart) : Report.Evidence.start? e = e.knownStart? := by
  rw [Report.Evidence.start?, knownStart?, propertyStart?, selectorStart?]
  cases position : e.property.position with
  | none => rfl
  | some p =>
      change p.start = p.start.or (e.selector.position.bind Position.start)
      cases start : p.start with
      | some l => rfl
      | none =>
          -- Without a start the position would hide that of the selector, if that were known.
          apply Classical.byContradiction
          intro known
          apply clear
          constructor
          · rw [position]
            nofun
          · rw [propertyStart?, position]
            exact start
          · exact fun none => known none.symm

end Evidence

namespace Report

/-- The result has one location in the file that the evidence of the finding names. Its region
starts at the known start of the evidence. Only if that is hidden the region is lost. -/
structure PointsAtStart (f : Finding) (result : LogResult) : Prop where
  clear : ∀ e file, f.evidence = some e → e.file = some file → ¬ e.HidesStart →
    result.locations = [⟨file, e.knownStart?.map Region.ofStart⟩]
  hidden : ∀ e file, f.evidence = some e → e.file = some file → e.HidesStart →
    result.locations = [⟨file, none⟩]

theorem shown_locations (code : String) {f : Finding} {e : Evidence} {file : String}
    (carried : f.evidence = some e) (named : e.file = some file) :
    (sarifResult code f).shown.locations =
      [⟨file, (Evidence.start? e).map Region.ofStart⟩] := by
  rw [SarifResult.shown, sarifResult, sarifLocation?, carried, Option.bind_some, named]
  rfl

theorem result_points_at_start (code : String) (f : Finding) :
    PointsAtStart f (sarifResult code f).shown := by
  constructor
  · intro e file carried named clear
    rw [shown_locations code carried named, Evidence.start_of_clear clear]
  · intro e file carried named hidden
    rw [shown_locations code carried named, Evidence.start_of_hidden hidden]
    rfl

/-- In every report the flagged findings with evidence in a file point to the start that is known of
the property or else of the selector, unless the position of the property hides the latter. -/
theorem regions_tell_every_start_in_sight (r : Report) :
    ∃ log, Log.ofText? (r.render .sarif) = some log ∧
      List.Forall₂ PointsAtStart (r.assertions.values.flatMap fun a => flagged a.findings)
        log.results := by
  refine ⟨r.log, r.read_sarif_log, ?_⟩
  rw [log_results]
  induction r.assertions.values with
  | nil => exact .nil
  | cons a rest ih =>
      rw [List.flatMap_cons, List.flatMap_cons]
      apply List.rel_append _ ih
      rw [List.forall₂_map_right_iff, List.forall₂_same]
      intro f _
      exact result_points_at_start a.code f

/-- A rule with a size in pixels at given positions. -/
def sizedBlock (rule declaration : Option Position) : Block :=
  ⟨.rule, ["p"], [⟨"font-size", "12px", declaration⟩], rule⟩

def sizedSheet (rule declaration : Option Position) : Stylesheet :=
  ⟨"a.css", some ⟨"p \x7b font-size: 12px \x7d",
    some (.sheet [.block (sizedBlock rule declaration)] none)⟩⟩

def sizesReport (sheet : Stylesheet) : Report :=
  ((Roster.builtIn.configure ⟨[], [], ["QW-CSS-T1"]⟩).run ⟨[sheet], none⟩).2

def rulePosition : Position :=
  .span ⟨3, 1⟩ ⟨3, 20⟩

theorem rule_start_stands_in :
    ∃ log, Log.ofText? ((sizesReport (sizedSheet (some rulePosition) none)).render .sarif) =
        some log ∧ log.results.map LogResult.locations = [[⟨"a.css", some ⟨3, some 1⟩⟩]] := by
  let r := sizesReport (sizedSheet (some rulePosition) none)
  let e : Evidence :=
    .ofDeclaration "a.css" (sizedBlock (some rulePosition) none) ⟨"font-size", "12px", none⟩
  obtain ⟨log, read, points⟩ := regions_tell_every_start_in_sight r
  have flagged : (r.assertions.values.flatMap fun a => flagged a.findings) =
      [⟨.warning, "Element \"font-size\" style attribute uses \"px\"", some e⟩] := by
    decide
  rw [flagged] at points
  obtain ⟨result, rest, first, none, results⟩ := List.forall₂_cons_left_iff.mp points
  obtain rfl := List.forall₂_nil_left_iff.mp none
  have clear : ¬ e.HidesStart := fun hidden => hidden.placed rfl
  refine ⟨log, read, ?_⟩
  rw [results, List.map_singleton, first.clear e "a.css" rfl rfl clear]
  decide

def sourcedSheet : Stylesheet :=
  sizedSheet (some rulePosition) (some ⟨none, none, some "a.css"⟩)

/-- The start of the rule is known, and the warning on its declaration has no region. -/
theorem known_start_of_rule_is_lost :
    ∃ log, Log.ofText? ((sizesReport sourcedSheet).render .sarif) = some log ∧
      log.results.map LogResult.locations = [[⟨"a.css", none⟩]] ∧
      ((sizesReport sourcedSheet).assertions.values.flatMap fun a =>
          (flagged a.findings).map fun f => f.evidence.bind Evidence.knownStart?) =
        [some ⟨3, 1⟩] :=
  ⟨_, read_sarif_log _, by decide, by decide⟩

end Report

theorem Roster.fresh_report_findings {techniques : List Technique} {selection : Option Selection}
    {input : Input} {a : Assertion}
    (held : a ∈ ((fresh techniques selection).report input).assertions.values) :
    ∃ t ∈ techniques, a.findings = (t.evaluate (.start t.descriptor) input).findings := by
  rw [clean_report _ input (fresh_clean techniques selection)] at held
  obtain ⟨code, found⟩ := (Keyed.mem_values_iff _ a).mp held
  rcases Report.get_add_all_was_added found with added | before
  · obtain ⟨entry, listed, rfl⟩ := List.mem_map.mp added
    have inside : entry ∈ (fresh techniques selection).entries := (List.mem_filter.mp listed).1
    refine ⟨entry.member.technique, ?_, entry.account_findings input⟩
    rw [← fresh_entries techniques selection]
    exact List.mem_map_of_mem inside
  · cases before

/-- Where the declaration starts or, if it has no position, where its block does. -/
def Site.start? (site : Site) : Option Location :=
  match site.declaration.position with
  | some position => position.start
  | none => site.block.position.bind Position.start

theorem Evidence.Shows.start {e : Evidence} {site : Site} (shows : e.Shows site) :
    Report.Evidence.start? e = site.start? := by
  rw [Report.Evidence.start?, shows.propertyPosition, shows.selectorPosition, Site.start?]
  cases site.declaration.position with
  | none => rfl
  | some position => rfl

theorem catalog_shows_files {t : Technique} (member : t ∈ catalog) {ledger : Ledger}
    {input : Input} {f : Finding} (found : f ∈ (t.evaluate ledger input).findings) {e : Evidence}
    (carried : f.evidence = some e) (named : e.file ≠ none) :
    ∃ site : Site, site.StandsIn input.stylesheets ∧ e.Shows site := by
  rcases catalog_shows member with shows | rfl
  · obtain ⟨_, _, site, stands, shown, _⟩ := shows ledger input f found e carried
    exact ⟨site, stands, shown⟩
  · exact absurd (ColorPairs.technique_names_no_file ledger input found carried) named

namespace Report

theorem column_of_start {l : Location} {column : Nat}
    (given : (Region.ofStart l).column = some column) : 1 ≤ column := by
  rw [Region.ofStart] at given
  dsimp only at given
  split at given
  · rename_i positive
    obtain rfl := Option.some.inj given
    exact UInt32.lt_iff_toNat_lt.mp positive
  · cases given

theorem mem_shown_regions_iff (code : String) {f : Finding} {region : Region} :
    (∃ location ∈ (sarifResult code f).shown.locations, location.region = some region) ↔
      ∃ e start, f.evidence = some e ∧ e.file ≠ none ∧ Evidence.start? e = some start ∧
        region = .ofStart start := by
  constructor
  · rintro ⟨location, inside, pointed⟩
    cases carried : f.evidence with
    | none =>
        rw [SarifResult.shown, sarifResult, sarifLocation?, carried] at inside
        cases inside
    | some e =>
        cases named : e.file with
        | none =>
            rw [SarifResult.shown, sarifResult, sarifLocation?, carried, Option.bind_some,
              named] at inside
            cases inside
        | some file =>
            rw [shown_locations code carried named] at inside
            obtain rfl := List.mem_singleton.mp inside
            obtain ⟨start, known, rfl⟩ := Option.map_eq_some_iff.mp pointed
            refine ⟨e, start, rfl, ?_, known, rfl⟩
            rw [named]
            nofun
  · rintro ⟨e, start, carried, named, known, rfl⟩
    obtain ⟨file, named⟩ := Option.ne_none_iff_exists'.mp named
    rw [shown_locations code carried named, known]
    exact ⟨_, List.mem_singleton_self _, rfl⟩

/-- The regions in the log of a report are those of the starts in its flagged findings. -/
theorem mem_regions_iff {r : Report} {region : Region} :
    region ∈ r.log.regions ↔ ∃ a ∈ r.assertions.values, ∃ f ∈ flagged a.findings, ∃ e start,
      f.evidence = some e ∧ e.file ≠ none ∧ Evidence.start? e = some start ∧
        region = .ofStart start := by
  -- The code of the technique has no part in the locations.
  simp only [← mem_shown_regions_iff ""]
  simp only [Log.regions, log_results, List.mem_filterMap, List.mem_flatMap, List.mem_map]
  constructor
  · rintro ⟨location, ⟨_, ⟨a, held, f, found, rfl⟩, inside⟩, pointed⟩
    exact ⟨a, held, f, found, location, inside, pointed⟩
  · rintro ⟨a, held, f, found, location, inside, pointed⟩
    exact ⟨location, ⟨_, ⟨a, held, f, found, rfl⟩, inside⟩, pointed⟩

end Report

namespace Roster

/-- Whatever was run before, each region in the log of a run of the built-in techniques is the start
of a declaration in one of the sheets or of its block. A column counts from one, and so does a line
unless that start has none: a line is zero exactly if a flagged finding starts at a line of zero. -/
theorem regions_start_where_sheets_do (calls : List Call) (input : Input) :
    let report := ((calls.foldl call builtIn).run input).2
    ∃ log, Report.Log.ofText? (report.render .sarif) = some log ∧
      (∀ region ∈ log.regions, (∀ column, region.column = some column → 1 ≤ column) ∧
        ∃ site start, Site.StandsIn site input.stylesheets ∧ site.start? = some start ∧
          region = .ofStart start ∧ (region.line = 0 ↔ start.line = 0)) ∧
      ((∃ region ∈ log.regions, region.line = 0) ↔
        ∃ a ∈ report.assertions.values, ∃ f ∈ Report.flagged a.findings, ∃ e start,
          f.evidence = some e ∧ e.file ≠ none ∧ Report.Evidence.start? e = some start ∧
            start.line = 0) := by
  intro report
  have fresh_report : report = (fresh catalog (calls.foldl Call.inForce none)).report input :=
    congrArg (fun used => (run used input).2) (calls_fresh catalog calls none)
  have lines (start : Location) : (Report.Region.ofStart start).line = 0 ↔ start.line = 0 := by
    rw [Report.Region.ofStart, ← UInt32.toNat_inj]
    rfl
  refine ⟨report.log, report.read_sarif_log, ?_, ?_⟩
  · intro region inside
    obtain ⟨a, held, f, found, e, start, carried, named, known, rfl⟩ :=
      Report.mem_regions_iff.mp inside
    rw [fresh_report] at held
    obtain ⟨t, member, findings⟩ := fresh_report_findings held
    have told : f ∈ (t.evaluate (.start t.descriptor) input).findings := by
      rw [← findings]
      exact (List.mem_filter.mp found).1
    obtain ⟨site, stands, shows⟩ := catalog_shows_files member told carried named
    refine ⟨fun column => Report.column_of_start, site, start, stands, ?_, rfl, lines start⟩
    rw [← shows.start, known]
  · simp only [Report.mem_regions_iff]
    constructor
    · rintro ⟨_, ⟨a, held, f, found, e, start, carried, named, known, rfl⟩, zero⟩
      exact ⟨a, held, f, found, e, start, carried, named, known, (lines start).mp zero⟩
    · rintro ⟨a, held, f, found, e, start, carried, named, known, zero⟩
      exact ⟨_, ⟨a, held, f, found, e, start, carried, named, known, rfl⟩, (lines start).mpr zero⟩

def unlinedSheet : Stylesheet :=
  Report.sizedSheet none (some ⟨some ⟨0, 5⟩, none, none⟩)

theorem unlined_region_is_traced :
    ∃ log, Report.Log.ofText? ((Report.sizesReport unlinedSheet).render .sarif) = some log ∧
      ⟨0, some 5⟩ ∈ log.regions ∧
      ∃ site start, Site.StandsIn site [unlinedSheet] ∧ site.start? = some start ∧
        start.line = 0 := by
  obtain ⟨log, read, traced, _⟩ := regions_start_where_sheets_do
    [.configure ⟨[], [], ["QW-CSS-T1"]⟩] ⟨[unlinedSheet], none⟩
  have inside : ⟨0, some 5⟩ ∈ log.regions := by
    have shown : log = (Report.sizesReport unlinedSheet).log := Report.log_of_text read
    rw [shown]
    decide
  obtain ⟨_, site, start, stands, known, _, zero⟩ := traced _ inside
  exact ⟨log, read, inside, site, start, stands, known, zero.mp rfl⟩

def unlinedRule : Json :=
  .object [("type", .text "rule"), ("selectors", .array [.text "p"]),
    ("declarations", .array [.object [("property", .text "font-size"), ("value", .text "12px"),
      ("position", .object [("start", .object [("column", .number (.natural 5))])])]])]

def unlinedTree : Json :=
  .object [("type", .text "stylesheet"),
    ("stylesheet", .object [("rules", .array [unlinedRule])])]

def unlinedFile : Json :=
  .object [("file", .text "a.css"), ("content", .object
    [("plain", .text "p \x7b font-size: 12px \x7d"), ("parsed", unlinedTree)])]

theorem unlined_tree_read : some (Node.ofJson unlinedTree) = unlinedSheet.tree? := by
  have settled : unlinedTree.settled = unlinedTree := rfl
  have sheet : Node.ofSettled unlinedTree = .sheet [Node.ofSettled unlinedRule] none := by
    rw [unlinedTree, Node.ofSettled]
    rfl
  rw [Node.ofJson, settled, sheet, unlinedRule, Node.ofSettled]
  rfl

theorem unlined_file_read : Stylesheet.readAll unlinedFile = .ok [unlinedSheet] := by
  have single : Json.readList Stylesheet.read unlinedFile =
      .error (Json.refuse .list unlinedFile) := rfl
  have sheet : Stylesheet.read unlinedFile = .ok ⟨"a.css",
      some ⟨"p \x7b font-size: 12px \x7d", some (Node.ofJson unlinedTree)⟩⟩ := rfl
  rw [unlined_tree_read] at sheet
  rw [Stylesheet.readAll, single, sheet]
  rfl

/-- A declaration that is read without its line comes to stand in line zero. -/
theorem unread_line_is_written_as_zero :
    Stylesheet.readAll unlinedFile = .ok [unlinedSheet] ∧
    ∃ log, Report.Log.ofText? ((Report.sizesReport unlinedSheet).render .sarif) = some log ∧
      log.regions = [⟨0, some 5⟩] :=
  ⟨unlined_file_read, _, Report.read_sarif_log _, by decide⟩

end Roster

end StyleAudit
