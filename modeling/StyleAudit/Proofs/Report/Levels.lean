import StyleAudit.Report.Format
import StyleAudit.Proofs.Json.Settled
import StyleAudit.Proofs.Technique.Json

/-!
# Levels in a rendered SARIF text

Whoever takes in the text of a SARIF report finds the levels of its results by walking from the runs
to their results. Every report is rendered as JSON that is read back as it was, so the levels found
are those of the findings that ask for attention.
-/

namespace StyleAudit

set_option autoImplicit false

open Json (Fits lastMember?)

namespace Json

def member? (name : String) : Json → Option Json
  | object members => lastMember? name members
  | _ => none

def items? : Json → Option (List Json)
  | array items => some items
  | _ => none

def string? : Json → Option String
  | text s => some s
  | _ => none

end Json

namespace Report

/-- The levels of the results of all runs of a SARIF report, if the text is one. -/
def sarifLevels? (source : String) : Option (List String) := do
  let reading := Json.read source
  guard (!reading.trailing)
  let runs ← reading.value.member? "runs" >>= Json.items?
  let results ← runs.mapM fun run => run.member? "results" >>= Json.items?
  results.flatten.mapM fun result => result.member? "level" >>= Json.string?

theorem region_fits (l : Location) (room : Nat) : Fits (room + 1) (regionJson l) := by
  apply Fits.object
  rw [List.forall_mem_cons]
  refine ⟨word_fits l.line room, ?_⟩
  split
  · rw [List.forall_mem_singleton]
    exact word_fits l.column room
  · simp

theorem SarifLocation.fits (l : SarifLocation) (room : Nat) : Fits (room + 3) l.json := by
  apply Fits.sole_member
  apply Fits.object
  simp only [List.forall_mem_cons, forall_mem_optional_member]
  exact ⟨.sole_member "uri" (.text l.uri), fun start _ => region_fits start room⟩

theorem SarifResult.fits (r : SarifResult) (room : Nat) : Fits (room + 5) r.json := by
  apply Fits.object
  simp only [List.forall_mem_cons]
  exact ⟨.text _, .text _, .sole_member "text" (.text r.message),
    .items_of fun l _ => l.fits room, by simp⟩

theorem SarifRule.fits (r : SarifRule) (room : Nat) : Fits (room + 2) r.json := by
  apply Fits.object
  simp only [List.forall_mem_append, List.forall_mem_cons, forall_mem_optional_member]
  exact ⟨⟨.text _, .text _, .sole_member "text" (.text r.summary), by simp⟩,
    fun help _ => .text help⟩

theorem sarif_fits (r : Report) (room : Nat) : Fits (room + 9) r.sarif := by
  have rules : Fits (room + 4) (.array (r.sarifRules.map SarifRule.json)) :=
    .items_of fun rule _ => rule.fits (room + 1)
  have driver : Fits (room + 5) (.object [("name", .text toolName), ("version", .text toolVersion),
      ("rules", .array (r.sarifRules.map SarifRule.json))]) := by
    apply Fits.object
    simp only [List.forall_mem_cons]
    exact ⟨.text _, .text _, rules, by simp⟩
  have results : Fits (room + 6) (.array (r.sarifResults.map SarifResult.json)) :=
    .items_of fun result _ => result.fits room
  apply Fits.object
  simp only [List.forall_mem_cons]
  refine ⟨.text _, .text _, ?_, by simp⟩
  apply Fits.array
  rw [List.forall_mem_singleton]
  apply Fits.object
  simp only [List.forall_mem_cons]
  exact ⟨.sole_member "driver" driver, results, by simp⟩

theorem read_sarif_text (r : Report) : Json.read (r.render .sarif) = ⟨r.sarif, false⟩ :=
  Json.read_pretty (r.sarif_fits 0) (by decide)

theorem map_m_of_written {α β : Type} {write : α → Json} {find : Json → Option β}
    {shown : α → β} (found : ∀ a, find (write a) = some (shown a)) (as : List α) :
    (as.map write).mapM find = some (as.map shown) := by
  induction as with
  | nil => rfl
  | cons a rest ih =>
      rw [List.map_cons, List.mapM_cons, found, ih]
      rfl

theorem read_sarif_levels (r : Report) :
    sarifLevels? (r.render .sarif) = some (r.sarifResults.map SarifResult.level) := by
  have level (result : SarifResult) :
      (result.json.member? "level" >>= Json.string?) = some result.level := rfl
  rw [sarifLevels?, read_sarif_text]
  -- There is one run, so its results are all there are.
  change ((r.sarifResults.map SarifResult.json) ++ []).mapM _ = _
  rw [List.append_nil, map_m_of_written level]

theorem error_level_iff (v : Verdict) : sarifLevel v = "error" ↔ v = .failed := by
  cases v with
  | failed => decide
  | passed => decide
  | warning => decide
  | inapplicable => decide

theorem mem_levels_iff {r : Report} {level : String} :
    level ∈ r.sarifResults.map SarifResult.level ↔
      ∃ a ∈ r.assertions.values, ∃ f ∈ flagged a.findings, sarifLevel f.verdict = level := by
  simp only [sarifResults, List.mem_map, List.mem_flatMap]
  constructor
  · rintro ⟨_, ⟨a, member, f, inside, rfl⟩, rfl⟩
    exact ⟨a, member, f, inside, rfl⟩
  · rintro ⟨a, member, f, inside, rfl⟩
    exact ⟨_, ⟨a, member, f, inside, rfl⟩, rfl⟩

theorem error_mem_levels_iff {r : Report} :
    "error" ∈ r.sarifResults.map SarifResult.level ↔
      ∃ a ∈ r.assertions.values, ∃ f ∈ a.findings, f.verdict = .failed := by
  simp only [mem_levels_iff, error_level_iff, flagged, List.mem_filter]
  constructor
  · rintro ⟨a, member, f, ⟨inside, _⟩, failed⟩
    exact ⟨a, member, f, inside, failed⟩
  · rintro ⟨a, member, f, inside, failed⟩
    exact ⟨a, member, f, ⟨inside, by rw [failed]; rfl⟩, failed⟩

theorem no_levels_iff {r : Report} :
    r.sarifResults.map SarifResult.level = [] ↔
      ∀ a ∈ r.assertions.values, flagged a.findings = [] := by
  simp [sarifResults, List.flatMap_eq_nil_iff]

end Report

end StyleAudit
