import StyleAudit.Proofs.Catalog.View

/-!
# What evidence shows

Evidence is attached to a finding as a whole or not at all: an inapplicable finding carries none,
and neither does one whose selector, property or value would be left empty. On stylesheets it shows
one declaration as it stands in its block and its sheet.
-/

namespace StyleAudit

set_option autoImplicit false

/-- Nothing is left empty that tells where to look. -/
structure Evidence.IsWhole (e : Evidence) : Prop where
  selector : e.selector.value ≠ ""
  property : e.property.name ≠ ""
  value : e.property.value ≠ ""

theorem Evidence.is_complete_iff {e : Evidence} : e.isComplete = true ↔ e.IsWhole := by
  simp only [isComplete, Bool.and_eq_true, bne_iff_ne]
  constructor
  · rintro ⟨⟨selector, property⟩, value⟩
    exact ⟨selector, property, value⟩
  · rintro ⟨selector, property, value⟩
    exact ⟨⟨selector, property⟩, value⟩

/-- If the finding carries evidence, then it is applicable and the evidence is whole and comes from
where it is said to come from. -/
def Finding.IsSupported (source : Evidence → Prop) (f : Finding) : Prop :=
  ∀ e, f.evidence = some e → f.verdict ≠ .inapplicable ∧ e.IsWhole ∧ source e

namespace Finding

variable {verdict : Verdict} {description : String} {e shown : Evidence}
  {source : Evidence → Prop}

theorem evidence_with_iff : ((bare verdict description).withEvidence e).evidence = some shown ↔
    shown = e ∧ verdict ≠ .inapplicable ∧ e.IsWhole := by
  have attached : ((bare verdict description).verdict != .inapplicable && e.isComplete) = true ↔
      verdict ≠ .inapplicable ∧ e.IsWhole := by
    rw [Bool.and_eq_true, bne_iff_ne, Evidence.is_complete_iff]
    rfl
  rw [withEvidence]
  split
  · rename_i holds
    rw [attached] at holds
    simp only [Option.some.injEq, holds, and_self, and_true, ne_eq, not_false_eq_true]
    exact eq_comm
  · rename_i fails
    rw [attached] at fails
    simp only [bare, reduceCtorEq, false_iff]
    exact fun both => fails both.2

theorem verdict_on_declaration (file : String) (block : Block) (d : Declaration) :
    (onDeclaration file block d verdict description).verdict = verdict :=
  verdict_withEvidence _ _

theorem supported_bare : (bare verdict description).IsSupported source := by
  intro e carried
  cases carried

theorem supported_with (comes : source e) :
    ((bare verdict description).withEvidence e).IsSupported source := by
  intro shown carried
  have verdictKept := verdict_withEvidence (bare verdict description) e
  obtain ⟨rfl, applicable, whole⟩ := evidence_with_iff.mp carried
  exact ⟨verdictKept ▸ applicable, whole, comes⟩

end Finding

/-- A declaration in a block of a sheet. -/
structure Site where
  sheet : Stylesheet
  block : Block
  declaration : Declaration

/-- The declaration is complete, and its block is visited in one of the sheets. -/
structure Site.StandsIn (site : Site) (sheets : List Stylesheet) : Prop where
  listed : site.sheet ∈ sheets
  visited : site.sheet.Holds site.block
  declared : site.declaration ∈ site.block.declarations
  named : site.declaration.property ≠ ""
  valued : site.declaration.value ≠ ""

/-- The evidence shows the declaration as it stands in its block and its sheet. -/
structure Evidence.Shows (e : Evidence) (site : Site) : Prop where
  file : e.file = some site.sheet.file
  css : e.css = some site.block.css
  selector : e.selector.value = ",".intercalate site.block.selectors
  selectorPosition : e.selector.position = site.block.position
  property : e.property.name = site.declaration.property
  value : e.property.value = site.declaration.value
  propertyPosition : e.property.position = site.declaration.position

/-- The evidence shows a complete declaration of one of the properties in one of the sheets. -/
def Evidence.FromSheets (sheets : List Stylesheet) (properties : List String) (e : Evidence) :
    Prop :=
  ∃ site : Site, site.StandsIn sheets ∧ e.Shows site ∧ site.declaration.property ∈ properties

theorem Block.mem_complete_iff {block : Block} {d : Declaration} :
    d ∈ block.complete ↔ d ∈ block.declarations ∧ d.property ≠ "" ∧ d.value ≠ "" := by
  simp only [complete, List.mem_filter, Declaration.isComplete, Bool.and_eq_true, bne_iff_ne]

theorem Evidence.of_declaration_shows (site : Site) :
    (ofDeclaration site.sheet.file site.block site.declaration).Shows site :=
  ⟨rfl, rfl, rfl, rfl, rfl, rfl, rfl⟩

/-- The finding carries evidence that shows the declaration. -/
def Finding.Shows (f : Finding) (site : Site) : Prop :=
  ∃ e, f.evidence = some e ∧ e.Shows site

/-- Only an inapplicable finding, or one without any text for the selector, leaves out the complete
declaration it is about. -/
theorem Finding.on_declaration_shows {site : Site}
    (complete : site.declaration ∈ site.block.complete) {verdict : Verdict} (description : String)
    (applicable : verdict ≠ .inapplicable) (selected : site.block.selectorText ≠ "") :
    (onDeclaration site.sheet.file site.block site.declaration verdict description).Shows site := by
  obtain ⟨_, named, valued⟩ := Block.mem_complete_iff.mp complete
  exact ⟨_, evidence_with_iff.mpr ⟨rfl, applicable, selected, named, valued⟩,
    Evidence.of_declaration_shows site⟩

/-- The finding shows nothing, or one of the complete declarations of the block. -/
inductive Finding.RestsOn (properties : List String) (file : String) (block : Block) :
    Finding → Prop where
  | nothing (verdict : Verdict) (description : String) :
      RestsOn properties file block (.bare verdict description)
  | declaration {d : Declaration} (complete : d ∈ block.complete)
      (inspected : d.property ∈ properties) (verdict : Verdict) (description : String) :
      RestsOn properties file block (.onDeclaration file block d verdict description)

/-- Whatever is found in a sheet rests on a block in it. -/
def Grounded (properties : List String) (findings : Stylesheet → List Finding) : Prop :=
  ∀ sheet, ∀ f ∈ findings sheet,
    ∃ block, sheet.Holds block ∧ f.RestsOn properties sheet.file block

theorem Finding.RestsOn.supported {properties : List String} {sheet : Stylesheet} {block : Block}
    {f : Finding} (rests : f.RestsOn properties sheet.file block) {sheets : List Stylesheet}
    (listed : sheet ∈ sheets) (visited : sheet.Holds block) :
    f.IsSupported (Evidence.FromSheets sheets properties) := by
  cases rests with
  | nothing verdict description => exact supported_bare
  | @declaration d complete inspected verdict description =>
      obtain ⟨declared, named, valued⟩ := Block.mem_complete_iff.mp complete
      have comes : Evidence.FromSheets sheets properties (.ofDeclaration sheet.file block d) :=
        ⟨⟨sheet, block, d⟩, ⟨listed, visited, declared, named, valued⟩,
          Evidence.of_declaration_shows ⟨sheet, block, d⟩, inspected⟩
      rw [onDeclaration]
      exact supported_with comes

theorem Grounded.supported {properties : List String} {findings : Stylesheet → List Finding}
    (grounded : Grounded properties findings) (sheets : List Stylesheet) :
    ∀ f ∈ sheets.flatMap findings, f.IsSupported (Evidence.FromSheets sheets properties) := by
  intro f found
  obtain ⟨sheet, listed, inside⟩ := List.mem_flatMap.mp found
  obtain ⟨block, visited, rests⟩ := grounded sheet f inside
  exact rests.supported listed visited

section Grounding

variable {properties : List String} {tree : Stylesheet → Option Node}

theorem grounded_of_blocks (judge : String → Block → Option Finding)
    (rests : ∀ file block f, judge file block = some f → f.RestsOn properties file block)
    (visited : ∀ sheet, ∀ block ∈ blocksIn (tree sheet), sheet.Holds block) :
    Grounded properties fun sheet => findingsOnBlocks (judge sheet.file) (tree sheet) := by
  intro sheet f found
  dsimp only at found
  rw [findings_on_blocks_eq] at found
  obtain ⟨block, inside, judged⟩ := List.mem_filterMap.mp found
  exact ⟨block, visited sheet block inside, rests sheet.file block f judged⟩

theorem grounded_of_declarations (judge : String → Block → Declaration → Option Finding)
    (rests : ∀ file block f, ∀ d ∈ block.complete, judge file block d = some f →
      f.RestsOn properties file block)
    (visited : ∀ sheet, ∀ block ∈ blocksIn (tree sheet), sheet.Holds block) :
    Grounded properties fun sheet => findingsOnDeclarations (judge sheet.file) (tree sheet) := by
  intro sheet f found
  dsimp only at found
  rw [findings_on_declarations_eq] at found
  obtain ⟨block, inside, told⟩ := List.mem_flatMap.mp found
  obtain ⟨d, complete, judged⟩ := List.mem_filterMap.mp told
  exact ⟨block, visited sheet block inside, rests sheet.file block f d complete judged⟩

end Grounding

namespace Stylesheet

theorem visited_if_parsed (sheet : Stylesheet) :
    ∀ block ∈ blocksIn sheet.parsed?, sheet.Holds block := by
  intro block inside
  rw [blocks_in_parsed] at inside
  split at inside
  · cases inside
  · exact holds_iff.mpr inside

theorem visited_if_mentioned (needle : String) (sheet : Stylesheet) :
    ∀ block ∈ blocksIn (sheet.parsedMentioning? needle), sheet.Holds block := by
  intro block inside
  rw [blocks_in_parsed_mentioning] at inside
  split at inside
  · exact sheet.visited_if_parsed block inside
  · cases inside

end Stylesheet

end StyleAudit
