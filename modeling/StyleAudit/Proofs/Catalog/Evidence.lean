import StyleAudit.Proofs.Catalog.Combination
import StyleAudit.Proofs.Catalog.Justification
import StyleAudit.Proofs.ColorPairs.Evidence

/-!
# Where the evidence of the catalog comes from

Each technique for stylesheets says of a block either something that shows nothing, or something
that shows one of the complete declarations of the block, of a property the technique is about. So
its evidence leads back to the input, as that of the technique for colors does. Nor is evidence held
back: on font sizes and on blinking text each finding about a declaration shows it, as long as there
is a selector to show.
-/

namespace StyleAudit

set_option autoImplicit false

variable {file : String} {block : Block} {d : Declaration} {f : Finding}

theorem Finding.rests_if {properties : List String} {p : Prop} [Decidable p]
    (complete : d ∈ block.complete) (inspected : p → d.property ∈ properties) {verdict : Verdict}
    {description : String} (judged : (if p then
      some (onDeclaration file block d verdict description) else none) = some f) :
    f.RestsOn properties file block := by
  obtain ⟨holds, same⟩ := Option.ite_none_right_eq_some.mp judged
  obtain rfl := Option.some.inj same
  exact .declaration complete (inspected holds) verdict description

theorem FontSize.judge_rests (complete : d ∈ block.complete)
    (judged : judge file block d = some f) :
    f.RestsOn descriptor.target.attributes file block :=
  Finding.rests_if complete List.mem_singleton.mpr judged

theorem LineSpacing.judge_rests (complete : d ∈ block.complete)
    (judged : judge file block d = some f) :
    f.RestsOn descriptor.target.attributes file block := by
  refine Finding.rests_if complete ?_ judged
  intro holds
  obtain ⟨_, named⟩ := Bool.and_eq_true_iff.mp holds
  exact List.mem_singleton.mpr (of_decide_eq_true named)

theorem Blinking.judge_rests (complete : d ∈ block.complete)
    (judged : judge file block d = some f) :
    f.RestsOn descriptor.target.attributes file block := by
  refine Finding.rests_if complete ?_ judged
  intro holds
  obtain ⟨both, _⟩ := Bool.and_eq_true_iff.mp holds
  obtain ⟨_, named⟩ := Bool.and_eq_true_iff.mp both
  exact List.mem_singleton.mpr (of_decide_eq_true named)

theorem TextStyling.judge_rests (file : String) (complete : d ∈ block.complete) :
    (judge file block d).RestsOn descriptor.target.attributes file block := by
  rw [judge]
  split
  · rename_i listed
    exact .declaration complete (List.contains_iff_mem.mp listed) _ _
  · exact .nothing _ _

theorem ContainerWidth.judge_rests (complete : d ∈ block.complete)
    (judged : judge file block d = some f) :
    f.RestsOn descriptor.target.attributes file block := by
  rw [judge] at judged
  split at judged
  · rename_i holds
    obtain ⟨named, _⟩ := Bool.and_eq_true_iff.mp holds
    split at judged
    · obtain rfl := Option.some.inj judged
      exact .declaration complete (List.mem_singleton.mpr (of_decide_eq_true named)) _ _
    · obtain rfl := Option.some.inj judged
      exact .nothing _ _
  · cases judged

theorem Finding.rests_on_found (file : String) {property : String}
    (found : block.find? property = some d) {properties : List String}
    (inspected : property ∈ properties) (verdict : Verdict) (description : String) :
    (onDeclaration file block d verdict description).RestsOn properties file block := by
  have decides := Block.find_eq_some_iff.mp found
  exact .declaration decides.complete (decides.1.symm ▸ inspected) verdict description

theorem TextAlignment.judge_rests (judged : judge file block = some f) :
    f.RestsOn descriptor.target.attributes file block := by
  have aligns : "text-align" ∈ descriptor.target.attributes := List.mem_cons_self
  rw [judge] at judged
  split at judged
  · cases judged
  · cases alignment : block.find? "text-align" with
    | none =>
        rw [alignment] at judged
        obtain rfl := Option.some.inj judged
        exact .nothing _ _
    | some align =>
        have shown := Finding.rests_on_found file alignment aligns
        rw [alignment] at judged
        dsimp only at judged
        split at judged
        · obtain rfl := Option.some.inj judged
          exact shown _ _
        · obtain rfl := Option.some.inj judged
          exact shown _ _

theorem Justification.judge_block_rests (file : String) (block : Block) :
    (judgeBlock file block).RestsOn descriptor.target.attributes file block := by
  have aligns : "text-align" ∈ descriptor.target.attributes := List.mem_cons_self
  have justifies : "text-justify" ∈ descriptor.target.attributes :=
    List.mem_cons_of_mem _ List.mem_cons_self
  rw [judgeBlock]
  cases alignment : block.find? "text-align" with
  | none => exact .nothing _ _
  | some align =>
      cases stretching : block.find? "text-justify" with
      | none =>
          dsimp only
          split
          · exact Finding.rests_on_found file alignment aligns _ _
          · exact Finding.rests_on_found file alignment aligns _ _
      | some stretch =>
          dsimp only
          split
          · split
            · exact Finding.rests_on_found file stretching justifies _ _
            · exact Finding.rests_on_found file stretching justifies _ _
          · exact .nothing _ _

theorem Justification.judge_rests (judged : judge file block = some f) :
    f.RestsOn descriptor.target.attributes file block := by
  rw [judge] at judged
  split at judged
  · obtain rfl := Option.some.inj judged
    exact judge_block_rests file block
  · cases judged

theorem FontSize.grounded : Grounded descriptor.target.attributes findings :=
  grounded_of_declarations judge (fun _ _ _ _ => judge_rests) (Stylesheet.visited_if_mentioned _)

theorem TextAlignment.grounded : Grounded descriptor.target.attributes findings :=
  grounded_of_blocks judge (fun _ _ _ => judge_rests) Stylesheet.visited_if_parsed

theorem LineSpacing.grounded : Grounded descriptor.target.attributes findings :=
  grounded_of_declarations judge (fun _ _ _ _ => judge_rests) (Stylesheet.visited_if_mentioned _)

theorem TextStyling.grounded : Grounded descriptor.target.attributes findings := by
  intro sheet f found
  rw [findings_eq] at found
  refine grounded_of_declarations (fun file block d => some (judge file block d)) ?_
    Stylesheet.visited_if_parsed sheet f found
  intro file block f d complete judged
  obtain rfl := Option.some.inj judged
  exact judge_rests file complete

theorem ContainerWidth.grounded : Grounded descriptor.target.attributes findings :=
  grounded_of_declarations judge (fun _ _ _ _ => judge_rests) Stylesheet.visited_if_parsed

theorem Blinking.grounded : Grounded descriptor.target.attributes findings :=
  grounded_of_declarations judge (fun _ _ _ _ => judge_rests) (Stylesheet.visited_if_mentioned _)

theorem Justification.grounded : Grounded descriptor.target.attributes findings :=
  grounded_of_blocks judge (fun _ _ _ => judge_rests) (Stylesheet.visited_if_mentioned _)

/-- Whatever the ledger holds, the evidence comes from the stylesheets, and the technique names the
properties that it shows among those it looks at. -/
def Technique.ShowsSheets (t : Technique) : Prop :=
  ∀ ledger input, ∀ f ∈ (t.evaluate ledger input).findings,
    f.IsSupported (Evidence.FromSheets input.stylesheets t.descriptor.target.attributes)

theorem of_sheets_shows_sheets {descriptor : Descriptor} {findings : Stylesheet → List Finding}
    (grounded : Grounded descriptor.target.attributes findings) :
    (Technique.ofSheets descriptor findings).ShowsSheets :=
  fun _ input => grounded.supported input.stylesheets

theorem Blinking.technique_shows_sheets : technique.ShowsSheets := by
  intro ledger input f found
  have inSheets := Blinking.grounded.supported input.stylesheets f
  dsimp only [technique] at found
  split at found
  · rcases List.mem_append.mp found with inside | last
    · exact inSheets inside
    · obtain rfl := List.mem_singleton.mp last
      exact Finding.supported_bare
  · exact inSheets found

theorem catalog_shows {t : Technique} (member : t ∈ catalog) :
    t.ShowsSheets ∨ t = ColorPairs.technique := by
  cases t, member using built_in_cases with
  | sizes => exact .inl (of_sheets_shows_sheets FontSize.grounded)
  | alignment => exact .inl (of_sheets_shows_sheets TextAlignment.grounded)
  | spacing => exact .inl (of_sheets_shows_sheets LineSpacing.grounded)
  | styling => exact .inl (of_sheets_shows_sheets TextStyling.grounded)
  | widths => exact .inl (of_sheets_shows_sheets ContainerWidth.grounded)
  | blinking => exact .inl Blinking.technique_shows_sheets
  | colors => exact .inr rfl
  | justification => exact .inl (of_sheets_shows_sheets Justification.grounded)

def Stylesheet.sites (sheet : Stylesheet) : List Site :=
  (blocksIn sheet.tree?).flatMap fun block => block.complete.map (Site.mk sheet block)

def sitesMentioning (needle : String) (sheets : List Stylesheet) : List Site :=
  (sheets.filter fun sheet => sheet.mentions needle).flatMap Stylesheet.sites

def FontSize.sites (sheets : List Stylesheet) : List Site :=
  (sitesMentioning "font-size" sheets).filter fun site => site.declaration.property = "font-size"

def Blinking.sites (sheets : List Stylesheet) : List Site :=
  (sitesMentioning "text-decoration" sheets).filter fun site =>
    site.block.hasSelectors && site.declaration.property = "text-decoration" &&
      blinks site.declaration.value

theorem complete_of_mentioning {needle : String} {sheets : List Stylesheet} {site : Site}
    (inside : site ∈ sitesMentioning needle sheets) : site.declaration ∈ site.block.complete := by
  obtain ⟨sheet, _, listed⟩ := List.mem_flatMap.mp inside
  obtain ⟨block, _, mapped⟩ := List.mem_flatMap.mp listed
  obtain ⟨d, complete, rfl⟩ := List.mem_map.mp mapped
  exact complete

/-- Where one thing is told of each declaration that passes a test, it is told of all of them in
order. -/
theorem findings_at_sites {judge : String → Block → Declaration → Option Finding}
    {passes : Site → Bool} {told : Site → Finding} {needle : String} (named : needle ≠ "")
    (judged : ∀ site : Site, judge site.sheet.file site.block site.declaration =
      if passes site then some (told site) else none) (sheets : List Stylesheet) :
    (sheets.flatMap fun sheet =>
        findingsOnDeclarations (judge sheet.file) (sheet.parsedMentioning? needle)) =
      ((sitesMentioning needle sheets).filter passes).map told := by
  have said (sheet : Stylesheet) (block : Block) :
      block.complete.filterMap (judge sheet.file block) =
        ((block.complete.map (Site.mk sheet block)).filter passes).map told := by
    rw [← List.filterMap_eq_map, List.filterMap_filter, List.filterMap_map]
    exact List.filterMap_congr fun d _ => judged ⟨sheet, block, d⟩
  rw [sitesMentioning, flat_map_of_filter, List.filter_flatMap, List.map_flatMap]
  refine List.flatMap_congr fun sheet _ => ?_
  rw [findings_on_declarations_eq, Stylesheet.blocks_if_mentioned named]
  split
  · rw [Stylesheet.sites, List.filter_flatMap, List.map_flatMap]
    exact List.flatMap_congr fun block _ => said sheet block
  · rfl

def FontSize.told (site : Site) : Finding :=
  .onDeclaration site.sheet.file site.block site.declaration (classify site.declaration.value).1
    (classify site.declaration.value).2

def Blinking.told (site : Site) : Finding :=
  .onDeclaration site.sheet.file site.block site.declaration .failed
    "Element has the property text-decoration:blink."

theorem FontSize.findings_eq_told (sheets : List Stylesheet) :
    sheets.flatMap findings = (sites sheets).map told := by
  refine findings_at_sites (by decide) ?_ sheets
  intro site
  simp only [judge, told, decide_eq_true_eq]

theorem Blinking.findings_eq_told (sheets : List Stylesheet) :
    sheets.flatMap findings = (sites sheets).map told :=
  findings_at_sites (by decide) (fun _ => rfl) sheets

namespace Instance

variable (i : Instance) (input : Input)

def recorded : List Finding :=
  (i.execute input).1.ledger.findings.drop i.ledger.findings.length

theorem recorded_eq : i.recorded input = (i.technique.evaluate i.ledger input).findings := by
  rw [recorded, execute]
  dsimp only
  rw [Ledger.fill_all_findings, List.drop_left]

end Instance

theorem FontSize.sizes_are_shown (ledger : Ledger) (input : Input) :
    List.Forall₂ (fun site f => f.verdict ≠ .inapplicable → site.block.selectorText ≠ "" →
      f.Shows site) (sites input.stylesheets) ((Instance.mk technique ledger).recorded input) := by
  have written : (technique.evaluate ledger input).findings =
      (sites input.stylesheets).map told := findings_eq_told input.stylesheets
  rw [Instance.recorded_eq, written, List.forall₂_map_right_iff, List.forall₂_same]
  intro site inside applicable selected
  have complete := complete_of_mentioning (List.mem_filter.mp inside).1
  rw [told, Finding.verdict_on_declaration] at applicable
  exact Finding.on_declaration_shows complete _ applicable selected

theorem Blinking.failures_are_shown (ledger : Ledger) (input : Input) :
    List.Forall₂ (fun site f => site.block.selectorText ≠ "" → f.Shows site)
      (sites input.stylesheets)
      (((Instance.mk technique ledger).recorded input).filter fun f => f.verdict = .failed) := by
  rw [Instance.recorded_eq, evaluated_failures, findings_eq_told, List.forall₂_map_right_iff,
    List.forall₂_same]
  intro site inside selected
  have complete := complete_of_mentioning (List.mem_filter.mp inside).1
  exact Finding.on_declaration_shows complete _ (by decide) selected

/-- All evidence that a built-in technique records is whole and comes from the input: that of a
technique for stylesheets from a complete declaration in a visited block of one of the sheets, that
of the technique for colors from a color that an element of the page sets. And on each declaration
of a font size, and on each one that blinks, there is a finding of its own in that order, which
shows the declaration unless it is inapplicable or there is no text for the selector. -/
theorem evidence_comes_from_input (ledger : Ledger) (input : Input) :
    let recorded := fun t => (Instance.mk t ledger).recorded input
    (∀ t ∈ catalog, t.descriptor.code ≠ ColorPairs.descriptor.code → ∀ f ∈ recorded t,
      f.IsSupported (Evidence.FromSheets input.stylesheets t.descriptor.target.attributes)) ∧
    (∀ f ∈ recorded ColorPairs.technique, f.IsSupported (ColorPairs.FromPage input.page)) ∧
    List.Forall₂ (fun site f => f.verdict ≠ .inapplicable → site.block.selectorText ≠ "" →
      f.Shows site) (FontSize.sites input.stylesheets) (recorded FontSize.technique) ∧
    List.Forall₂ (fun site f => site.block.selectorText ≠ "" → f.Shows site)
      (Blinking.sites input.stylesheets)
      ((recorded Blinking.technique).filter fun f => f.verdict = .failed) := by
  intro recorded
  have same (t : Technique) : recorded t = (t.evaluate ledger input).findings :=
    Instance.recorded_eq ⟨t, ledger⟩ input
  refine ⟨?_, ?_, FontSize.sizes_are_shown ledger input,
    Blinking.failures_are_shown ledger input⟩
  · intro t member forSheets f inside
    rcases catalog_shows member with shows | rfl
    · rw [same] at inside
      exact shows ledger input f inside
    · exact absurd rfl forSheets
  · intro f inside
    rw [same] at inside
    exact ColorPairs.technique_supported ledger input f inside

def pixelSite : Site :=
  ⟨Roster.pixelSheet, ⟨.rule, ["p"], [⟨"font-size", "12px", none⟩], none⟩,
    ⟨"font-size", "12px", none⟩⟩

theorem pixel_size_and_cell_color_are_shown :
    let input : Input := ⟨[Roster.pixelSheet, blinkingSheet], some ColorPairs.crossedPage⟩
    let recorded := fun t => (Instance.mk t (.start FontSize.descriptor)).recorded input
    let colored := Evidence.ofStyle "td" "text" "white"
    (FontSize.technique ∈ catalog ∧
      FontSize.technique.descriptor.code ≠ ColorPairs.descriptor.code ∧
      ∃ f ∈ recorded FontSize.technique, ∃ e, f.evidence = some e ∧ e.IsWhole ∧
        e.FromSheets input.stylesheets ["font-size"]) ∧
    (∃ f ∈ recorded ColorPairs.technique, f.evidence = some colored ∧ colored.IsWhole ∧
      ColorPairs.FromPage input.page colored) ∧
    (pixelSite.block.selectorText ≠ "" ∧
      ∃ f, recorded FontSize.technique = [f] ∧ f.verdict ≠ .inapplicable ∧ f.Shows pixelSite) := by
  intro input recorded colored
  obtain ⟨fromSheets, fromPage, sizes, _⟩ :=
    evidence_comes_from_input (.start FontSize.descriptor) input
  have member : FontSize.technique ∈ catalog := by simp [catalog]
  have forSheets : FontSize.technique.descriptor.code ≠ ColorPairs.descriptor.code := by decide
  have onSizes : recorded FontSize.technique = [FontSize.told pixelSite] := by decide
  have order : ColorPairs.crossedPage.ids = ["1", "2", "3", "4"] := by
    apply List.mergeSort_of_pairwise
    decide
  have onColors : recorded ColorPairs.technique = [ColorPairs.pairedFinding,
      ColorPairs.lonelyForeground ColorPairs.crossedPage "4" "text" "white",
      ColorPairs.lonelyBackground ColorPairs.crossedPage "2"] := by
    simp only [recorded, input, Instance.recorded_eq, ColorPairs.technique, ColorPairs.evaluatePage,
      order]
    rfl
  have applicable : (FontSize.told pixelSite).verdict ≠ .inapplicable := by decide
  have selected : pixelSite.block.selectorText ≠ "" := by decide
  have sized : FontSize.told pixelSite ∈ recorded FontSize.technique := by simp [onSizes]
  have lonely : ColorPairs.lonelyForeground ColorPairs.crossedPage "4" "text" "white" ∈
      recorded ColorPairs.technique := by simp [onColors]
  have shown : (FontSize.told pixelSite).Shows pixelSite := by
    have sole : FontSize.sites input.stylesheets = [pixelSite] := rfl
    change List.Forall₂ _ _ (recorded FontSize.technique) at sizes
    rw [sole, onSizes] at sizes
    exact (List.forall₂_cons.mp sizes).1 applicable selected
  refine ⟨⟨member, forSheets, _, sized, ?_⟩, ⟨_, lonely, ?_⟩, selected, _, onSizes, applicable,
    shown⟩
  · obtain ⟨e, carried, _⟩ := shown
    obtain ⟨_, whole, comes⟩ := fromSheets _ member forSheets _ sized e carried
    exact ⟨e, carried, whole, comes⟩
  · have carried : (ColorPairs.lonelyForeground ColorPairs.crossedPage "4" "text"
        "white").evidence = some colored := by decide
    obtain ⟨_, whole, comes⟩ := fromPage _ lonely colored carried
    exact ⟨carried, whole, comes⟩

end StyleAudit
