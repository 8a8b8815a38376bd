import Mathlib.Data.List.Infix
import StyleAudit.Proofs.Catalog.Justification
import StyleAudit.Proofs.Stylesheet.Visits

/-!
# Looking at the text first

A technique that looks for one property passes over the sheets whose text does not mention it. Here
it is compared with a walk through the trees of all sheets, whatever their text. As long as the text
names what the tree declares, a technique that has nothing to say of other properties writes the
same into its ledger either way. The technique for justified text does say something of other rules,
but no failure of it is lost.
-/

namespace StyleAudit

set_option autoImplicit false

namespace Stylesheet

/-- Some block in the tree of the sheet has a complete declaration of the property. -/
def Declares (sheet : Stylesheet) (property : String) : Prop :=
  ∃ block, sheet.Holds block ∧ ∃ d ∈ block.complete, d.property = property

/-- The property is a part of the text if it is declared in the tree. -/
def TextNames (sheet : Stylesheet) (property : String) : Prop :=
  sheet.Declares property → property.toList <:+: sheet.plainText.toList

end Stylesheet

def Ledger.note (l : Ledger) (finding : Option Finding) : Ledger :=
  match finding with
  | some f => l.fill f
  | none => l

/-- Writes down what is said of each declaration in the tree of a sheet. -/
def walkDeclarations (judge : String → Block → Declaration → Option Finding) (l : Ledger)
    (sheet : Stylesheet) : Ledger :=
  match sheet.tree? with
  | some node => node.forEachDeclaration (fun l block d => l.note (judge sheet.file block d)) l
  | none => l

/-- Writes down what is said of each block in the tree of a sheet. -/
def walkBlocks (judge : String → Block → Option Finding) (l : Ledger) (sheet : Stylesheet) :
    Ledger :=
  match sheet.tree? with
  | some node => node.forEachBlock (fun l block => l.note (judge sheet.file block)) l
  | none => l

def Blinking.settle (l : Ledger) : Ledger :=
  if l.tally.failed = 0 then l.fill nothingFound else l

theorem Ledger.note_all {α : Type} (said : α → Option Finding) (xs : List α) (l : Ledger) :
    xs.foldl (fun l x => l.note (said x)) l = l.fillAll (xs.filterMap said) := by
  induction xs generalizing l with
  | nil => rfl
  | cons x rest ih =>
      rw [List.foldl_cons, ih]
      cases told : said x with
      | none => rw [List.filterMap_cons_none told, note]
      | some f => rw [List.filterMap_cons_some told, note, fill_all_cons]

theorem walk_declarations_eq (judge : String → Block → Declaration → Option Finding) (l : Ledger)
    (sheet : Stylesheet) : walkDeclarations judge l sheet =
      l.fillAll (findingsOnDeclarations (judge sheet.file) sheet.tree?) := by
  rw [walkDeclarations]
  cases sheet.tree? with
  | none => rfl
  | some node =>
      dsimp only
      rw [Node.for_each_declaration_eq_foldl]
      exact Ledger.note_all (fun met => judge sheet.file met.1 met.2) node.declared l

theorem walk_blocks_eq (judge : String → Block → Option Finding) (l : Ledger)
    (sheet : Stylesheet) : walkBlocks judge l sheet =
      l.fillAll (findingsOnBlocks (judge sheet.file) sheet.tree?) := by
  rw [walkBlocks]
  cases sheet.tree? with
  | none => rfl
  | some node =>
      dsimp only [Node.forEachBlock]
      rw [Node.walk_eq_foldl]
      exact Ledger.note_all (judge sheet.file) node.blocks l

theorem walk_all_eq {walk : Ledger → Stylesheet → Ledger} {found : Stylesheet → List Finding}
    (each : ∀ l sheet, walk l sheet = l.fillAll (found sheet)) (sheets : List Stylesheet)
    (l : Ledger) : sheets.foldl walk l = l.fillAll (sheets.flatMap found) := by
  induction sheets generalizing l with
  | nil => rfl
  | cons sheet rest ih =>
      rw [List.foldl_cons, ih, each, List.flatMap_cons, Ledger.fill_all_append]

namespace Stylesheet

variable {sheet : Stylesheet} {property : String}

theorem declares_iff : sheet.Declares property ↔
    ∃ block ∈ blocksIn sheet.tree?, ∃ d ∈ block.complete, d.property = property := by
  simp only [Declares, holds_iff]

/-- Passing over the sheet loses nothing that hangs on a declaration of the property. -/
theorem mentioned_blocks_suffice {α : Type} (said : Block → List α) (named : property ≠ "")
    (names : sheet.TextNames property)
    (silent : ∀ block, (∀ d ∈ block.complete, d.property ≠ property) → said block = []) :
    (blocksIn (sheet.parsedMentioning? property)).flatMap said =
      (blocksIn sheet.tree?).flatMap said := by
  rw [blocks_if_mentioned named]
  split
  · rfl
  · rename_i unmentioned
    rw [mentions_iff named] at unmentioned
    rw [List.flatMap_nil, eq_comm, List.flatMap_eq_nil_iff]
    intro block inside
    apply silent
    intro d complete declared
    exact unmentioned (names (declares_iff.mpr ⟨block, inside, d, complete, declared⟩))

end Stylesheet

/-- Nothing is said of declarations of another property. -/
def SpeaksOnlyOf (property : String) (judge : String → Block → Declaration → Option Finding) :
    Prop :=
  ∀ file block d, d.property ≠ property → judge file block d = none

theorem declarations_shortcut {judge : String → Block → Declaration → Option Finding}
    {property : String} (named : property ≠ "") (only : SpeaksOnlyOf property judge)
    {sheet : Stylesheet} (names : sheet.TextNames property) :
    findingsOnDeclarations (judge sheet.file) (sheet.parsedMentioning? property) =
      findingsOnDeclarations (judge sheet.file) sheet.tree? := by
  rw [findings_on_declarations_eq, findings_on_declarations_eq]
  apply Stylesheet.mentioned_blocks_suffice _ named names
  intro block undeclared
  rw [List.filterMap_eq_nil_iff]
  intro d complete
  exact only sheet.file block d (undeclared d complete)

theorem FontSize.speaks_only_of_sizes : SpeaksOnlyOf "font-size" judge := by
  intro file block d other
  rw [judge, if_neg other]

theorem LineSpacing.speaks_only_of_line_height : SpeaksOnlyOf "line-height" judge := by
  intro file block d other
  rw [judge, decide_eq_false other, Bool.and_false]
  rfl

theorem Blinking.speaks_only_of_decoration : SpeaksOnlyOf "text-decoration" judge := by
  intro file block d other
  rw [judge, decide_eq_false other, Bool.and_false, Bool.false_and]
  rfl

theorem Blinking.execute_settles (sheets : List Stylesheet) (page : Option ElementMap)
    (ledger : Ledger) :
    ((Instance.mk technique ledger).execute ⟨sheets, page⟩).1.ledger =
      settle (ledger.fillAll (sheets.flatMap findings)) := by
  have written : ((Instance.mk technique ledger).execute ⟨sheets, page⟩).1.ledger =
      ledger.fillAll (if (ledger.fillAll (sheets.flatMap findings)).tally.failed = 0 then
        sheets.flatMap findings ++ [nothingFound] else sheets.flatMap findings) := rfl
  rw [written, settle]
  split
  · rw [Ledger.fill_all_append]
    rfl
  · rfl

namespace Justification

theorem failure_declares_alignment {file : String} {block : Block} {f : Finding}
    (judged : judge file block = some f) (failed : f.verdict = .failed) :
    ∃ d ∈ block.complete, d.property = "text-align" := by
  rw [judge] at judged
  split at judged
  · obtain rfl := Option.some.inj judged
    obtain ⟨⟨align, decides, _⟩, _⟩ := (judge_block_judges file block).failed.mp failed
    exact ⟨align, decides.complete, decides.1⟩
  · cases judged

/-- What fails in a block. -/
def failures (file : String) (block : Block) : List Finding :=
  (judge file block).toList.filter fun f => f.verdict = .failed

theorem filter_findings (file : String) (tree : Option Node) :
    ((findingsOnBlocks (judge file) tree).filter fun f => f.verdict = .failed) =
      (blocksIn tree).flatMap (failures file) := by
  rw [findings_on_blocks_eq, List.filterMap_eq_flatMap_toList, List.filter_flatMap]
  rfl

theorem failures_of_undeclared {file : String} {block : Block}
    (undeclared : ∀ d ∈ block.complete, d.property ≠ "text-align") : failures file block = [] := by
  rw [failures, List.filter_eq_nil_iff]
  intro f told
  rw [decide_eq_true_iff]
  intro failed
  obtain ⟨d, complete, named⟩ := failure_declares_alignment (Option.mem_toList.mp told) failed
  exact undeclared d complete named

theorem failures_shortcut {sheet : Stylesheet} (names : sheet.TextNames "text-align") :
    ((findings sheet).filter fun f => f.verdict = .failed) =
      (findingsOnBlocks (judge sheet.file) sheet.tree?).filter fun f => f.verdict = .failed := by
  have seen : findings sheet =
      findingsOnBlocks (judge sheet.file) (sheet.parsedMentioning? "text-align") := rfl
  rw [seen, filter_findings, filter_findings]
  exact Stylesheet.mentioned_blocks_suffice _ (by decide) names fun _ => failures_of_undeclared

end Justification

theorem walked_alike {judge : String → Block → Declaration → Option Finding} {property : String}
    (named : property ≠ "") (only : SpeaksOnlyOf property judge)
    {sheets : List Stylesheet} (names : ∀ sheet ∈ sheets, sheet.TextNames property)
    (l : Ledger) :
    l.fillAll (sheets.flatMap fun sheet =>
        findingsOnDeclarations (judge sheet.file) (sheet.parsedMentioning? property)) =
      sheets.foldl (walkDeclarations judge) l := by
  rw [walk_all_eq (walk_declarations_eq judge)]
  congr 1
  exact List.flatMap_congr fun sheet inside => declarations_shortcut named only (names sheet inside)

/-- Each sheet's text names the property in question if its tree declares it. Then the techniques
for font sizes, line spacing and blinking text write into a ledger what a walk through all the trees
writes into it, and the failures among the findings for justified text are the same. -/
theorem shortcut_loses_nothing (sheets : List Stylesheet) (page : Option ElementMap)
    (ledger : Ledger) :
    let run := fun technique => ((Instance.mk technique ledger).execute ⟨sheets, page⟩).1.ledger
    let failures := fun l : Ledger => l.findings.filter fun f => f.verdict = .failed
    ((∀ sheet ∈ sheets, sheet.TextNames "font-size") →
      run FontSize.technique = sheets.foldl (walkDeclarations FontSize.judge) ledger) ∧
    ((∀ sheet ∈ sheets, sheet.TextNames "line-height") →
      run LineSpacing.technique = sheets.foldl (walkDeclarations LineSpacing.judge) ledger) ∧
    ((∀ sheet ∈ sheets, sheet.TextNames "text-decoration") →
      run Blinking.technique =
        Blinking.settle (sheets.foldl (walkDeclarations Blinking.judge) ledger)) ∧
    ((∀ sheet ∈ sheets, sheet.TextNames "text-align") →
      failures (run Justification.technique) =
        failures (sheets.foldl (walkBlocks Justification.judge) ledger)) := by
  intro run failures
  refine ⟨fun names => ?_, fun names => ?_, fun names => ?_, fun names => ?_⟩
  · exact walked_alike (by decide) FontSize.speaks_only_of_sizes names ledger
  · exact walked_alike (by decide) LineSpacing.speaks_only_of_line_height names ledger
  · rw [← walked_alike (by decide) Blinking.speaks_only_of_decoration names ledger]
    exact Blinking.execute_settles sheets page ledger
  · rw [walk_all_eq (walk_blocks_eq Justification.judge)]
    have written : run Justification.technique =
        ledger.fillAll (sheets.flatMap Justification.findings) := rfl
    simp only [failures]
    rw [written, Ledger.fill_all_findings, Ledger.fill_all_findings, List.filter_append,
      List.filter_append, List.filter_flatMap, List.filter_flatMap]
    congr 1
    exact List.flatMap_congr fun sheet inside =>
      Justification.failures_shortcut (names sheet inside)

def crowdedSheet : Stylesheet :=
  ⟨"c.css", some ⟨"font-size line-height text-decoration text-align",
    some (.group .media (some "print") [.block ⟨.rule, ["li"],
      [⟨"font-size", "9px", none⟩, ⟨"line-height", "1", none⟩, ⟨"text-decoration", "blink", none⟩,
        ⟨"text-align", "justify", none⟩], none⟩] none)⟩⟩

def mixedSheets : List Stylesheet :=
  [Justification.marginSheet "", Justification.marginSheet "/* font-size */", crowdedSheet]

theorem Stylesheet.text_names_of_mentions {sheet : Stylesheet} {property : String}
    (mentioned : Text.mentions sheet.plainText property = true) : sheet.TextNames property :=
  fun _ => (Text.mentions_iff_infix _ _).mp mentioned

theorem margin_sheet_names (plain : String) {property : String} (other : property ≠ "margin") :
    (Justification.marginSheet plain).TextNames property := by
  rw [Stylesheet.TextNames, Stylesheet.declares_iff]
  rintro ⟨block, inside, d, complete, rfl⟩
  obtain rfl := List.mem_singleton.mp inside
  obtain rfl := List.mem_singleton.mp complete
  exact absurd rfl other

theorem mixed_sheets_name {property : String} (other : property ≠ "margin")
    (mentioned : Text.mentions crowdedSheet.plainText property = true) :
    ∀ sheet ∈ mixedSheets, sheet.TextNames property := by
  simp only [mixedSheets, List.forall_mem_cons]
  exact ⟨margin_sheet_names _ other, margin_sheet_names _ other,
    Stylesheet.text_names_of_mentions mentioned, by simp⟩

theorem mixed_sheets_lose_nothing :
    let ledger := Ledger.start FontSize.descriptor
    let run := fun technique =>
      ((Instance.mk technique ledger).execute ⟨mixedSheets, none⟩).1.ledger
    let failures := fun l : Ledger => l.findings.filter fun f => f.verdict = .failed
    ((∀ sheet ∈ mixedSheets, sheet.TextNames "font-size") ∧
      (∀ sheet ∈ mixedSheets, sheet.TextNames "line-height") ∧
      (∀ sheet ∈ mixedSheets, sheet.TextNames "text-decoration") ∧
      ∀ sheet ∈ mixedSheets, sheet.TextNames "text-align") ∧
    (run FontSize.technique = mixedSheets.foldl (walkDeclarations FontSize.judge) ledger ∧
      run LineSpacing.technique = mixedSheets.foldl (walkDeclarations LineSpacing.judge) ledger ∧
      run Blinking.technique =
        Blinking.settle (mixedSheets.foldl (walkDeclarations Blinking.judge) ledger) ∧
      failures (run Justification.technique) =
        failures (mixedSheets.foldl (walkBlocks Justification.judge) ledger)) ∧
    (run FontSize.technique).findings.length = 1 ∧
      (failures (run Justification.technique)).length = 1 := by
  intro ledger run failures
  have sizes := mixed_sheets_name (by decide : "font-size" ≠ "margin") (by decide)
  have spacing := mixed_sheets_name (by decide : "line-height" ≠ "margin") (by decide)
  have decoration := mixed_sheets_name (by decide : "text-decoration" ≠ "margin") (by decide)
  have alignment := mixed_sheets_name (by decide : "text-align" ≠ "margin") (by decide)
  obtain ⟨bySizes, bySpacing, byDecoration, byAlignment⟩ :=
    shortcut_loses_nothing mixedSheets none ledger
  exact ⟨⟨sizes, spacing, decoration, alignment⟩,
    ⟨bySizes sizes, bySpacing spacing, byDecoration decoration, byAlignment alignment⟩,
    by decide, by decide⟩

end StyleAudit
