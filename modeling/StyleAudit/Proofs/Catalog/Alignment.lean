import StyleAudit.Proofs.Catalog.Evidence
import StyleAudit.Proofs.Text.Spelling

/-!
# Justified text is not aligned

The techniques for justified text and for text aligned to one side look at the same declaration of
a block, in different ways: one compares the trimmed value with a word, the other searches the value
for a word. They also choose their blocks in different ways. Still they do not contradict each
other: what is justified by its alignment mentions neither side, so it is not aligned.
-/

namespace StyleAudit

set_option autoImplicit false

theorem Text.not_mentioned_beside_word {value word needle : String} {c : Char}
    (trimmed : trim value = word) (inside : c ∈ needle.toList) (visible : isBlank c = false)
    (lacking : c ∉ word.toList) : mentions value needle = false := by
  rw [Bool.eq_false_iff, Ne, mentions_iff_infix]
  intro part
  have remains : isBlank c = true ∨ c ∈ trimChars isBlank value.toList :=
    trimmed_or_kept (part.subset inside)
  rw [← trimmed, trim, String.toList_ofList] at lacking
  rcases remains with blank | kept
  · rw [visible] at blank
    cases blank
  · exact lacking kept

/-- A block that a walk meets in a sheet with a text. -/
structure Visit where
  sheet : Stylesheet
  block : Block

namespace Visit

def all (sheets : List Stylesheet) : List Visit :=
  sheets.flatMap fun sheet => (blocksIn sheet.parsed?).map fun block => ⟨sheet, block⟩

theorem filter_map_all {found : Stylesheet → List Finding} {told : Visit → Option Finding}
    (each : ∀ sheet, found sheet =
      (blocksIn sheet.parsed?).filterMap fun block => told ⟨sheet, block⟩)
    (sheets : List Stylesheet) : sheets.flatMap found = (all sheets).filterMap told := by
  rw [all, List.filterMap_flatMap]
  refine List.flatMap_congr fun sheet _ => ?_
  rw [each, List.filterMap_map]
  rfl

end Visit

def TextAlignment.told (v : Visit) : Option Finding :=
  judge v.sheet.file v.block

/-- The finding on the justification of a block. There is none in a sheet whose text does not
mention an alignment. -/
def Justification.told (v : Visit) : Option Finding :=
  if v.sheet.mentions "text-align" then judge v.sheet.file v.block else none

theorem TextAlignment.findings_eq_told (sheets : List Stylesheet) :
    sheets.flatMap findings = (Visit.all sheets).filterMap told :=
  Visit.filter_map_all (fun sheet => findings_on_blocks_eq (judge sheet.file) sheet.parsed?) sheets

theorem Justification.findings_eq_told (sheets : List Stylesheet) :
    sheets.flatMap findings = (Visit.all sheets).filterMap told := by
  refine Visit.filter_map_all (fun sheet => ?_) sheets
  have seen : findings sheet = (blocksIn (sheet.parsedMentioning? "text-align")).filterMap
      (judge sheet.file) := findings_on_blocks_eq (judge sheet.file) _
  rw [seen, Stylesheet.blocks_if_mentioned (by decide), Stylesheet.blocks_in_parsed]
  by_cases mentioned : sheet.mentions "text-align" = true
  · have written := Stylesheet.written_of_mentions (by decide) mentioned
    simp only [told, if_pos mentioned, if_neg written]
  · simp only [told, if_neg mentioned, List.filterMap_nil, List.filterMap_none]

/-- The block is told to be aligned to neither side, by the last declaration of its alignment. -/
structure TextAlignment.Unaligned (v : Visit) (f : Finding) : Prop where
  failed : f.verdict = .failed
  description : f.description = "Text block is not aligned either left nor right."
  shown : ∃ align, v.block.Decides "text-align" align ∧
    (v.block.selectorText ≠ "" → f.Shows ⟨v.sheet, v.block, align⟩)

theorem TextAlignment.told_of_justified {v : Visit} {align : Declaration}
    (selected : v.block.hasSelectors = true) (decides : v.block.Decides "text-align" align)
    (justified : Text.trim align.value = "justify") : ∃ f, told v = some f ∧ Unaligned v f := by
  have held : v.block.complete.isEmpty = false :=
    List.isEmpty_eq_false_iff.mpr (List.ne_nil_of_mem decides.complete)
  have left : Text.mentions align.value "left" = false :=
    Text.not_mentioned_beside_word (c := 'l') justified (by decide) (by decide) (by decide)
  have right : Text.mentions align.value "right" = false :=
    Text.not_mentioned_beside_word (c := 'r') justified (by decide) (by decide) (by decide)
  refine ⟨.onDeclaration v.sheet.file v.block align .failed
    "Text block is not aligned either left nor right.", ?_, ?_⟩
  · rw [told, judge, Block.find_eq_some_iff.mpr decides]
    simp [selected, held, left, right]
  · refine ⟨Finding.verdict_on_declaration .., Finding.description_withEvidence .., align, decides,
      fun named => ?_⟩
    have applicable : Verdict.failed ≠ .inapplicable := Verdict.noConfusion
    exact @Finding.on_declaration_shows ⟨v.sheet, v.block, align⟩ decides.complete .failed _
      applicable named

theorem Justification.unaligned_of_failed {v : Visit} {f : Finding} (judged : told v = some f)
    (failed : f.verdict = .failed) :
    ∃ g, TextAlignment.told v = some g ∧ TextAlignment.Unaligned v g := by
  rw [told] at judged
  split at judged
  · rw [judge] at judged
    split at judged
    · rename_i selected
      obtain rfl := Option.some.inj judged
      have judges := judge_block_judges v.sheet.file v.block
      obtain ⟨⟨align, decides, justified⟩, _⟩ := judges.failed.mp failed
      exact TextAlignment.told_of_justified selected decides justified
    · cases judged
  · cases judged

theorem given_filter_map_le {α : Type} {one other : α → Option Finding} {v : Verdict} {xs : List α}
    (implied : ∀ x ∈ xs, ∀ f, one x = some f → f.verdict = v →
      ∃ g, other x = some g ∧ g.verdict = v) :
    Ledger.given v (xs.filterMap one) ≤ Ledger.given v (xs.filterMap other) := by
  rw [Ledger.given, Ledger.given, List.countP_filterMap, List.countP_filterMap]
  refine List.countP_mono_left fun x inside counted => ?_
  cases told : one x with
  | none =>
      rw [told] at counted
      cases counted
  | some f =>
      rw [told, Option.map_some, Option.getD_some, beq_iff_eq] at counted
      obtain ⟨g, alsoTold, alsoGiven⟩ := implied x inside f told counted
      rw [alsoTold, Option.map_some, Option.getD_some, beq_iff_eq]
      exact alsoGiven

/-- Each technique records for every visited block what it tells of it, in the order of the visits.
A block that fails as justified fails as not aligned to either side, which is shown by the last
complete declaration of its alignment; no block fails as justified that passes as aligned, and there
are at least as many failures of alignment as of justification. -/
theorem justified_text_is_not_aligned (sheets : List Stylesheet) (page : Option ElementMap) :
    let justification := ((Instance.start Justification.technique).execute ⟨sheets, page⟩).1.ledger
    let alignment := ((Instance.start TextAlignment.technique).execute ⟨sheets, page⟩).1.ledger
    let visits := Visit.all sheets
    justification.findings = visits.filterMap Justification.told ∧
    alignment.findings = visits.filterMap TextAlignment.told ∧
    (∀ v ∈ visits, ∀ f, Justification.told v = some f → f.verdict = .failed →
      ∃ g, TextAlignment.told v = some g ∧ TextAlignment.Unaligned v g) ∧
    (∀ v ∈ visits, ∀ f g, Justification.told v = some f → TextAlignment.told v = some g →
      g.verdict = .passed → f.verdict ≠ .failed) ∧
    justification.tally.failed ≤ alignment.tally.failed := by
  intro justification alignment visits
  have justified : justification.findings = visits.filterMap Justification.told :=
    (Ledger.start_fill_all_findings Justification.descriptor _).trans
      (Justification.findings_eq_told sheets)
  have aligned : alignment.findings = visits.filterMap TextAlignment.told :=
    (Ledger.start_fill_all_findings TextAlignment.descriptor _).trans
      (TextAlignment.findings_eq_told sheets)
  refine ⟨justified, aligned, fun v _ f => Justification.unaligned_of_failed, ?_, ?_⟩
  · intro v _ f g judged alsoJudged passed failed
    obtain ⟨other, told, unaligned⟩ := Justification.unaligned_of_failed judged failed
    obtain rfl := Option.some.inj (told.symm.trans alsoJudged)
    rw [unaligned.failed] at passed
    cases passed
  · have counted : justification.tally.failed = Ledger.given .failed justification.findings :=
      ((Ledger.Kept.start).fill_all _).count .failed
    have alsoCounted : alignment.tally.failed = Ledger.given .failed alignment.findings :=
      ((Ledger.Kept.start).fill_all _).count .failed
    rw [counted, alsoCounted, justified, aligned]
    refine given_filter_map_le fun v _ f judged failed => ?_
    obtain ⟨g, told, unaligned⟩ := Justification.unaligned_of_failed judged failed
    exact ⟨g, told, unaligned.failed⟩

end StyleAudit
