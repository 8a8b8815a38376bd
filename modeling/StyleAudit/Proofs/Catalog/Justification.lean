import Mathlib.Data.List.Forall2
import StyleAudit.Proofs.Ledger
import StyleAudit.Proofs.Technique.Evidence

/-!
# Justified text, rule by rule

A rule is justified by the last complete declaration of its alignment, unless the last one of its
justification switches the stretching off. In the sheets whose text mentions an alignment each rule
is judged once, and it fails exactly if it is justified. The rules of other sheets are passed over:
a rule without an alignment passes or goes without a judgment, as the text around it happens to be.
-/

namespace StyleAudit

set_option autoImplicit false

/-- The declaration is the last complete one of the property. -/
def Block.Decides (block : Block) (property : String) (d : Declaration) : Prop :=
  d.property = property ∧ ∃ before after, block.complete = before ++ d :: after ∧
    ∀ later ∈ after, later.property ≠ property

theorem Block.find_eq_some_iff {block : Block} {property : String} {d : Declaration} :
    block.find? property = some d ↔ block.Decides property d := by
  rw [find?, List.getLast?_eq_head?_reverse, ← List.filter_reverse, List.head?_filter,
    List.find?_eq_some_iff_append, beq_iff_eq]
  constructor
  · rintro ⟨named, after, before, split, others⟩
    refine ⟨named, before.reverse, after.reverse, ?_, ?_⟩
    · simpa using congrArg List.reverse split
    · intro later inside
      simpa using others later (List.mem_reverse.mp inside)
  · rintro ⟨named, before, after, split, others⟩
    refine ⟨named, after.reverse, before.reverse, ?_, ?_⟩
    · rw [split]
      simp
    · intro later inside
      simpa using others later (List.mem_reverse.mp inside)

theorem Block.Decides.complete {block : Block} {property : String} {d : Declaration}
    (decides : block.Decides property d) : d ∈ block.complete := by
  obtain ⟨_, before, after, split, _⟩ := decides
  rw [split]
  simp

namespace Justification

/-- The text is aligned to both margins and its stretching is not switched off. -/
def Justified (block : Block) : Prop :=
  (∃ align, block.Decides "text-align" align ∧ Text.trim align.value = "justify") ∧
    ∀ stretch, block.Decides "text-justify" stretch → Text.trim stretch.value ≠ "none"

structure Judges (block : Block) (f : Finding) : Prop where
  failed : f.verdict = .failed ↔ Justified block
  passed : f.verdict = .passed ↔ ¬ Justified block

theorem judges_of_failed {block : Block} {f : Finding} (failed : f.verdict = .failed)
    (justified : Justified block) : Judges block f :=
  ⟨by simp [failed, justified], by simp [failed, justified]⟩

theorem judges_of_passed {block : Block} {f : Finding} (passed : f.verdict = .passed)
    (unjustified : ¬ Justified block) : Judges block f :=
  ⟨by simp [passed, unjustified], by simp [passed, unjustified]⟩

theorem judge_block_judges (file : String) (block : Block) :
    Judges block (judgeBlock file block) := by
  have justified : Justified block ↔
      (∃ align, block.find? "text-align" = some align ∧ Text.trim align.value = "justify") ∧
        ∀ stretch, block.find? "text-justify" = some stretch →
          Text.trim stretch.value ≠ "none" := by
    simp only [Justified, Block.find_eq_some_iff]
  rw [judgeBlock]
  cases alignment : block.find? "text-align" with
  | none =>
      apply judges_of_passed rfl
      simp [justified, alignment]
  | some align =>
      by_cases both : Text.trim align.value = "justify"
      · cases stretching : block.find? "text-justify" with
        | none =>
            simp only [if_pos both]
            apply judges_of_failed (Finding.verdict_on_declaration ..)
            simp [justified, alignment, stretching, both]
        | some stretch =>
            by_cases off : Text.trim stretch.value = "none"
            · simp only [if_pos both, if_pos off]
              apply judges_of_passed (Finding.verdict_on_declaration ..)
              simp [justified, stretching, off]
            · simp only [if_pos both, if_neg off]
              apply judges_of_failed (Finding.verdict_on_declaration ..)
              simp [justified, alignment, stretching, both, off]
      · have unjustified : ¬ Justified block := by
          simp [justified, alignment, both]
        cases block.find? "text-justify" with
        | none =>
            simp only [if_neg both]
            exact judges_of_passed (Finding.verdict_on_declaration ..) unjustified
        | some stretch =>
            simp only [if_neg both]
            exact judges_of_passed rfl unjustified

def rules (sheet : Stylesheet) : List Block :=
  (blocksIn sheet.tree?).filter Block.hasSelectors

def judgments (sheet : Stylesheet) : List Finding :=
  (rules sheet).map (judgeBlock sheet.file)

theorem judgments_judge (sheet : Stylesheet) :
    List.Forall₂ Judges (rules sheet) (judgments sheet) := by
  rw [judgments, List.forall₂_map_right_iff, List.forall₂_same]
  intro block _
  exact judge_block_judges sheet.file block

theorem findings_eq (sheet : Stylesheet) :
    findings sheet = if sheet.mentions "text-align" then judgments sheet else [] := by
  have seen : findings sheet =
      (blocksIn (sheet.parsedMentioning? "text-align")).filterMap (judge sheet.file) :=
    findings_on_blocks_eq (judge sheet.file) _
  rw [seen, Stylesheet.blocks_if_mentioned (by decide)]
  split
  · rw [judgments, rules, ← List.filterMap_eq_map, List.filterMap_filter]
    rfl
  · rfl

end Justification

section Parts

variable {α β : Type}

theorem flat_map_of_filter (keep : α → Bool) (parts : α → List β) (xs : List α) :
    (xs.filter keep).flatMap parts = xs.flatMap fun x => if keep x then parts x else [] := by
  induction xs with
  | nil => rfl
  | cons x rest ih =>
      rw [List.flatMap_cons, List.filter_cons]
      split
      · rw [List.flatMap_cons, ih]
      · rw [List.nil_append, ih]

variable {kept full : α → List β} {xs : List α}

theorem flat_map_length_le (shorter : ∀ x ∈ xs, (kept x).length ≤ (full x).length) :
    (xs.flatMap kept).length ≤ (xs.flatMap full).length := by
  induction xs with
  | nil => exact Nat.le_refl _
  | cons x rest ih =>
      obtain ⟨first, later⟩ := List.forall_mem_cons.mp shorter
      rw [List.flatMap_cons, List.flatMap_cons, List.length_append, List.length_append]
      exact Nat.add_le_add first (ih later)

theorem flat_map_kept_iff (skips : ∀ x ∈ xs, kept x = full x ∨ kept x = []) :
    xs.flatMap kept = xs.flatMap full ↔ ∀ x ∈ xs, kept x = full x := by
  refine ⟨?_, List.flatMap_congr⟩
  intro same
  induction xs with
  | nil => simp
  | cons x rest ih =>
      obtain ⟨first, later⟩ := List.forall_mem_cons.mp skips
      rw [List.flatMap_cons, List.flatMap_cons] at same
      have whole : kept x = full x := by
        rcases first with all | nothing
        · exact all
        · have shorter : (rest.flatMap kept).length ≤ (rest.flatMap full).length := by
            apply flat_map_length_le
            intro y inside
            rcases later y inside with all | none
            · exact Nat.le_of_eq (congrArg List.length all)
            · rw [none]
              exact Nat.zero_le _
          have lengths := congrArg List.length same
          rw [nothing, List.nil_append, List.length_append] at lengths
          rw [nothing, eq_comm, ← List.length_eq_zero_iff]
          omega
      rw [whole] at same
      exact List.forall_mem_cons.mpr ⟨whole, ih later (List.append_cancel_left same)⟩

end Parts

namespace Justification

theorem recorded_eq (sheets : List Stylesheet) (page : Option ElementMap) :
    ((Instance.start technique).execute ⟨sheets, page⟩).1.ledger.findings =
      (sheets.filter fun sheet => sheet.mentions "text-align").flatMap judgments := by
  have recorded : ((Instance.start technique).execute ⟨sheets, page⟩).1.ledger.findings =
      sheets.flatMap findings := Ledger.start_fill_all_findings descriptor _
  rw [recorded, flat_map_of_filter]
  exact List.flatMap_congr fun sheet _ => findings_eq sheet

theorem all_judgments_judge (sheets : List Stylesheet) :
    List.Forall₂ Judges (sheets.flatMap rules) (sheets.flatMap judgments) := by
  induction sheets with
  | nil => exact .nil
  | cons sheet rest ih => exact List.rel_append (judgments_judge sheet) ih

theorem all_written_judged_iff (sheets : List Stylesheet) :
    (sheets.filter fun sheet => sheet.mentions "text-align").flatMap judgments =
        (sheets.filter fun sheet => sheet.plainText ≠ "").flatMap judgments ↔
      ∀ sheet ∈ sheets, sheet.plainText ≠ "" → rules sheet ≠ [] →
        sheet.mentions "text-align" = true := by
  have written {sheet : Stylesheet} (mentioned : sheet.mentions "text-align" = true) :
      sheet.plainText ≠ "" := Stylesheet.written_of_mentions (by decide) mentioned
  rw [flat_map_of_filter, flat_map_of_filter, flat_map_kept_iff]
  · refine forall₂_congr fun sheet _ => ?_
    have without : [] = judgments sheet ↔ rules sheet = [] := by
      rw [eq_comm, judgments, List.map_eq_nil_iff]
    by_cases mentioned : sheet.mentions "text-align" = true
    · simp [mentioned, written mentioned]
    · by_cases empty : sheet.plainText = ""
      · simp [mentioned, empty]
      · simp [mentioned, empty, without]
  · intro sheet _
    by_cases mentioned : sheet.mentions "text-align" = true
    · left
      simp [mentioned, written mentioned]
    · right
      simp [mentioned]

/-- In every sheet whose text mentions an alignment, and in no other, each visited block with
selectors is judged once, in the order of sheets and blocks, and it fails exactly if it is
justified. These are all the sheets with a text only if each one of them with a rule mentions it. -/
theorem rules_of_mentioning_sheets_are_judged (sheets : List Stylesheet)
    (page : Option ElementMap) :
    let recorded := ((Instance.start technique).execute ⟨sheets, page⟩).1.ledger.findings
    let mentioning := sheets.filter fun sheet => sheet.mentions "text-align"
    let written := sheets.filter fun sheet => sheet.plainText ≠ ""
    recorded = mentioning.flatMap judgments ∧
    List.Forall₂ Judges (mentioning.flatMap rules) recorded ∧
    (recorded = written.flatMap judgments ↔ ∀ sheet ∈ sheets, sheet.plainText ≠ "" →
      rules sheet ≠ [] → sheet.mentions "text-align" = true) := by
  intro recorded mentioning written
  have same : recorded = mentioning.flatMap judgments := recorded_eq sheets page
  refine ⟨same, ?_, ?_⟩
  · rw [same]
    exact all_judgments_judge mentioning
  · rw [same]
    exact all_written_judged_iff sheets

def marginSheet (plain : String) : Stylesheet :=
  ⟨"a.css", some ⟨plain, some (.sheet [.block ⟨.rule, ["div"], [⟨"margin", "0", none⟩], none⟩]
    none)⟩⟩

/-- The rule is passed over, and it passes once a remark in the text mentions an alignment. -/
theorem unmentioned_rule_is_passed_over :
    let recorded := fun sheets =>
      ((Instance.start technique).execute ⟨sheets, none⟩).1.ledger.findings
    let plain := marginSheet "div \x7b margin: 0 \x7d"
    let remarked := marginSheet "div \x7b margin: 0 \x7d /* text-align */"
    plain.plainText ≠ "" ∧ plain.tree? = remarked.tree? ∧ (rules plain).length = 1 ∧
      (recorded [plain]).length = 0 ∧ ¬ List.Forall₂ Judges (rules plain) (recorded [plain]) ∧
      recorded [remarked] = [.bare .passed "Element doesn't have justified text"] := by
  intro recorded plain remarked
  have judgedOnce : (rules plain).length = 1 := by decide
  have unjudged : (recorded [plain]).length = 0 := by decide
  refine ⟨by decide, rfl, judgedOnce, unjudged, ?_, by decide⟩
  intro judged
  have lengths := judged.length_eq
  omega

end Justification

end StyleAudit
