import Mathlib.Data.List.Perm.Basic
import StyleAudit.Proofs.Isolation
import StyleAudit.Proofs.Report.Fairness

/-!
# Sheets add up

A technique for stylesheets goes through the sheets one after another, so what it finds in one row
of sheets and then in another is what it finds in both rows together. The one exception is the
technique for blinking text, whose remark that nothing was found is about all sheets at once. In
every case the outcome on all sheets is the graver one of the outcomes on the parts, and the order
of the sheets has no say in it.
-/

namespace StyleAudit

set_option autoImplicit false

namespace Verdict

def gravity : Verdict → Nat
  | inapplicable => 0
  | passed => 1
  | warning => 2
  | failed => 3

def worse (v w : Verdict) : Verdict :=
  if v.gravity < w.gravity then w else v

end Verdict

namespace Tally

theorem eq_of_counts {t u : Tally} (same : ∀ v, t.count v = u.count v) : t = u := by
  obtain ⟨passed, warning, failed, inapplicable⟩ := t
  have onPassed : passed = u.passed := same .passed
  have onWarning : warning = u.warning := same .warning
  have onFailed : failed = u.failed := same .failed
  have onInapplicable : inapplicable = u.inapplicable := same .inapplicable
  rw [onPassed, onWarning, onFailed, onInapplicable]

/-- The gravest verdict hangs only on which verdicts were given at all. -/
theorem gravest_of_either {t u both : Tally}
    (either : ∀ v, 0 < both.count v ↔ 0 < t.count v ∨ 0 < u.count v) :
    both.gravest = t.gravest.worse u.gravest := by
  have failed : 0 < both.failed ↔ 0 < t.failed ∨ 0 < u.failed := either .failed
  have warning : 0 < both.warning ↔ 0 < t.warning ∨ 0 < u.warning := either .warning
  have passed : 0 < both.passed ↔ 0 < t.passed ∨ 0 < u.passed := either .passed
  simp only [gravest, failed, warning, passed, Verdict.worse]
  by_cases tFailed : 0 < t.failed
  · by_cases uFailed : 0 < u.failed <;> grind [Verdict.gravity]
  · by_cases tWarning : 0 < t.warning <;> grind [Verdict.gravity]

end Tally

namespace Technique

variable (t : Technique) (input : Input)

theorem account_findings :
    (t.account input).findings = (t.evaluate (.start t.descriptor) input).findings :=
  Ledger.start_fill_all_findings t.descriptor _

theorem account_count (v : Verdict) :
    (t.account input).summary.tally.count v = Ledger.given v (t.account input).findings := by
  rw [account_findings]
  exact Ledger.start_fill_all_count t.descriptor _ v

theorem account_outcome : (t.account input).outcome = (t.account input).summary.tally.gravest := rfl

variable {t} {one other both : Input}

theorem outcome_of_joined_findings
    (joined : (t.account both).findings = (t.account one).findings ++ (t.account other).findings) :
    (t.account both).outcome = (t.account one).outcome.worse (t.account other).outcome := by
  rw [account_outcome, account_outcome, account_outcome]
  apply Tally.gravest_of_either
  intro v
  rw [account_count, account_count, account_count, joined, Ledger.given, Ledger.given, Ledger.given,
    List.countP_append]
  omega

theorem tally_of_permuted_findings
    (permuted : (t.account one).findings.Perm (t.account other).findings) :
    (t.account one).summary.tally = (t.account other).summary.tally := by
  apply Tally.eq_of_counts
  intro v
  rw [account_count, account_count, Ledger.given, Ledger.given, permuted.countP_eq]

end Technique

theorem of_sheets_findings (descriptor : Descriptor) (findings : Stylesheet → List Finding)
    (input : Input) : ((Technique.ofSheets descriptor findings).account input).findings =
      input.stylesheets.flatMap findings :=
  Technique.account_findings _ _

namespace Blinking

theorem judge_failed {file : String} {block : Block} {d : Declaration} {f : Finding}
    (judged : judge file block d = some f) : f.verdict = .failed := by
  rw [judge] at judged
  split at judged
  · obtain rfl := Option.some.inj judged
    exact Finding.verdict_withEvidence _ _
  · cases judged

theorem findings_failed {sheet : Stylesheet} {f : Finding} (found : f ∈ findings sheet) :
    f.verdict = .failed := by
  rw [findings] at found
  split at found
  · obtain ⟨⟨block, d⟩, _, judged⟩ := List.mem_filterMap.mp found
    exact judge_failed judged
  · cases found

theorem all_findings_failed {sheets : List Stylesheet} {f : Finding}
    (found : f ∈ sheets.flatMap findings) : f.verdict = .failed := by
  obtain ⟨sheet, _, inside⟩ := List.mem_flatMap.mp found
  exact findings_failed inside

theorem no_failure_counted_iff (sheets : List Stylesheet) :
    ((Ledger.start descriptor).fillAll (sheets.flatMap findings)).tally.failed = 0 ↔
      sheets.flatMap findings = [] := by
  have counted := Ledger.start_fill_all_count descriptor (sheets.flatMap findings) .failed
  change Tally.count _ .failed = 0 ↔ _
  rw [counted, Ledger.given, List.countP_eq_zero, List.eq_nil_iff_forall_not_mem]
  constructor
  · intro none f found
    exact none f found (beq_iff_eq.mpr (all_findings_failed found))
  · intro none f found
    exact absurd found (none f)

theorem evaluated_failures (ledger : Ledger) (input : Input) :
    ((technique.evaluate ledger input).findings.filter fun f => f.verdict = .failed) =
      input.stylesheets.flatMap findings := by
  have all : ((input.stylesheets.flatMap findings).filter fun f => f.verdict = .failed) =
      input.stylesheets.flatMap findings := by
    rw [List.filter_eq_self]
    intro f found
    exact decide_eq_true (all_findings_failed found)
  dsimp only [technique]
  split
  · rw [List.filter_append, all]
    exact List.append_nil _
  · exact all

theorem technique_findings (sheets : List Stylesheet) (page : Option ElementMap) :
    (technique.account ⟨sheets, page⟩).findings =
      if sheets.flatMap findings = [] then [nothingFound] else sheets.flatMap findings := by
  have written : (technique.account ⟨sheets, page⟩).findings =
      if ((Ledger.start descriptor).fillAll (sheets.flatMap findings)).tally.failed = 0 then
        sheets.flatMap findings ++ [nothingFound] else sheets.flatMap findings :=
    Technique.account_findings _ _
  rw [written]
  simp only [no_failure_counted_iff]
  split
  · rename_i nothing
    rw [nothing, List.nil_append]
  · rfl

theorem technique_failures (sheets : List Stylesheet) (page : Option ElementMap) :
    ((technique.account ⟨sheets, page⟩).findings.filter fun f => f.verdict = .failed) =
      sheets.flatMap findings := by
  rw [Technique.account_findings]
  exact evaluated_failures _ _

theorem technique_outcome (sheets : List Stylesheet) (page : Option ElementMap) :
    (technique.account ⟨sheets, page⟩).outcome =
      if sheets.flatMap findings = [] then .passed else .failed := by
  have written := technique_findings sheets page
  split
  · rename_i nothing
    rw [if_pos nothing, Technique.account_findings] at written
    rw [Technique.account, written]
    rfl
  · rename_i something
    rw [if_neg something] at written
    obtain ⟨f, found⟩ := List.exists_mem_of_ne_nil _ something
    rw [Technique.account_outcome, Tally.gravest_failed_iff, Technique.account_count, written,
      Ledger.given_positive_iff]
    exact ⟨f, found, all_findings_failed found⟩

theorem technique_outcome_append (xs ys : List Stylesheet) (page : Option ElementMap) :
    (technique.account ⟨xs ++ ys, page⟩).outcome =
      (technique.account ⟨xs, page⟩).outcome.worse (technique.account ⟨ys, page⟩).outcome := by
  rw [technique_outcome, technique_outcome, technique_outcome]
  simp only [List.flatMap_append, List.append_eq_nil_iff]
  by_cases inXs : xs.flatMap findings = [] <;> by_cases inYs : ys.flatMap findings = [] <;>
    simp only [inXs, inYs] <;> decide

theorem technique_findings_perm {xs zs : List Stylesheet} (permuted : zs.Perm xs)
    (page : Option ElementMap) :
    (technique.account ⟨zs, page⟩).findings.Perm (technique.account ⟨xs, page⟩).findings := by
  have found : (zs.flatMap findings).Perm (xs.flatMap findings) := permuted.flatMap_right findings
  have nothing : zs.flatMap findings = [] ↔ xs.flatMap findings = [] :=
    ⟨fun none => (none ▸ found).nil_eq.symm, fun none => (none ▸ found).eq_nil⟩
  rw [technique_findings, technique_findings]
  simp only [nothing]
  split
  · exact .refl _
  · exact found

end Blinking

theorem catalog_sheetwise {t : Technique} (member : t ∈ catalog) :
    (t.descriptor.code ≠ Blinking.descriptor.code ∧
        ∃ findings, t = .ofSheets t.descriptor findings) ∨
      t = Blinking.technique ∨ t = ColorPairs.technique := by
  cases t, member using built_in_cases with
  | sizes => exact .inl ⟨by decide, FontSize.findings, rfl⟩
  | alignment => exact .inl ⟨by decide, TextAlignment.findings, rfl⟩
  | spacing => exact .inl ⟨by decide, LineSpacing.findings, rfl⟩
  | styling => exact .inl ⟨by decide, TextStyling.findings, rfl⟩
  | widths => exact .inl ⟨by decide, ContainerWidth.findings, rfl⟩
  | blinking => exact .inr (.inl rfl)
  | colors => exact .inr (.inr rfl)
  | justification => exact .inl ⟨by decide, Justification.findings, rfl⟩

/-- A built-in technique for stylesheets finds in two rows of sheets together what it finds in the
first and then what it finds in the second. Of the technique for blinking text this holds of the
failures, and it passes once if there are none in either. The outcome on both rows is the worse one
of the outcomes on each, and neither counts nor outcome change with the order of the sheets. -/
theorem sheets_add_up (t : Technique) (member : t ∈ catalog)
    (forSheets : t.descriptor.code ≠ ColorPairs.descriptor.code) (page : Option ElementMap)
    (xs ys : List Stylesheet) :
    let account := fun sheets => t.account ⟨sheets, page⟩
    let failures := fun sheets => (account sheets).findings.filter fun f => f.verdict = .failed
    (t.descriptor.code ≠ Blinking.descriptor.code →
      (account (xs ++ ys)).findings = (account xs).findings ++ (account ys).findings) ∧
    (t.descriptor.code = Blinking.descriptor.code →
      (account (xs ++ ys)).findings =
        if failures xs = [] ∧ failures ys = [] then [Blinking.nothingFound]
        else failures xs ++ failures ys) ∧
    (account (xs ++ ys)).outcome = (account xs).outcome.worse (account ys).outcome ∧
    ∀ zs, zs.Perm xs → (account zs).summary.tally = (account xs).summary.tally ∧
      (account zs).outcome = (account xs).outcome := by
  intro account failures
  -- The outcome follows from the counts, so it is enough to permute the findings.
  have permuted (finds : ∀ zs, zs.Perm xs → (account zs).findings.Perm (account xs).findings) :
      ∀ zs, zs.Perm xs → (account zs).summary.tally = (account xs).summary.tally ∧
        (account zs).outcome = (account xs).outcome := by
    intro zs same
    have tally := Technique.tally_of_permuted_findings (finds zs same)
    refine ⟨tally, ?_⟩
    rw [Technique.account_outcome, Technique.account_outcome, tally]
  rcases catalog_sheetwise member with ⟨notBlinking, findings, sheetwise⟩ | rfl | rfl
  · have found (sheets : List Stylesheet) :
        (account sheets).findings = sheets.flatMap findings := by
      simp only [account]
      rw [sheetwise]
      exact of_sheets_findings _ _ _
    have joined : (account (xs ++ ys)).findings =
        (account xs).findings ++ (account ys).findings := by
      rw [found, found, found, List.flatMap_append]
    refine ⟨fun _ => joined, fun blinking => absurd blinking notBlinking,
      Technique.outcome_of_joined_findings joined, permuted ?_⟩
    intro zs same
    rw [found, found]
    exact same.flatMap_right findings
  · refine ⟨fun other => absurd rfl other, fun _ => ?_,
      Blinking.technique_outcome_append xs ys page,
      permuted fun zs same => Blinking.technique_findings_perm same page⟩
    have failed (sheets : List Stylesheet) :
        failures sheets = sheets.flatMap Blinking.findings :=
      Blinking.technique_failures sheets page
    have found := Blinking.technique_findings (xs ++ ys) page
    simp only [account, failed, found, List.flatMap_append, List.append_eq_nil_iff]
  · exact absurd rfl forSheets

def blinkingSheet : Stylesheet :=
  ⟨"b.css", some ⟨"a \x7b text-decoration: underline Blink \x7d", some (.sheet [.block ⟨.rule,
    ["a"], [⟨"text-decoration", "underline Blink", none⟩], none⟩] none)⟩⟩

/-- One sheet alone passes, the other one fails, and so do both in either order. -/
theorem blinking_and_quiet_sheet_add_up :
    let account := fun sheets => Blinking.technique.account ⟨sheets, none⟩
    (Blinking.technique ∈ catalog ∧
      Blinking.technique.descriptor.code ≠ ColorPairs.descriptor.code) ∧
    (account [Roster.pixelSheet]).findings = [Blinking.nothingFound] ∧
    (account [Roster.pixelSheet, blinkingSheet]).findings = (account [blinkingSheet]).findings ∧
    (account [Roster.pixelSheet, blinkingSheet]).outcome = Verdict.passed.worse .failed ∧
    [blinkingSheet, Roster.pixelSheet].Perm [Roster.pixelSheet, blinkingSheet] ∧
    (account [blinkingSheet, Roster.pixelSheet]).outcome = .failed := by
  intro account
  have member : Blinking.technique ∈ catalog := by simp [catalog]
  have forSheets : Blinking.technique.descriptor.code ≠ ColorPairs.descriptor.code := by decide
  have swapped : [blinkingSheet, Roster.pixelSheet].Perm [Roster.pixelSheet, blinkingSheet] :=
    .swap _ _ _
  obtain ⟨_, findings, outcome, _⟩ :=
    sheets_add_up Blinking.technique member forSheets none [Roster.pixelSheet] [blinkingSheet]
  obtain ⟨_, _, _, ordered⟩ := sheets_add_up Blinking.technique member forSheets none
    [Roster.pixelSheet, blinkingSheet] []
  have quiet : (account [Roster.pixelSheet]).findings = [Blinking.nothingFound] := by decide
  refine ⟨⟨member, forSheets⟩, quiet, ?_, ?_, swapped, ?_⟩
  · exact findings rfl
  · exact outcome
  · exact (ordered _ swapped).2.trans outcome

end StyleAudit
