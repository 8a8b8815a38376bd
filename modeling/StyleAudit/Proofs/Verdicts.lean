import StyleAudit.Proofs.History
import StyleAudit.Proofs.Report.Fairness
import StyleAudit.Proofs.Report.LastLine
import StyleAudit.Proofs.Report.Levels

/-!
# One verdict on every surface

The exit status and the last line of the text hang on the counts of a report, the levels in its
SARIF form on the single findings. They agree because the counts are made from outcomes and the
outcomes from findings, all the way from the ledgers on. Nothing is asked of the techniques: they
may find anything, end in any way, and have used their ledgers before.
-/

namespace StyleAudit

set_option autoImplicit false

namespace Entry

/-- The ledger belongs to the technique and was used in no other way than ledgers are. -/
def IsKept (e : Entry) : Prop :=
  Ledger.Kept e.descriptor e.member.ledger

theorem run_kept (input : Input) {e : Entry} (kept : e.IsKept) : (e.run input).1.IsKept :=
  (kept.fill_all _).conclude.reset

theorem run_account_fair (input : Input) {e : Entry} (kept : e.IsKept) :
    (e.run input).2.IsFair :=
  (kept.fill_all _).assertion_fair

theorem run_account_code (input : Input) {e : Entry} (kept : e.IsKept) :
    (e.run input).2.code = e.code :=
  congrArg Descriptor.code (kept.fill_all _).descriptor

end Entry

namespace Roster

def IsKept (r : Roster) : Prop :=
  ∀ e ∈ r.entries, e.IsKept

theorem call_kept {r : Roster} (kept : r.IsKept) (c : Call) : (r.call c).IsKept := by
  intro e member
  cases c with
  | configure selection =>
      obtain ⟨before, inside, rfl⟩ := List.mem_map.mp member
      exact kept before inside
  | enableAll =>
      obtain ⟨before, inside, rfl⟩ := List.mem_map.mp member
      exact kept before inside
  | execute input =>
      obtain ⟨before, inside, rfl⟩ := List.mem_map.mp member
      split
      · exact before.run_kept input (kept before inside)
      · exact kept before inside

theorem calls_kept {r : Roster} (kept : r.IsKept) (calls : List Call) :
    (calls.foldl call r).IsKept := by
  induction calls generalizing r with
  | nil => exact kept
  | cons c rest ih => exact ih (call_kept kept c)

theorem calls_codes (r : Roster) (calls : List Call) :
    (calls.foldl call r).entries.map Entry.code = r.entries.map Entry.code := by
  have codes (used : Roster) : used.entries.map Entry.code =
      (used.entries.map fun e => e.member.technique).map fun t => t.descriptor.code := by
    rw [List.map_map]
    rfl
  rw [codes, codes, calls_techniques]

theorem kept_assertions_codes {r : Roster} (kept : r.IsKept) (input : Input) :
    (r.assertions input).map Assertion.code = r.enabledCodes := by
  rw [assertions, enabledCodes, List.map_map]
  apply List.map_congr_left
  intro e member
  exact e.run_account_code input (kept e (List.mem_filter.mp member).1)

theorem kept_report_fair {r : Roster} (kept : r.IsKept)
    (distinct : (r.entries.map Entry.code).Nodup) (input : Input) : (r.report input).IsFair := by
  apply Report.add_all_fair
  · rw [kept_assertions_codes kept]
    exact distinct.sublist (List.filter_sublist.map Entry.code)
  · intro a added
    obtain ⟨e, member, rfl⟩ := List.mem_map.mp added
    exact e.run_account_fair input (kept e (List.mem_filter.mp member).1)

theorem kept_report_holds_accounts {r : Roster} (kept : r.IsKept) (input : Input)
    (enabled : r.enabledCodes ≠ []) : (r.report input).assertions.isEmpty = false := by
  obtain ⟨code, member⟩ := List.exists_mem_of_ne_nil _ enabled
  rw [← kept_assertions_codes kept input] at member
  have key : code ∈ (r.report input).assertions.keys :=
    (Report.mem_keys_add_all .empty (r.assertions input) code).mpr (.inl member)
  rw [Keyed.isEmpty, List.isEmpty_eq_false_iff]
  rintro none
  rw [Keyed.keys, none] at key
  cases key

end Roster

namespace Report

/-- What a report shows of its verdict is the same everywhere, given the levels that are found in
its SARIF form. -/
structure Agrees (r : Report) (levels : List String) : Prop where
  failed_outcome : r.hasFailures = true ↔ ∃ a ∈ r.assertions.values, a.outcome = .failed
  failed_level : r.hasFailures = true ↔ "error" ∈ levels
  failed_line : r.hasFailures = true ↔ Text.lastLine (r.render .text) = "RESULT: FAIL"
  warned_line : r.hasFailures = false →
    (Text.lastLine (r.render .text) = "RESULT: PASS WITH WARNINGS" ↔ levels ≠ [])
  warned_levels : r.hasFailures = false → ∀ level ∈ levels, level = "warning"
  passed_line : r.hasFailures = false →
    (Text.lastLine (r.render .text) = "RESULT: PASS" ↔ levels = [])

namespace IsFair

variable {r : Report}

theorem failed_outcome (fair : r.IsFair) :
    r.hasFailures = true ↔ ∃ a ∈ r.assertions.values, a.outcome = .failed := by
  rw [has_failures_iff, fair.counted]

theorem failed_level (fair : r.IsFair) :
    r.hasFailures = true ↔ "error" ∈ r.sarifResults.map SarifResult.level := by
  rw [fair.failed_outcome, error_mem_levels_iff]
  constructor
  · rintro ⟨a, held, failed⟩
    exact ⟨a, held, (fair.fair a held).failed.mp failed⟩
  · rintro ⟨a, held, found⟩
    exact ⟨a, held, (fair.fair a held).failed.mpr found⟩

/-- Nothing is flagged in the findings exactly if no outcome is counted that would be. -/
theorem no_levels (fair : r.IsFair) : r.sarifResults.map SarifResult.level = [] ↔
    ∀ v : Verdict, v.isFlagged = true → ¬ 0 < r.tally.count v := by
  rw [no_levels_iff]
  constructor
  · intro none v flagged counted
    obtain ⟨a, held, rfl⟩ := (fair.counted v).mp counted
    exact (fair.fair a held).flagged.mp flagged (none a held)
  · intro uncounted a held
    apply Classical.byContradiction
    intro some
    have flagged := (fair.fair a held).flagged.mpr some
    exact uncounted a.outcome flagged ((fair.counted a.outcome).mpr ⟨a, held, rfl⟩)

theorem no_levels_unless_warned (fair : r.IsFair) (unfailed : r.hasFailures = false) :
    r.sarifResults.map SarifResult.level = [] ↔ ¬ 0 < r.tally.warning := by
  have none : ¬ 0 < r.tally.count .failed := by
    rw [← has_failures_iff, unfailed]
    exact Bool.false_ne_true
  rw [fair.no_levels]
  constructor
  · intro uncounted
    exact uncounted .warning rfl
  · intro unwarned v flagged
    rcases v.flagged_iff.mp flagged with rfl | rfl
    · exact none
    · exact unwarned

theorem agrees (fair : r.IsFair) (held : r.assertions.isEmpty = false) :
    r.Agrees (r.sarifResults.map SarifResult.level) := by
  have line := last_line_of_text r held
  constructor
  · exact fair.failed_outcome
  · exact fair.failed_level
  · rw [line, result_fail_iff]
  · intro unfailed
    rw [line, result_warned_iff unfailed, ne_eq, fair.no_levels_unless_warned unfailed,
      Classical.not_not]
  · intro unfailed level member
    obtain ⟨a, held, f, inside, rfl⟩ := mem_levels_iff.mp member
    have other : ¬ sarifLevel f.verdict = "error" := by
      intro error
      rw [error, ← fair.failed_level, unfailed] at member
      exact Bool.false_ne_true member
    rw [error_level_iff] at other
    rw [sarifLevel, if_neg other]
  · intro unfailed
    rw [line, result_passed_iff unfailed, fair.no_levels_unless_warned unfailed]

end IsFair

end Report

theorem Command.report_reply_status (check : Check) (report : Report) (notes : List String) :
    ((Command.reportReply check report notes).conclude true).status = 1 ↔
      report.hasFailures = true := by
  have status : ((Command.reportReply check report notes).conclude true).status =
      if report.hasFailures then 1 else 0 := by
    rw [Reply.conclude]
    split <;> rfl
  rw [status]
  split <;> simp_all

namespace Roster

/-- Whatever the techniques find and however they end, a report on at least one of them shows the
same verdict as an exit status, in its outcomes, in the last line of its text and in the levels of
its SARIF form. -/
theorem verdict_surfaces_agree (start : Roster) (kept : start.IsKept)
    (distinct : (start.entries.map Entry.code).Nodup) (calls : List Call) (input : Input)
    (enabled : (calls.foldl call start).enabledCodes ≠ []) :
    let report := ((calls.foldl call start).run input).2
    (∀ check notes, ((Command.reportReply check report notes).conclude true).status = 1 ↔
      report.hasFailures = true) ∧
    ∃ levels, Report.sarifLevels? (report.render .sarif) = some levels ∧ report.Agrees levels := by
  intro report
  have usedKept := calls_kept kept calls
  have usedDistinct : ((calls.foldl call start).entries.map Entry.code).Nodup := by
    rw [calls_codes]
    exact distinct
  have fair : report.IsFair := kept_report_fair usedKept usedDistinct input
  have held := kept_report_holds_accounts usedKept input enabled
  refine ⟨fun check notes => Command.report_reply_status check report notes, ?_⟩
  exact ⟨_, report.read_sarif_levels, fair.agrees held⟩

def scriptedAs (code : String) (findings : List Finding) (ending : Ending) : Technique :=
  .scripted ⟨code, code, code, "", ⟨"*", []⟩, [], [], none⟩ findings ending

/-- A technique whose words look like a result and which ends in a fault. -/
def warner : Technique :=
  scriptedAs "W" [.bare .warning "RESULT: FAIL\n"] (.fault "RESULT: FAIL")

def breaker : Technique :=
  scriptedAs "B" [.bare .passed "before", .bare .failed "at the end"] .aborted

/-- The first ledger was already used when the roster was put together. -/
def faultyPair : Roster :=
  ⟨[⟨⟨warner, ((Ledger.start warner.descriptor).fill (.bare .passed "earlier")).conclude⟩, true⟩,
    ⟨.start breaker, true⟩]⟩

def warnerOnly : List Call :=
  [.execute ⟨[], none⟩, .configure ⟨[], [], [" w"]⟩]

def pairReport : Report :=
  (faultyPair.run ⟨[], none⟩).2

def warnerReport : Report :=
  ((warnerOnly.foldl call faultyPair).run ⟨[], none⟩).2

theorem faulty_pair_agrees :
    faultyPair.IsKept ∧ (faultyPair.entries.map Entry.code).Nodup ∧
    (pairReport.hasFailures = true ∧ Text.lastLine (pairReport.render .text) = "RESULT: FAIL" ∧
      ∃ levels, Report.sarifLevels? (pairReport.render .sarif) = some levels ∧ "error" ∈ levels) ∧
    (warnerReport.hasFailures = false ∧
      Report.sarifLevels? (warnerReport.render .sarif) = some ["warning"] ∧
      Text.lastLine (warnerReport.render .text) = "RESULT: PASS WITH WARNINGS") := by
  have kept : faultyPair.IsKept := by
    simp only [IsKept, faultyPair, List.forall_mem_cons]
    exact ⟨(Ledger.Kept.start.fill _).conclude, .start, by simp⟩
  have distinct : (faultyPair.entries.map Entry.code).Nodup := by decide
  obtain ⟨_, levels, read, both⟩ :=
    verdict_surfaces_agree faultyPair kept distinct [] ⟨[], none⟩ (by decide)
  obtain ⟨_, others, readOthers, alone⟩ :=
    verdict_surfaces_agree faultyPair kept distinct warnerOnly ⟨[], none⟩ (by decide)
  have failed : pairReport.hasFailures = true := by decide
  have unfailed : warnerReport.hasFailures = false := by decide
  have warning : others = ["warning"] := by
    rw [Report.read_sarif_levels] at readOthers
    obtain rfl := Option.some.inj readOthers
    decide
  subst warning
  refine ⟨kept, distinct, ⟨failed, both.failed_line.mp failed, levels, read,
    both.failed_level.mp failed⟩, unfailed, readOthers, (alone.warned_line unfailed).mpr nofun⟩

end Roster

end StyleAudit
