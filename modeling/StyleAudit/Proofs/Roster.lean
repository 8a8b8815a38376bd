import StyleAudit.Run
import StyleAudit.Proofs.Ledger
import StyleAudit.Proofs.Report.Totals

/-!
# Runs that start from clean ledgers

From clean ledgers a run gives every enabled technique an account of exactly what it wrote down, and
it leaves the roster as it found it. Nothing here asks how a technique ended: a fault shortens what
was written down and changes nothing else.
-/

namespace StyleAudit

set_option autoImplicit false

namespace Entry

/-- Nothing is written down in the ledger, and it is the technique's own. -/
def IsClean (e : Entry) : Prop :=
  e.member.ledger = .start e.descriptor

/-- What the technique does with an input when its ledger is clean. -/
def evaluation (e : Entry) (input : Input) : Evaluation :=
  e.member.technique.evaluate (.start e.descriptor) input

def account (input : Input) (e : Entry) : Assertion :=
  ((Ledger.start e.descriptor).fillAll (e.evaluation input).findings).assertion

theorem account_code (input : Input) (e : Entry) : (e.account input).code = e.code := by
  rw [account, Ledger.assertion, Ledger.fill_all_descriptor]
  rfl

theorem account_findings (input : Input) (e : Entry) :
    (e.account input).findings = (e.evaluation input).findings :=
  Ledger.start_fill_all_findings e.descriptor _

theorem account_count (input : Input) (e : Entry) (v : Verdict) :
    (e.account input).summary.tally.count v = Ledger.given v (e.evaluation input).findings :=
  Ledger.start_fill_all_count e.descriptor _ v

/-- Resetting undoes a run, however it ended. -/
theorem run_of_clean (input : Input) (e : Entry) (clean : e.IsClean) :
    e.run input = (e, e.account input) := by
  obtain ⟨⟨technique, ledger⟩, enabled⟩ := e
  have start : ledger = .start technique.descriptor := clean
  subst start
  simp only [run, Instance.execute, Instance.conclude, Instance.reset,
    Ledger.reset_conclude_fill_all]
  rfl

end Entry

namespace Roster

def IsClean (r : Roster) : Prop :=
  ∀ e ∈ r.entries, e.IsClean

def accounts (r : Roster) (input : Input) : List Assertion :=
  (r.entries.filter Entry.enabled).map (Entry.account input)

theorem of_techniques_clean (techniques : List Technique) : (ofTechniques techniques).IsClean := by
  intro e member
  obtain ⟨technique, _, rfl⟩ := List.mem_map.mp member
  rfl

theorem clean_after_run (r : Roster) (input : Input) (clean : r.IsClean) :
    r.afterRun input = r := by
  have unchanged : ∀ e ∈ r.entries, (if e.enabled then (e.run input).1 else e) = id e := by
    intro e member
    rw [Entry.run_of_clean input e (clean e member)]
    exact ite_self e
  rw [afterRun, List.map_congr_left unchanged, List.map_id]

theorem clean_report (r : Roster) (input : Input) (clean : r.IsClean) :
    r.report input = Report.empty.addAll (r.accounts input) := by
  have same : ∀ e ∈ r.entries.filter Entry.enabled, (e.run input).2 = e.account input := by
    intro e member
    rw [Entry.run_of_clean input e (clean e (List.mem_filter.mp member).1)]
  rw [report, assertions, List.map_congr_left same]
  rfl

theorem clean_unclean (r : Roster) (clean : r.IsClean) : r.unclean = [] := by
  have none : r.entries.filter (fun e => !e.member.ledger.isClean) = [] := by
    rw [List.filter_eq_nil_iff]
    intro e member
    have settled : e.member.ledger.isClean = true := by
      rw [clean e member]
      rfl
    rw [settled]
    decide
  rw [unclean, none, List.map_nil]

theorem accounts_codes (r : Roster) (input : Input) :
    (r.accounts input).map Assertion.code = r.enabledCodes := by
  rw [accounts, enabledCodes, List.map_map]
  exact List.map_congr_left fun e _ => Entry.account_code input e

/-- A report says of every enabled technique what it wrote down, counts it once by its outcome,
and says nothing of any other. -/
structure Accounts (r : Roster) (input : Input) (report : Report) : Prop where
  keys : ∀ code, code ∈ report.assertions.keys ↔ code ∈ r.enabledCodes
  held : ∀ e ∈ r.entries, e.enabled → ∃ a, report.get? e.code = some a ∧
    a = e.account input ∧ a.findings = (e.evaluation input).findings ∧
    ∀ v, a.summary.tally.count v = Ledger.given v (e.evaluation input).findings
  counted : ∀ v, report.tally.count v = Report.outcomes v (r.accounts input)
  total : report.tally.total = r.enabledCodes.length

theorem clean_report_keys (r : Roster) (input : Input) (clean : r.IsClean) (code : String) :
    code ∈ (r.report input).assertions.keys ↔ code ∈ r.enabledCodes := by
  rw [clean_report r input clean, Report.mem_keys_add_all, accounts_codes]
  simp [Report.empty, Keyed.keys, Keyed.empty]

theorem clean_report_accounts (r : Roster) (input : Input)
    (distinct : (r.entries.map Entry.code).Nodup) (clean : r.IsClean) :
    r.Accounts input (r.report input) := by
  have codes : ((r.accounts input).map Assertion.code).Nodup := by
    rw [accounts_codes]
    exact distinct.sublist (List.filter_sublist.map Entry.code)
  constructor
  · exact clean_report_keys r input clean
  · intro e member enabled
    refine ⟨e.account input, ?_, rfl, e.account_findings input, e.account_count input⟩
    have added : e.account input ∈ r.accounts input :=
      List.mem_map.mpr ⟨e, List.mem_filter.mpr ⟨member, enabled⟩, rfl⟩
    rw [clean_report r input clean, ← Entry.account_code input e]
    exact Report.get_add_all_of_distinct_codes _ _ codes _ added
  · intro v
    have zero : Report.empty.tally.count v = 0 := by cases v <;> rfl
    rw [clean_report r input clean, Report.count_add_all, zero, Nat.zero_add]
  · have length := congrArg List.length (r.accounts_codes input)
    rw [List.length_map] at length
    rw [clean_report r input clean, Report.total_add_all, length]
    exact Nat.zero_add _

end Roster

end StyleAudit
