import Mathlib.Algebra.GroupWithZero.Nat
import Mathlib.Data.List.Forall2
import Mathlib.Data.List.Perm.Basic
import StyleAudit.Proofs.Report.Log
import StyleAudit.Proofs.Report.Superseded
import StyleAudit.Proofs.Technique.Bookkeeping

/-!
# Flagged findings in the log

The log of a report is put together from the accounts under their codes, while the counts in these
accounts are kept by the ledgers. For accounts of ledgers, used in any way, all of it fits together:
there is one rule for each account in the order of their codes, one result for each failure and each
warning in the order in which they were written down, and as many results as were counted.
-/

namespace StyleAudit

set_option autoImplicit false

/-- A technique's descriptor and how the ledger that was started for it was used. -/
structure Book where
  descriptor : Descriptor
  steps : List Ledger.Step

namespace Book

def code (b : Book) : String :=
  b.descriptor.code

def account (b : Book) : Assertion :=
  ((Ledger.start b.descriptor).run b.steps).assertion

/-- The failures and warnings among the findings written down since the last reset. -/
def flagged (b : Book) : List Finding :=
  (Ledger.sinceReset b.steps).filter fun f => f.verdict = .failed ∨ f.verdict = .warning

/-- The rule that stands for the technique. -/
def rule (b : Book) : Report.SarifRule :=
  ⟨b.descriptor.code, b.descriptor.name, b.descriptor.description, b.descriptor.url⟩

theorem accounts (b : Book) :
    Ledger.Accounts b.descriptor (Ledger.sinceReset b.steps) b.account :=
  (Ledger.run_remembers b.descriptor b.steps).accounts

theorem account_code (b : Book) : b.account.code = b.code :=
  b.accounts.identity.2.1

theorem account_rule (b : Book) : Report.sarifRule b.account = b.rule := by
  obtain ⟨name, code, _, description⟩ := b.accounts.identity
  rw [Report.sarifRule, rule, name, code, description, b.accounts.reference.2.2.2]

theorem account_flagged (b : Book) : Report.flagged b.account.findings = b.flagged := by
  rw [Report.flagged, flagged, b.accounts.findings]
  apply List.filter_congr
  intro f _
  rw [Bool.eq_iff_iff, decide_eq_true_iff, Verdict.flagged_iff]

end Book

namespace Report

/-- The result tells of a finding under a code: how grave it is, in which words, and in which
stylesheet, if the finding names one. -/
structure Tells (code : String) (f : Finding) (result : LogResult) : Prop where
  rule : result.rule = code
  error : result.level = "error" ↔ f.verdict = .failed
  warning : result.level = "warning" ↔ f.verdict = .warning
  message : result.message = f.description
  files : result.locations.map LogLocation.uri = (f.evidence.bind Evidence.file).toList

theorem warning_level_iff {v : Verdict} (flagged : v.isFlagged = true) :
    sarifLevel v = "warning" ↔ v = .warning := by
  rcases v.flagged_iff.mp flagged with rfl | rfl
  · decide
  · decide

theorem result_tells {code : String} {f : Finding}
    (flagged : f.verdict.isFlagged = true) :
    Tells code f (sarifResult code f).shown := by
  constructor
  · rfl
  · exact error_level_iff f.verdict
  · exact warning_level_iff flagged
  · rfl
  · rw [SarifResult.shown, sarifResult, sarifLocation?]
    cases f.evidence with
    | none => rfl
    | some e =>
        cases file : e.file with
        | none => simp [file]
        | some name => simp [file, SarifLocation.shown]

/-- The report holds the accounts of all books, which are so put into the order of their codes. -/
theorem exists_code_order {books : List Book} (distinct : (books.map Book.code).Nodup) :
    ∃ ordered : List Book, ordered.Perm books ∧
      (empty.addAll (books.map Book.account)).assertions.entries =
        ordered.map fun b => (b.code, b.account) := by
  have codes : (books.map Book.account).map Assertion.code = books.map Book.code := by
    rw [List.map_map]
    exact List.map_congr_left fun b _ => b.account_code
  have pairs : (fun a : Assertion => (a.code, a)) ∘ Book.account =
      fun b => (b.code, b.account) := by
    funext b
    exact congrArg (·, b.account) b.account_code
  have held := entries_perm_standing (books.map Book.account)
  rw [standing_of_distinct_codes (codes ▸ distinct), List.map_map, pairs] at held
  obtain ⟨ordered, entries, perm⟩ :=
    (congrFun₂ (List.eq_map_comp_perm fun b : Book => (b.code, b.account)) _ books).mpr held
  exact ⟨ordered, perm, entries⟩

theorem flagged_length (findings : List Finding) :
    (flagged findings).length = Ledger.given .failed findings + Ledger.given .warning findings := by
  induction findings with
  | nil => rfl
  | cons f rest ih =>
      have kept : flagged (f :: rest) =
          if f.verdict.isFlagged then f :: flagged rest else flagged rest := List.filter_cons
      have counted (v : Verdict) : Ledger.given v (f :: rest) =
          Ledger.given v rest + if f.verdict == v then 1 else 0 := List.countP_cons
      rw [kept, counted, counted]
      cases f.verdict with
      | failed =>
          change (flagged rest).length + 1 = _ + 1 + (_ + 0)
          omega
      | warning =>
          change (flagged rest).length + 1 = _ + 0 + (_ + 1)
          omega
      | passed => exact ih
      | inapplicable => exact ih

theorem results_length {r : Report}
    (counted : ∀ a ∈ r.assertions.values, ∀ v,
      a.summary.tally.count v = Ledger.given v a.findings) :
    r.sarifResults.length =
      (r.assertions.values.map fun a => a.summary.tally.failed + a.summary.tally.warning).sum := by
  simp only [sarifResults, List.length_flatMap, List.length_map]
  congr 1
  apply List.map_congr_left
  intro a held
  rw [flagged_length, ← counted a held, ← counted a held]
  rfl

section

variable {r : Report} {ordered : List Book}

theorem rules_of_books (values : r.assertions.values = ordered.map Book.account) :
    r.log.rules = ordered.map Book.rule := by
  rw [log, sarifRules, values, List.map_map]
  exact List.map_congr_left fun b _ => b.account_rule

theorem results_of_books (values : r.assertions.values = ordered.map Book.account) :
    r.log.results = (ordered.flatMap fun b => b.flagged.map (Prod.mk b.code)).map
      fun told => (sarifResult told.1 told.2).shown := by
  rw [log_results, values, List.flatMap_map, List.map_flatMap]
  apply List.flatMap_congr
  intro b _
  rw [b.account_flagged, b.account_code, List.map_map]
  rfl

theorem results_tell (values : r.assertions.values = ordered.map Book.account) :
    List.Forall₂ (fun (told : String × Finding) result => Tells told.1 told.2 result)
      (ordered.flatMap fun b => b.flagged.map (Prod.mk b.code)) r.log.results := by
  rw [results_of_books values, List.forall₂_map_right_iff, List.forall₂_same]
  intro told inside
  obtain ⟨b, _, listed⟩ := List.mem_flatMap.mp inside
  obtain ⟨f, flagged, rfl⟩ := List.mem_map.mp listed
  rw [← b.account_flagged] at flagged
  exact result_tells (List.mem_filter.mp flagged).2

end

/-- The log of a report on the accounts of ledgers, used in any way, has one rule for each account
with increasing ids and, rule by rule, one result for each finding that failed or warned, as it was
written down. Their number is what the accounts have counted of both. -/
theorem log_carries_flagged_findings (books : List Book)
    (distinct : (books.map Book.code).Nodup) :
    let report := empty.addAll (books.map Book.account)
    ∃ ordered : List Book, ordered.Perm books ∧
      ∃ log, Log.ofText? (report.render .sarif) = some log ∧
      log.rules = ordered.map Book.rule ∧
      log.rules.map SarifRule.id = report.assertions.keys ∧
      (log.rules.map SarifRule.id).Pairwise (· < ·) ∧
      List.Forall₂ (fun (told : String × Finding) result => Tells told.1 told.2 result)
        (ordered.flatMap fun b => b.flagged.map (Prod.mk b.code)) log.results ∧
      (∀ result ∈ log.results, result.rule ∈ log.rules.map SarifRule.id) ∧
      log.results.length =
        (report.assertions.values.map fun a =>
          a.summary.tally.failed + a.summary.tally.warning).sum := by
  intro report
  obtain ⟨ordered, perm, entries⟩ := exists_code_order distinct
  have values : report.assertions.values = ordered.map Book.account := by
    rw [Keyed.values, entries, List.map_map]
    rfl
  have keys : report.assertions.keys = ordered.map Book.code := by
    rw [Keyed.keys, entries, List.map_map]
    rfl
  have ids : report.log.rules.map SarifRule.id = ordered.map Book.code := by
    rw [rules_of_books values, List.map_map]
    rfl
  refine ⟨ordered, perm, report.log, report.read_sarif_log, rules_of_books values,
    ids.trans keys.symm, ?_, results_tell values, ?_, ?_⟩
  · rw [ids, ← keys]
    exact report.assertions.keys_increasing
  · intro result inside
    rw [results_of_books values] at inside
    obtain ⟨told, member, rfl⟩ := List.mem_map.mp inside
    obtain ⟨b, listed, pairs⟩ := List.mem_flatMap.mp member
    obtain ⟨f, _, rfl⟩ := List.mem_map.mp pairs
    rw [ids]
    exact List.mem_map_of_mem listed
  · rw [log, List.length_map]
    apply results_length
    intro a held v
    rw [values] at held
    obtain ⟨b, _, rfl⟩ := List.mem_map.mp held
    rw [b.accounts.tally, b.accounts.findings]

def bookOf (code : String) (steps : List Ledger.Step) : Book :=
  ⟨⟨code, code, code, "", ⟨"*", []⟩, [], [], none⟩, steps⟩

/-- A color in a stylesheet, under a selector whose place is known. -/
def sheetEvidence : Evidence :=
  ⟨none, some "a.css", ⟨"p", some (.span ⟨2, 0⟩ ⟨4, 1⟩)⟩, ⟨"color", "red", none⟩⟩

/-- Two ledgers, of which the one with the lesser code comes last. It was reset after a failure. -/
def shelf : List Book :=
  [bookOf "B" [.fill (.bare .failed "late"), .fill (.bare .passed "fine"), .conclude],
    bookOf "A" [.fill (.bare .failed "gone"), .conclude, .reset,
      .fill ((Finding.bare .warning "pale").withEvidence sheetEvidence), .conclude]]

/-- The results that the shelf comes to. -/
def shelfResults : List LogResult :=
  [⟨"A", "warning", "pale", [⟨"a.css", some ⟨2, none⟩⟩]⟩, ⟨"B", "error", "late", []⟩]

theorem shelf_is_carried :
    (shelf.map Book.code).Nodup ∧
    ∃ log, Log.ofText? ((empty.addAll (shelf.map Book.account)).render .sarif) = some log ∧
      log.rules.map SarifRule.id = ["A", "B"] ∧ log.results = shelfResults ∧
      (∀ result ∈ log.results, result.rule ∈ log.rules.map SarifRule.id) ∧
      log.results.length =
        ((empty.addAll (shelf.map Book.account)).assertions.values.map fun a =>
          a.summary.tally.failed + a.summary.tally.warning).sum := by
  have distinct : (shelf.map Book.code).Nodup := by decide
  obtain ⟨_, _, log, read, _, _, _, _, ruled, counted⟩ :=
    log_carries_flagged_findings shelf distinct
  obtain rfl := log_of_text read
  exact ⟨distinct, _, read, by decide, by decide, ruled, counted⟩

end Report

end StyleAudit
