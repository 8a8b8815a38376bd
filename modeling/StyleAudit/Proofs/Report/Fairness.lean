import StyleAudit.Proofs.Ledger
import StyleAudit.Proofs.Report.Totals

/-!
# Outcomes that come from findings

An account gives its outcome and its findings side by side, and a report gives its counts beside its
accounts. That the one follows from the other is no matter of their form: it holds of what is summed
up from a ledger that counts its findings, and of reports to which such accounts are added under
distinct codes.
-/

namespace StyleAudit

set_option autoImplicit false

theorem Tally.gravest_failed_iff (t : Tally) : t.gravest = .failed ↔ 0 < t.count .failed := by
  simp only [gravest, count]
  split
  · simp_all
  · split
    · simp_all
    · split <;> simp_all

theorem Tally.gravest_flagged_iff (t : Tally) :
    t.gravest.isFlagged = true ↔ 0 < t.count .failed ∨ 0 < t.count .warning := by
  simp only [gravest, count]
  split
  · simp_all [Verdict.isFlagged]
  · split
    · simp_all [Verdict.isFlagged]
    · split <;> simp_all [Verdict.isFlagged]

theorem Verdict.flagged_iff (v : Verdict) : v.isFlagged = true ↔ v = .failed ∨ v = .warning := by
  cases v <;> decide

namespace Report

theorem flagged_nonempty_iff {findings : List Finding} :
    flagged findings ≠ [] ↔ ∃ f ∈ findings, f.verdict = .failed ∨ f.verdict = .warning := by
  rw [flagged, ne_eq, List.filter_eq_nil_iff]
  simp only [Verdict.flagged_iff, Classical.not_forall, Classical.not_not, exists_prop]

end Report

/-- The outcome is the gravest that the findings of the account ask attention for. -/
structure Assertion.IsFair (a : Assertion) : Prop where
  failed : a.outcome = .failed ↔ ∃ f ∈ a.findings, f.verdict = .failed
  flagged : a.outcome.isFlagged = true ↔ Report.flagged a.findings ≠ []

theorem Ledger.Kept.assertion_fair {d : Descriptor} {l : Ledger} (kept : Kept d l) :
    l.assertion.IsFair := by
  have outcome : l.assertion.outcome = l.tally.gravest := rfl
  have findings : l.assertion.findings = l.findings := rfl
  constructor
  · rw [outcome, findings, Tally.gravest_failed_iff, kept.count, given_positive_iff]
  · rw [outcome, findings, Tally.gravest_flagged_iff, kept.count, kept.count, given_positive_iff,
      given_positive_iff, Report.flagged_nonempty_iff]
    simp only [and_or_left, exists_or]

namespace Report

/-- The accounts of a report are fair, and an outcome is counted if some account has come to it. -/
structure IsFair (r : Report) : Prop where
  counted : ∀ v, 0 < r.tally.count v ↔ ∃ a ∈ r.assertions.values, a.outcome = v
  fair : ∀ a ∈ r.assertions.values, a.IsFair

theorem outcomes_positive_iff {v : Verdict} {accounts : List Assertion} :
    0 < outcomes v accounts ↔ ∃ a ∈ accounts, a.outcome = v := by
  simp only [outcomes, List.countP_pos_iff, beq_iff_eq]

theorem has_failures_iff {r : Report} : r.hasFailures = true ↔ 0 < r.tally.count .failed := by
  rw [hasFailures, decide_eq_true_iff, Tally.count]

theorem get_add_all_was_added {r : Report} {accounts : List Assertion} {code : String}
    {a : Assertion} (held : (r.addAll accounts).get? code = some a) :
    a ∈ accounts ∨ r.get? code = some a := by
  induction accounts generalizing r with
  | nil => exact .inr held
  | cons first rest ih =>
      rcases ih held with later | before
      · exact .inl (List.mem_cons_of_mem first later)
      · rw [get_add] at before
        split at before
        · obtain rfl := Option.some.inj before
          exact .inl (by simp)
        · exact .inr before

theorem mem_values_add_all_iff {accounts : List Assertion}
    (distinct : (accounts.map Assertion.code).Nodup) {a : Assertion} :
    a ∈ (empty.addAll accounts).assertions.values ↔ a ∈ accounts := by
  rw [Keyed.mem_values_iff]
  constructor
  · rintro ⟨code, held⟩
    rcases get_add_all_was_added held with added | before
    · exact added
    · cases before
  · intro added
    exact ⟨a.code, get_add_all_of_distinct_codes empty accounts distinct a added⟩

theorem add_all_fair {accounts : List Assertion} (distinct : (accounts.map Assertion.code).Nodup)
    (fair : ∀ a ∈ accounts, a.IsFair) : (empty.addAll accounts).IsFair := by
  constructor
  · intro v
    have zero : empty.tally.count v = 0 := by cases v <;> rfl
    rw [count_add_all, zero, Nat.zero_add, outcomes_positive_iff]
    simp only [mem_values_add_all_iff distinct]
  · intro a held
    exact fair a ((mem_values_add_all_iff distinct).mp held)

end Report

end StyleAudit
