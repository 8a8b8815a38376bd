import Mathlib.Data.List.Nodup
import StyleAudit.Proofs.Report.Fairness

/-!
# Accounts added under one code

A report counts every account that is added to it, but it holds one account for each code: the one
added last. The counts are thus those of the accounts it holds and of the accounts that were
superseded under their code, and they describe what the report holds exactly if no code came twice.
-/

namespace StyleAudit.Report

set_option autoImplicit false

/-- The accounts that no later one of their code follows. -/
def standing : List Assertion → List Assertion
  | [] => []
  | a :: rest => if a.code ∈ rest.map Assertion.code then standing rest else a :: standing rest

/-- The accounts that a later one of their code follows. -/
def superseded : List Assertion → List Assertion
  | [] => []
  | a :: rest => if a.code ∈ rest.map Assertion.code then a :: superseded rest else superseded rest

/-- How many codes of a report stand for an account with an outcome. -/
def recorded (r : Report) (v : Verdict) : Nat :=
  outcomes v r.assertions.values

theorem mem_of_mem_standing {accounts : List Assertion} {a : Assertion}
    (stands : a ∈ standing accounts) : a ∈ accounts := by
  induction accounts with
  | nil => exact stands
  | cons first rest ih =>
      rw [standing] at stands
      split at stands
      · exact List.mem_cons_of_mem first (ih stands)
      · rcases List.mem_cons.mp stands with rfl | later
        · exact List.mem_cons_self
        · exact List.mem_cons_of_mem first (ih later)

theorem standing_codes_nodup (accounts : List Assertion) :
    ((standing accounts).map Assertion.code).Nodup := by
  induction accounts with
  | nil => exact List.nodup_nil
  | cons first rest ih =>
      rw [standing]
      split
      · exact ih
      · rename_i last
        rw [List.map_cons, List.nodup_cons]
        refine ⟨?_, ih⟩
        intro again
        obtain ⟨a, stands, same⟩ := List.mem_map.mp again
        exact last (List.mem_map.mpr ⟨a, mem_of_mem_standing stands, same⟩)

/-- Under a code stands the last account of that code or, failing that, what stood there before. -/
theorem get_add_all_iff (r : Report) (accounts : List Assertion) (code : String) (a : Assertion) :
    (r.addAll accounts).get? code = some a ↔
      (a ∈ standing accounts ∧ a.code = code) ∨
        (code ∉ accounts.map Assertion.code ∧ r.get? code = some a) := by
  induction accounts generalizing r with
  | nil => simp [addAll, standing]
  | cons first rest ih =>
      rw [add_all_cons, ih, get_add, standing, List.map_cons, List.mem_cons, not_or]
      by_cases same : code = first.code
      · subst same
        by_cases later : first.code ∈ rest.map Assertion.code
        · simp [later]
        · simp only [later, not_false_eq_true, if_true, if_false, true_and, not_true_eq_false,
            false_and, or_false, List.mem_cons, Option.some.injEq]
          constructor
          · rintro (⟨stands, named⟩ | rfl)
            · exact ⟨.inr stands, named⟩
            · exact ⟨.inl rfl, rfl⟩
          · rintro ⟨rfl | stands, named⟩
            · exact .inr rfl
            · exact .inl ⟨stands, named⟩
      · rw [if_neg same]
        simp only [same, not_false_eq_true, true_and]
        have unmoved : a ∈ first :: standing rest ∧ a.code = code ↔
            a ∈ standing rest ∧ a.code = code := by
          rw [List.mem_cons]
          constructor
          · rintro ⟨rfl | stands, named⟩
            · exact absurd named.symm same
            · exact ⟨stands, named⟩
          · rintro ⟨stands, named⟩
            exact ⟨.inr stands, named⟩
        split
        · rfl
        · rw [unmoved]

theorem entries_perm_standing (accounts : List Assertion) :
    (empty.addAll accounts).assertions.entries.Perm
      ((standing accounts).map fun a => (a.code, a)) := by
  have held : (empty.addAll accounts).assertions.entries.Nodup :=
    List.Nodup.of_map Prod.fst (empty.addAll accounts).assertions.keys_nodup
  have stands : ((standing accounts).map fun a => (a.code, a)).Nodup := by
    apply List.Nodup.of_map Prod.fst
    rw [List.map_map]
    exact standing_codes_nodup accounts
  rw [List.perm_ext_iff_of_nodup held stands]
  rintro ⟨code, a⟩
  have found := get_add_all_iff empty accounts code a
  have nothing : empty.get? code ≠ some a := nofun
  simp only [nothing, and_false, or_false] at found
  rw [← Keyed.get_eq_some_iff, List.mem_map]
  refine found.trans ⟨?_, ?_⟩
  · rintro ⟨inside, rfl⟩
    exact ⟨a, inside, rfl⟩
  · rintro ⟨other, inside, shape⟩
    obtain ⟨rfl, rfl⟩ := Prod.mk.inj shape
    exact ⟨inside, rfl⟩

theorem values_perm_standing (accounts : List Assertion) :
    (empty.addAll accounts).assertions.values.Perm (standing accounts) := by
  have perm := (entries_perm_standing accounts).map Prod.snd
  rwa [List.map_map, show (Prod.snd ∘ fun a : Assertion => (a.code, a)) = id from rfl,
    List.map_id] at perm

theorem outcomes_of_standing_and_superseded (v : Verdict) (accounts : List Assertion) :
    outcomes v accounts = outcomes v (standing accounts) + outcomes v (superseded accounts) := by
  induction accounts with
  | nil => rfl
  | cons first rest ih =>
      rw [standing, superseded]
      split <;> simp only [outcomes, List.countP_cons] at ih ⊢ <;> omega

theorem length_of_standing_and_superseded (accounts : List Assertion) :
    accounts.length = (standing accounts).length + (superseded accounts).length := by
  induction accounts with
  | nil => rfl
  | cons first rest ih =>
      rw [standing, superseded]
      split <;> simp only [List.length_cons] <;> omega

theorem superseded_eq_nil_iff (accounts : List Assertion) :
    superseded accounts = [] ↔ (accounts.map Assertion.code).Nodup := by
  induction accounts with
  | nil => simp [superseded]
  | cons first rest ih =>
      rw [superseded, List.map_cons, List.nodup_cons]
      split
      · rename_i again
        simp [again]
      · rename_i last
        simp [last, ih]

theorem standing_of_distinct_codes {accounts : List Assertion}
    (distinct : (accounts.map Assertion.code).Nodup) : standing accounts = accounts := by
  induction accounts with
  | nil => rfl
  | cons first rest ih =>
      obtain ⟨last, apart⟩ := List.nodup_cons.mp distinct
      rw [standing, if_neg last, ih apart]

theorem count_add_all_empty (accounts : List Assertion) (v : Verdict) :
    (empty.addAll accounts).tally.count v =
      (empty.addAll accounts).recorded v + outcomes v (superseded accounts) := by
  have zero : empty.tally.count v = 0 := by cases v <;> rfl
  have held : (empty.addAll accounts).recorded v = outcomes v (standing accounts) :=
    (values_perm_standing accounts).countP_eq _
  rw [count_add_all, zero, Nat.zero_add, held, outcomes_of_standing_and_superseded]

theorem total_add_all_empty (accounts : List Assertion) :
    (empty.addAll accounts).tally.total =
      (empty.addAll accounts).assertions.size + (superseded accounts).length := by
  have held := (entries_perm_standing accounts).length_eq
  rw [List.length_map] at held
  rw [total_add_all, Keyed.size, held, length_of_standing_and_superseded]
  exact Nat.zero_add _

/-- However fewer than 2^32 accounts are added, no counter goes beyond 32 bits, and a report counts
each of its accounts and each superseded one once. Its counts, or their sum alone, describe what it
holds exactly if no code came twice. -/
theorem counts_describe_standing_and_superseded (accounts : List Assertion)
    (few : accounts.length < 4294967296) :
    let r := empty.addAll accounts
    (∀ v, r.tally.count v < 4294967296) ∧ r.tally.total = accounts.length ∧
    (∀ v, r.tally.count v = r.recorded v + outcomes v (superseded accounts)) ∧
    r.tally.total = r.assertions.size + (superseded accounts).length ∧
    (r.hasFailures = true ↔
      ∃ a, (a ∈ r.assertions.values ∨ a ∈ superseded accounts) ∧ a.outcome = .failed) ∧
    ((∀ v, r.tally.count v = r.recorded v) ↔ (accounts.map Assertion.code).Nodup) ∧
    (r.tally.total = r.assertions.size ↔ (accounts.map Assertion.code).Nodup) := by
  intro r
  have count : ∀ v, r.tally.count v = r.recorded v + outcomes v (superseded accounts) :=
    count_add_all_empty accounts
  have total : r.tally.total = r.assertions.size + (superseded accounts).length :=
    total_add_all_empty accounts
  have added : r.tally.total = accounts.length := by
    rw [total_add_all]
    exact Nat.zero_add _
  refine ⟨?_, added, count, total, ?_, ?_, ?_⟩
  · intro v
    calc
      r.tally.count v ≤ r.tally.total := r.tally.count_le_total v
      _ = accounts.length := added
      _ < 4294967296 := few
  · have failures : 0 < r.tally.count .failed ↔
        0 < r.recorded .failed ∨ 0 < outcomes .failed (superseded accounts) := by
      have failed := count .failed
      omega
    rw [has_failures_iff, failures, recorded, outcomes_positive_iff, outcomes_positive_iff,
      ← exists_or]
    simp only [or_and_right]
  · rw [← superseded_eq_nil_iff]
    constructor
    · intro described
      apply List.eq_nil_iff_forall_not_mem.mpr
      intro a member
      have counted := outcomes_positive_iff.mpr ⟨a, member, rfl⟩
      have drift := count a.outcome
      have equal := described a.outcome
      omega
    · intro none v
      rw [count v, none]
      rfl
  · rw [← superseded_eq_nil_iff, ← List.length_eq_zero_iff]
    omega

def concluded (code : String) (findings : List Finding) : Assertion :=
  ((Ledger.start ⟨code, code, code, "", ⟨"*", []⟩, [], [], none⟩).fillAll findings).assertion

def failedThenPassed : List Assertion :=
  [concluded "A" [.bare .failed "first"], concluded "A" [.bare .passed "second"]]

theorem failed_then_passed_is_counted :
    let r := empty.addAll failedThenPassed
    failedThenPassed.length < 4294967296 ∧ r.tally.total = 2 ∧ r.tally.count .failed < 4294967296 ∧
    r.recorded .failed = 0 ∧ outcomes .failed (superseded failedThenPassed) = 1 ∧
    r.tally.count .failed = r.recorded .failed + outcomes .failed (superseded failedThenPassed) ∧
    (∃ a, (a ∈ r.assertions.values ∨ a ∈ superseded failedThenPassed) ∧ a.outcome = .failed) ∧
    ¬ (failedThenPassed.map Assertion.code).Nodup ∧
    ¬ ∀ v, r.tally.count v = r.recorded v := by
  intro r
  have few : failedThenPassed.length < 4294967296 := by decide
  obtain ⟨bounded, total, counts, _, failures, distinct, _⟩ :=
    counts_describe_standing_and_superseded failedThenPassed few
  have twice : ¬ (failedThenPassed.map Assertion.code).Nodup := by decide
  exact ⟨few, total, bounded .failed, by decide, by decide, counts .failed,
    failures.mp (by decide), twice, mt distinct.mp twice⟩

/-- The failure goes on to be counted although no account of the report has failed. -/
theorem superseded_failure_stays_counted :
    (empty.addAll failedThenPassed).tally.count .failed = 1 ∧
    (empty.addAll failedThenPassed).recorded .failed = 0 ∧
    (empty.addAll failedThenPassed).tally.total = 2 ∧
    (empty.addAll failedThenPassed).assertions.size = 1 ∧
    (empty.addAll failedThenPassed).hasFailures = true ∧
    ¬ ∃ a ∈ (empty.addAll failedThenPassed).assertions.values, a.outcome = .failed := by
  decide

end StyleAudit.Report
