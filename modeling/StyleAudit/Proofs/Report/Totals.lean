import StyleAudit.Report.Basic
import StyleAudit.Proofs.Keyed

/-!
# What adding accounts does to a report

Accounts are added one after another. Each adds one to the total and to the count of its outcome.
Under a code stands the account of that code added last, so accounts whose codes differ pairwise
all stand in the report as they were added.
-/

namespace StyleAudit.Report

set_option autoImplicit false

def addAll (r : Report) (accounts : List Assertion) : Report :=
  accounts.foldl add r

/-- How many accounts come to an outcome. -/
def outcomes (v : Verdict) (accounts : List Assertion) : Nat :=
  accounts.countP fun a => a.outcome == v

theorem add_all_cons (r : Report) (a : Assertion) (accounts : List Assertion) :
    r.addAll (a :: accounts) = (r.add a).addAll accounts := rfl

theorem add_all_append (r : Report) (first second : List Assertion) :
    r.addAll (first ++ second) = (r.addAll first).addAll second := by
  simp only [addAll, List.foldl_append]

theorem add_all_concat (r : Report) (accounts : List Assertion) (a : Assertion) :
    r.addAll (accounts ++ [a]) = (r.addAll accounts).add a := by
  rw [add_all_append]
  rfl

theorem get_add (r : Report) (a : Assertion) (code : String) :
    (r.add a).get? code = if code = a.code then some a else r.get? code :=
  Keyed.get?_insert r.assertions a.code code a

theorem get_add_all_of_fresh_code (r : Report) (accounts : List Assertion) (code : String)
    (fresh : code ∉ accounts.map Assertion.code) : (r.addAll accounts).get? code = r.get? code := by
  induction accounts generalizing r with
  | nil => rfl
  | cons a rest ih =>
      simp only [List.map_cons, List.mem_cons, not_or] at fresh
      rw [add_all_cons, ih _ fresh.2, get_add, if_neg fresh.1]

theorem get_add_all_of_distinct_codes (r : Report) (accounts : List Assertion)
    (distinct : (accounts.map Assertion.code).Nodup) (a : Assertion) (member : a ∈ accounts) :
    (r.addAll accounts).get? a.code = some a := by
  induction accounts generalizing r with
  | nil => simp at member
  | cons first rest ih =>
      rw [List.map_cons, List.nodup_cons] at distinct
      rw [add_all_cons]
      rcases List.mem_cons.mp member with rfl | later
      · rw [get_add_all_of_fresh_code _ _ _ distinct.1, get_add, if_pos rfl]
      · exact ih _ distinct.2 later

theorem mem_keys_add_all (r : Report) (accounts : List Assertion) (code : String) :
    code ∈ (r.addAll accounts).assertions.keys ↔
      code ∈ accounts.map Assertion.code ∨ code ∈ r.assertions.keys := by
  induction accounts generalizing r with
  | nil => simp [addAll]
  | cons a rest ih =>
      rw [add_all_cons, ih, add, Keyed.mem_keys_insert, List.map_cons, List.mem_cons]
      rw [or_left_comm, or_assoc]

theorem count_add_all (r : Report) (accounts : List Assertion) (v : Verdict) :
    (r.addAll accounts).tally.count v = r.tally.count v + outcomes v accounts := by
  induction accounts generalizing r with
  | nil => rfl
  | cons a rest ih =>
      rw [add_all_cons, ih, add, Tally.count_increment]
      simp only [outcomes, List.countP_cons, beq_iff_eq]
      omega

theorem total_add_all (r : Report) (accounts : List Assertion) :
    (r.addAll accounts).tally.total = r.tally.total + accounts.length := by
  induction accounts generalizing r with
  | nil => rfl
  | cons a rest ih =>
      rw [add_all_cons, ih, add, Tally.total_increment, List.length_cons]
      omega

end StyleAudit.Report
