import StyleAudit.Technique.Ledger

/-!
# What filling a ledger leaves behind

A ledger only ever grows by findings. After any number of fills it holds the findings in order
behind the ones it had, its tally has counted each of them once, and its description and its
outcome are what they were.
-/

namespace StyleAudit.Ledger

set_option autoImplicit false

/-- How many of the findings give a verdict. -/
def given (v : Verdict) (findings : List Finding) : Nat :=
  findings.countP fun f => f.verdict == v

theorem fill_all_append (l : Ledger) (first second : List Finding) :
    l.fillAll (first ++ second) = (l.fillAll first).fillAll second := by
  simp only [fillAll, List.foldl_append]

theorem fill_all_cons (l : Ledger) (finding : Finding) (findings : List Finding) :
    l.fillAll (finding :: findings) = (l.fill finding).fillAll findings := rfl

theorem fill_all_findings (l : Ledger) (findings : List Finding) :
    (l.fillAll findings).findings = l.findings ++ findings := by
  induction findings generalizing l with
  | nil => simp [fillAll]
  | cons finding rest ih =>
      rw [fill_all_cons, ih]
      simp [fill]

theorem fill_all_descriptor (l : Ledger) (findings : List Finding) :
    (l.fillAll findings).descriptor = l.descriptor := by
  induction findings generalizing l with
  | nil => rfl
  | cons finding rest ih => rw [fill_all_cons, ih, fill]

theorem fill_all_count (l : Ledger) (findings : List Finding) (v : Verdict) :
    (l.fillAll findings).tally.count v = l.tally.count v + given v findings := by
  induction findings generalizing l with
  | nil => rfl
  | cons finding rest ih =>
      rw [fill_all_cons, ih, fill, Tally.count_increment]
      simp only [given, List.countP_cons, beq_iff_eq]
      omega

theorem start_count (d : Descriptor) (v : Verdict) : (start d).tally.count v = 0 := by
  cases v <;> rfl

theorem start_fill_all_count (d : Descriptor) (findings : List Finding) (v : Verdict) :
    ((start d).fillAll findings).tally.count v = given v findings := by
  rw [fill_all_count, start_count, Nat.zero_add]

theorem start_fill_all_findings (d : Descriptor) (findings : List Finding) :
    ((start d).fillAll findings).findings = findings := by
  rw [fill_all_findings]
  rfl

theorem reset_conclude_fill_all (l : Ledger) (findings : List Finding) :
    (l.fillAll findings).conclude.reset = start l.descriptor := by
  rw [reset, conclude, fill_all_descriptor]

theorem given_positive_iff {v : Verdict} {findings : List Finding} :
    0 < given v findings ↔ ∃ f ∈ findings, f.verdict = v := by
  simp only [given, List.countP_pos_iff, beq_iff_eq]

/-- A ledger that a technique may have used in any way: findings were written down in it, its
outcome was settled and it was started anew, in any order and any number of times. -/
inductive Kept (d : Descriptor) : Ledger → Prop where
  | start : Kept d (start d)
  | fill {l : Ledger} (kept : Kept d l) (finding : Finding) : Kept d (l.fill finding)
  | conclude {l : Ledger} (kept : Kept d l) : Kept d l.conclude
  | reset {l : Ledger} (kept : Kept d l) : Kept d l.reset

namespace Kept

variable {d : Descriptor} {l : Ledger}

theorem descriptor (kept : Kept d l) : l.descriptor = d := by
  induction kept with
  | start => rfl
  | fill _ _ ih => exact ih
  | conclude _ ih => exact ih
  | reset _ ih => exact ih

theorem count (kept : Kept d l) (v : Verdict) : l.tally.count v = given v l.findings := by
  induction kept with
  | start => exact start_count d v
  | @fill l _ finding ih =>
      rw [Ledger.fill, Tally.count_increment, ih]
      simp only [given, List.countP_append, List.countP_singleton, beq_iff_eq]
  | conclude _ ih => exact ih
  | reset _ _ => exact start_count _ v

theorem fill_all (kept : Kept d l) (findings : List Finding) : Kept d (l.fillAll findings) := by
  induction findings generalizing l with
  | nil => exact kept
  | cons finding rest ih => exact ih (kept.fill finding)

end Kept

end StyleAudit.Ledger
