import Mathlib.Data.List.DropRight
import StyleAudit.Proofs.Ledger

/-!
# What a ledger remembers

A ledger may be filled, concluded and reset in any order. Its tally and its findings are kept side
by side, and the outcome trusts them to agree. They do: after any steps the ledger is, but for a
settled outcome, a new one into which the findings since the last reset were written. So the
outcome always has a finding to take its words from, unless nothing was written down.
-/

namespace StyleAudit.Ledger

set_option autoImplicit false

/-- One step in the use of a ledger. -/
inductive Step where
  | fill (finding : Finding)
  | conclude
  | reset
  deriving Repr, DecidableEq

namespace Step

def finding? : Step → Option Finding
  | fill finding => some finding
  | conclude => none
  | reset => none

def isReset : Step → Bool
  | fill _ => false
  | conclude => false
  | reset => true

end Step

def step (l : Ledger) : Step → Ledger
  | .fill finding => l.fill finding
  | .conclude => l.conclude
  | .reset => l.reset

def run (l : Ledger) (steps : List Step) : Ledger :=
  steps.foldl step l

/-- All findings that steps write down. -/
def filled (steps : List Step) : List Finding :=
  steps.filterMap Step.finding?

/-- The findings that the steps after the last reset write down. -/
def sinceReset (steps : List Step) : List Finding :=
  filled (steps.rtakeWhile fun s => !s.isReset)

/-- The first verdict that was given at all, failures before warnings before passes. -/
inductive IsGravest (count : Verdict → Nat) : Verdict → Prop where
  | failed (failures : 0 < count .failed) : IsGravest count .failed
  | warning (noFailure : count .failed = 0) (warnings : 0 < count .warning) :
      IsGravest count .warning
  | passed (noFailure : count .failed = 0) (noWarning : count .warning = 0)
      (passes : 0 < count .passed) : IsGravest count .passed
  | inapplicable (noFailure : count .failed = 0) (noWarning : count .warning = 0)
      (noPass : count .passed = 0) : IsGravest count .inapplicable

/-- The finding is the first of the list that gives the verdict. -/
def IsFirst (verdict : Verdict) (findings : List Finding) (f : Finding) : Prop :=
  ∃ before after, findings = before ++ f :: after ∧ f.verdict = verdict ∧
    ∀ earlier ∈ before, earlier.verdict ≠ verdict

theorem run_concat (l : Ledger) (steps : List Step) (s : Step) :
    l.run (steps ++ [s]) = (l.run steps).step s := by
  simp only [run, List.foldl_append, List.foldl_cons, List.foldl_nil]

theorem filled_concat (steps : List Step) (s : Step) :
    filled (steps ++ [s]) = filled steps ++ s.finding?.toList := by
  simp only [filled, List.filterMap_append]
  cases s <;> rfl

theorem since_reset_concat (steps : List Step) (s : Step) :
    sinceReset (steps ++ [s]) =
      if s.isReset then [] else sinceReset steps ++ s.finding?.toList := by
  unfold sinceReset
  rw [List.rtakeWhile_concat]
  cases s with
  | reset => rfl
  | conclude => exact filled_concat _ _
  | fill finding => exact filled_concat _ _

theorem since_reset_suffix (steps : List Step) : sinceReset steps <:+ filled steps :=
  (List.rtakeWhile_suffix _ steps).filterMap Step.finding?

/-- The ledger holds the findings in order and has counted each of them once. -/
structure Remembers (d : Descriptor) (recorded : List Finding) (l : Ledger) : Prop where
  descriptor : l.descriptor = d
  findings : l.findings = recorded
  tally : ∀ v, l.tally.count v = given v recorded

/-- The account of findings: the descriptor and the findings themselves, their counts, the gravest
verdict and, if there are findings, the words of the first that gives it. -/
structure Accounts (d : Descriptor) (recorded : List Finding) (a : Assertion) : Prop where
  identity : a.name = d.name ∧ a.code = d.code ∧ a.mapping = d.mapping ∧
    a.description = d.description
  reference : a.summary.target = d.target ∧ a.summary.criteria = d.criteria ∧
    a.summary.related = d.related ∧ a.summary.url = d.url
  findings : a.findings = recorded
  tally : ∀ v, a.summary.tally.count v = given v recorded
  outcome : a.summary.outcome = some a.outcome
  gravest : IsGravest (fun v => given v recorded) a.outcome
  words : recorded ≠ [] →
    ∃ f, IsFirst a.outcome recorded f ∧ a.summary.description = f.description
  silence : recorded = [] → a.summary.description = ""

theorem run_findings (d : Descriptor) (steps : List Step) :
    ((start d).run steps).findings = sinceReset steps := by
  induction steps using List.reverseRecOn with
  | nil => rfl
  | append_singleton steps s ih =>
      rw [run_concat, since_reset_concat]
      cases s with
      | reset => rfl
      | conclude =>
          rw [step, conclude, ih]
          exact (List.append_nil _).symm
      | fill finding =>
          rw [step, fill, ih]
          rfl

theorem run_kept (d : Descriptor) (steps : List Step) : Kept d ((start d).run steps) := by
  induction steps using List.reverseRecOn with
  | nil => exact .start
  | append_singleton steps s ih =>
      rw [run_concat]
      cases s with
      | fill finding => exact ih.fill finding
      | conclude => exact ih.conclude
      | reset => exact ih.reset

theorem run_remembers (d : Descriptor) (steps : List Step) :
    Remembers d (sinceReset steps) ((start d).run steps) := by
  have kept := run_kept d steps
  have findings := run_findings d steps
  refine ⟨kept.descriptor, findings, ?_⟩
  intro v
  rw [kept.count, findings]

theorem gravest_is_gravest (t : Tally) : IsGravest t.count t.gravest := by
  unfold Tally.gravest
  by_cases failures : 0 < t.failed
  · rw [if_pos failures]
    exact .failed failures
  · have noFailure : t.count .failed = 0 := Nat.eq_zero_of_not_pos failures
    rw [if_neg failures]
    by_cases warnings : 0 < t.warning
    · rw [if_pos warnings]
      exact .warning noFailure warnings
    · have noWarning : t.count .warning = 0 := Nat.eq_zero_of_not_pos warnings
      rw [if_neg warnings]
      by_cases passes : 0 < t.passed
      · rw [if_pos passes]
        exact .passed noFailure noWarning passes
      · rw [if_neg passes]
        exact .inapplicable noFailure noWarning (Nat.eq_zero_of_not_pos passes)

/-- Among findings the gravest verdict is given by one of them. If none has failed, warned or
passed, they all are inapplicable. -/
theorem IsGravest.given {recorded : List Finding} {v : Verdict}
    (gravest : IsGravest (fun w => Ledger.given w recorded) v) (some_finding : recorded ≠ []) :
    ∃ f ∈ recorded, f.verdict = v := by
  cases gravest with
  | failed failures => exact given_positive_iff.mp failures
  | warning _ warnings => exact given_positive_iff.mp warnings
  | passed _ _ passes => exact given_positive_iff.mp passes
  | inapplicable noFailure noWarning noPass =>
      obtain ⟨f, member⟩ := List.exists_mem_of_ne_nil recorded some_finding
      refine ⟨f, member, ?_⟩
      have absent (w : Verdict) (none : Ledger.given w recorded = 0) : f.verdict ≠ w := by
        intro same
        have positive := given_positive_iff.mpr ⟨f, member, same⟩
        omega
      cases verdict : f.verdict with
      | inapplicable => rfl
      | failed => exact absurd verdict (absent _ noFailure)
      | warning => exact absurd verdict (absent _ noWarning)
      | passed => exact absurd verdict (absent _ noPass)

theorem find_is_first {v : Verdict} {findings : List Finding}
    (present : ∃ f ∈ findings, f.verdict = v) :
    ∃ f, findings.find? (fun f => f.verdict == v) = some f ∧ IsFirst v findings f := by
  obtain ⟨g, member, gives⟩ := present
  have found : (findings.find? fun f => f.verdict == v).isSome = true :=
    List.find?_isSome.mpr ⟨g, member, beq_iff_eq.mpr gives⟩
  obtain ⟨f, first⟩ := Option.isSome_iff_exists.mp found
  obtain ⟨verdict, before, after, split, earlier⟩ := List.find?_eq_some_iff_append.mp first
  refine ⟨f, first, before, after, split, beq_iff_eq.mp verdict, ?_⟩
  intro other inside same
  have unlike := earlier other inside
  rw [same, beq_self_eq_true] at unlike
  cases unlike

theorem Remembers.accounts {d : Descriptor} {recorded : List Finding} {l : Ledger}
    (remembers : Remembers d recorded l) : Accounts d recorded l.assertion := by
  have counts : l.tally.count = fun v => given v recorded := funext remembers.tally
  have gravest : IsGravest (fun v => given v recorded) l.tally.gravest :=
    counts ▸ gravest_is_gravest l.tally
  have description : l.assertion.summary.description =
      ((recorded.find? fun f => f.verdict == l.tally.gravest).map Finding.description).getD "" := by
    rw [← remembers.findings]
    rfl
  constructor
  · rw [← remembers.descriptor]
    exact ⟨rfl, rfl, rfl, rfl⟩
  · rw [← remembers.descriptor]
    exact ⟨rfl, rfl, rfl, rfl⟩
  · exact remembers.findings
  · exact remembers.tally
  · rfl
  · exact gravest
  · intro some_finding
    obtain ⟨f, found, first⟩ := find_is_first (gravest.given some_finding)
    refine ⟨f, first, ?_⟩
    rw [description, found]
    rfl
  · rintro rfl
    exact description

/-- After any steps, a ledger that started clean holds the findings written down since the last
reset and nothing else, under the descriptor it started with, and no count exceeds the number of
findings ever written down. Concluding changes neither findings nor counts, the account stays the
same however often it is asked for, and it tells of the findings since the last reset. -/
theorem ledger_remembers_since_reset (d : Descriptor) (steps : List Step) :
    Remembers d (sinceReset steps) ((start d).run steps) ∧
    (∀ v, ((start d).run steps).tally.count v ≤ (filled steps).length) ∧
    ((start d).run (steps ++ [.conclude])).tally = ((start d).run steps).tally ∧
    ((start d).run (steps ++ [.conclude])).findings = ((start d).run steps).findings ∧
    ((start d).run (steps ++ [.conclude])).assertion = ((start d).run steps).assertion ∧
    Accounts d (sinceReset steps) ((start d).run steps).assertion ∧
    ∃ outcome, ((start d).run (steps ++ [.conclude])).outcome = some outcome ∧
      outcome.verdict = ((start d).run steps).assertion.outcome ∧
      outcome.description = ((start d).run steps).assertion.summary.description := by
  have remembers := run_remembers d steps
  refine ⟨remembers, ?_, ?_, ?_, ?_, remembers.accounts, ?_⟩
  · intro v
    rw [remembers.tally]
    exact List.countP_le_length.trans (since_reset_suffix steps).length_le
  · rw [run_concat]
    rfl
  · rw [run_concat]
    rfl
  · rw [run_concat]
    rfl
  · rw [run_concat]
    exact ⟨_, rfl, rfl, rfl⟩

end StyleAudit.Ledger
