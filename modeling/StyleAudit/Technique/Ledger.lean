import StyleAudit.Technique.Descriptor
import StyleAudit.Technique.Finding

/-!
# Ledgers

Transcription of `TechniqueCore` and `aggregate`. A ledger is what a technique writes down while it
runs: its findings in order and how often each verdict was given, a `Tally`. At the end of a run
`final_results` sums it up in an assertion, which is a `TechniqueState`.
-/

namespace StyleAudit

set_option autoImplicit false

/-- How often each verdict was given. The counters of the program have 32 bits, so a tally stands
for them as long as fewer than 2^32 verdicts are counted; a counter is then at most that number. -/
structure Tally where
  passed : Nat
  warning : Nat
  failed : Nat
  inapplicable : Nat
  deriving Repr, DecidableEq

namespace Tally

def zero : Tally := ⟨0, 0, 0, 0⟩

instance : Inhabited Tally := ⟨zero⟩

def increment (t : Tally) : Verdict → Tally
  | .passed => { t with passed := t.passed + 1 }
  | .warning => { t with warning := t.warning + 1 }
  | .failed => { t with failed := t.failed + 1 }
  | .inapplicable => { t with inapplicable := t.inapplicable + 1 }

def count (t : Tally) : Verdict → Nat
  | .passed => t.passed
  | .warning => t.warning
  | .failed => t.failed
  | .inapplicable => t.inapplicable

def total (t : Tally) : Nat :=
  t.passed + t.warning + t.failed + t.inapplicable

def isEmpty (t : Tally) : Bool :=
  t.total == 0

/-- The gravest verdict given: a failure before a warning, a warning before a pass. -/
def gravest (t : Tally) : Verdict :=
  if 0 < t.failed then .failed
  else if 0 < t.warning then .warning
  else if 0 < t.passed then .passed
  else .inapplicable

theorem count_increment (t : Tally) (v w : Verdict) :
    (t.increment v).count w = t.count w + if v = w then 1 else 0 := by
  cases v <;> cases w <;> simp [increment, count]

theorem total_increment (t : Tally) (v : Verdict) : (t.increment v).total = t.total + 1 := by
  cases v <;> simp [increment, total] <;> omega

theorem count_le_total (t : Tally) (v : Verdict) : t.count v ≤ t.total := by
  cases v <;> simp only [count, total] <;> omega

end Tally

structure Outcome where
  verdict : Verdict
  description : String
  deriving Repr, DecidableEq

/-- The outcome of a run: the gravest verdict, in the words of the first finding that gave it. -/
def Outcome.ofFindings (tally : Tally) (findings : List Finding) : Outcome where
  verdict := tally.gravest
  description :=
    ((findings.find? fun f => f.verdict == tally.gravest).map Finding.description).getD ""

structure Summary where
  target : Target
  criteria : List Criterion
  related : List String
  url : Option String
  tally : Tally
  outcome : Option Verdict
  description : String
  deriving Repr, DecidableEq

structure Assertion where
  name : String
  code : String
  mapping : String
  description : String
  summary : Summary
  findings : List Finding
  deriving Repr, DecidableEq

/-- The outcome of the run; a run without one counts as inapplicable. -/
def Assertion.outcome (a : Assertion) : Verdict :=
  a.summary.outcome.getD .inapplicable

structure Ledger where
  descriptor : Descriptor
  tally : Tally
  findings : List Finding
  outcome : Option Outcome
  deriving Repr, DecidableEq

namespace Ledger

def start (d : Descriptor) : Ledger :=
  ⟨d, .zero, [], none⟩

def isClean (l : Ledger) : Bool :=
  l.tally == .zero && l.findings.isEmpty && l.outcome.isNone

def fill (l : Ledger) (finding : Finding) : Ledger :=
  { l with tally := l.tally.increment finding.verdict, findings := l.findings ++ [finding] }

def fillAll (l : Ledger) (findings : List Finding) : Ledger :=
  findings.foldl fill l

def currentOutcome (l : Ledger) : Outcome :=
  .ofFindings l.tally l.findings

def assertion (l : Ledger) : Assertion where
  name := l.descriptor.name
  code := l.descriptor.code
  mapping := l.descriptor.mapping
  description := l.descriptor.description
  summary := {
    target := l.descriptor.target
    criteria := l.descriptor.criteria
    related := l.descriptor.related
    url := l.descriptor.url
    tally := l.tally
    outcome := some l.currentOutcome.verdict
    description := l.currentOutcome.description
  }
  findings := l.findings

def conclude (l : Ledger) : Ledger :=
  { l with outcome := some l.currentOutcome }

def reset (l : Ledger) : Ledger :=
  start l.descriptor

end Ledger

end StyleAudit
