/-!
# Verdicts, principles and conformance levels

The names of `Verdict`, `Principle` and `WcagLevel` in reports, in selections and on the screen.
-/

namespace StyleAudit

set_option autoImplicit false

inductive Verdict where
  | passed
  | failed
  | warning
  | inapplicable
  deriving Repr, DecidableEq, Inhabited

namespace Verdict

def all : List Verdict := [passed, failed, warning, inapplicable]

def name : Verdict → String
  | passed => "passed"
  | failed => "failed"
  | warning => "warning"
  | inapplicable => "inapplicable"

/-- The verdict asks for attention. -/
def isFlagged : Verdict → Bool
  | failed => true
  | warning => true
  | passed => false
  | inapplicable => false

end Verdict

inductive Principle where
  | perceivable
  | operable
  | understandable
  | robust
  deriving Repr, DecidableEq

namespace Principle

def all : List Principle := [perceivable, operable, understandable, robust]

def name : Principle → String
  | perceivable => "Perceivable"
  | operable => "Operable"
  | understandable => "Understandable"
  | robust => "Robust"

end Principle

inductive Level where
  | a
  | aa
  | aaa
  deriving Repr, DecidableEq

namespace Level

def all : List Level := [a, aa, aaa]

def name : Level → String
  | a => "A"
  | aa => "AA"
  | aaa => "AAA"

end Level

end StyleAudit
