import StyleAudit.Technique.Verdict

/-!
# Descriptions of techniques

What is fixed about a technique, its `Descriptor`: its names, its `Target` and which success
criteria, each a `SuccessCriterion`, it serves. `has_principle_and_levels` asks for one that meets
both.
-/

namespace StyleAudit

set_option autoImplicit false

structure Criterion where
  name : String
  level : Level
  principle : Principle
  url : String
  deriving Repr, DecidableEq

/-- The elements and attributes a technique looks at, for information only. -/
structure Target where
  element : String
  attributes : List String
  deriving Repr, DecidableEq

/-- The fixed description of a technique. The mapping is its name in the public catalog of
techniques. -/
structure Descriptor where
  name : String
  code : String
  mapping : String
  description : String
  target : Target
  criteria : List Criterion
  related : List String
  url : Option String
  deriving Repr, DecidableEq

/-- Some criterion has its principle in one list and its level in the other. -/
def Descriptor.meets (d : Descriptor) (principles levels : List String) : Bool :=
  d.criteria.any fun c => principles.contains c.principle.name && levels.contains c.level.name

/-- Whether a name of a selection is one of the technique's own names. -/
def Descriptor.isCalled (d : Descriptor) (name : String) : Bool :=
  name == d.code || name == d.mapping

end StyleAudit
