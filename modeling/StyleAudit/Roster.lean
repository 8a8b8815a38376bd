import StyleAudit.Technique.Basic
import StyleAudit.Selection.Basic
import StyleAudit.Catalog.All

/-!
# Rosters

The techniques at hand in a fixed order, each with its ledger and whether it is enabled:
`TechniqueRegistry` and its `RegistryEntry`. Applying a selection, which is `configure`, decides
every flag anew, whatever was applied before.
-/

namespace StyleAudit

set_option autoImplicit false

structure Entry where
  member : Instance
  enabled : Bool

namespace Entry

def descriptor (e : Entry) : Descriptor :=
  e.member.technique.descriptor

def code (e : Entry) : String :=
  e.descriptor.code

def mapping (e : Entry) : String :=
  e.descriptor.mapping

end Entry

/-- Whether a normalized selection selects a technique. Principles and levels ask for one criterion
that meets both, where a list that is not given stands for all. Names given beside them only add
techniques. -/
def Selection.selects (s : Selection) (d : Descriptor) : Bool :=
  let named := s.techniques.any d.isCalled
  if s.principles.isEmpty && s.levels.isEmpty then s.techniques.isEmpty || named
  else
    let principles :=
      if s.principles.isEmpty then Principle.all.map Principle.name else s.principles
    let levels := if s.levels.isEmpty then Level.all.map Level.name else s.levels
    d.meets principles levels || named

structure Roster where
  entries : List Entry

namespace Roster

def ofTechniques (techniques : List Technique) : Roster :=
  ⟨techniques.map fun technique => ⟨.start technique, true⟩⟩

def builtIn : Roster :=
  ofTechniques catalog

def enableAll (r : Roster) : Roster :=
  ⟨r.entries.map fun e => { e with enabled := true }⟩

/-- Decides every flag by a selection in any spelling. -/
def configure (r : Roster) (s : Selection) : Roster :=
  ⟨r.entries.map fun e => { e with enabled := s.normalized.selects e.descriptor }⟩

def get? (r : Roster) (code : String) : Option Entry :=
  r.entries.find? fun e => e.code == code

def isEnabled (r : Roster) (code : String) : Bool :=
  match r.get? code with
  | some e => e.enabled
  | none => false

def enabledCodes (r : Roster) : List String :=
  (r.entries.filter Entry.enabled).map Entry.code

end Roster

end StyleAudit
