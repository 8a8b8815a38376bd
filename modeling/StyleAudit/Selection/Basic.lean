import StyleAudit.Text.Blank
import StyleAudit.Text.Casing
import StyleAudit.Json.Record

/-!
# Selections of techniques

Which techniques a run is to use, by principles, by levels and by name: a `Configuration`, with
`normalized` and `merge`. An empty selection selects everything.
-/

namespace StyleAudit

set_option autoImplicit false

structure Selection where
  principles : List String
  levels : List String
  techniques : List String
  deriving Repr, DecidableEq

namespace Selection

def empty : Selection := ⟨[], [], []⟩

def isEmpty (s : Selection) : Bool :=
  s.principles.isEmpty && s.levels.isEmpty && s.techniques.isEmpty

/-- Trimmed entries in a normal spelling. Blank entries are dropped. -/
def normalizeList (spelling : String → String) (entries : List String) : List String :=
  ((entries.map Text.trim).filter fun entry => entry != "").map spelling

/-- The selection in normal spelling: principles in title case, all else in upper case. -/
def normalized (s : Selection) : Selection where
  principles := normalizeList Text.title s.principles
  levels := normalizeList Text.upper s.levels
  techniques := normalizeList Text.upper s.techniques

def overrideList (base overriding : List String) : List String :=
  if overriding.isEmpty then base else overriding

/-- Each list that is not empty in the second selection replaces that of the first. -/
def merge (base overriding : Selection) : Selection where
  principles := overrideList base.principles overriding.principles
  levels := overrideList base.levels overriding.levels
  techniques := overrideList base.techniques overriding.techniques

def read : Json → Except Json.ReadError Selection :=
  Json.readRecord "Configuration" ["principles", "levels", "techniques"] fun fields =>
    Selection.mk <$> fields.defaulted "principles" [] (Json.readList Json.readText)
      <*> fields.defaulted "levels" [] (Json.readList Json.readText)
      <*> fields.defaulted "techniques" [] (Json.readList Json.readText)

end Selection

end StyleAudit
