import StyleAudit.Report.Text
import StyleAudit.Report.Json
import StyleAudit.Report.Sarif

/-!
# Output formats

The variants of `OutputFormat` with their names, and `render`.
-/

namespace StyleAudit

set_option autoImplicit false

inductive Format where
  | text
  | json
  | sarif
  deriving Repr, DecidableEq

namespace Format

def all : List Format := [text, json, sarif]

def name : Format → String
  | text => "text"
  | json => "json"
  | sarif => "sarif"

def ofName? (name : String) : Option Format :=
  all.find? fun format => format.name == name

/-- The format that a text names in any case. The refused name is given in lower case. -/
def parse (s : String) : Except String Format :=
  match ofName? (Text.lower s) with
  | some format => .ok format
  | none => .error (Text.lower s)

end Format

def Report.render (r : Report) : Format → String
  | .text => r.text
  | .json => r.jsonText
  | .sarif => r.sarifText

end StyleAudit
