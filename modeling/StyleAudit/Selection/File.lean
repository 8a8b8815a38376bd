import StyleAudit.Selection.Basic
import StyleAudit.Failure
import StyleAudit.Yaml.Node
import StyleAudit.Toml.Reader

/-!
# Selections in files

Transcription of `load_config`. A selection may be written in YAML, in TOML or in JSON; the name of
the file tells which. Entries that are not known are passed over, and a file that is not there
selects nothing in particular.
-/

namespace StyleAudit.Selection

set_option autoImplicit false

/-- The texts of a list. A list that is left out is empty. -/
def textsOfNode? : Yaml.Node → Option (List String)
  | .absent => some []
  | .list items => items.mapM Yaml.Node.text?
  | _ => none

/-- The list under a key, which must not be given twice. -/
def yamlList? (key : String) (entries : List (String × Yaml.Node)) : Option (List String) :=
  match entries.filter fun entry => entry.1 == key with
  | [] => some []
  | [entry] => textsOfNode? entry.2
  | _ => none

def ofNode? : Yaml.Node → Option Selection
  | .absent => some .empty
  | .mapping entries => do
    let entries ← entries.mapM fun entry => (Yaml.Node.text? entry.1).map fun key => (key, entry.2)
    return {
      principles := ← yamlList? "principles" entries
      levels := ← yamlList? "levels" entries
      techniques := ← yamlList? "techniques" entries }
  | _ => none

def ofYaml? (text : String) : Option Selection :=
  (Yaml.read? text).bind ofNode?

def textOfValue? : Toml.Value → Option String
  | .text content => some content
  | _ => none

def tomlList? (key : String) (entries : Toml.Entries) : Option (List String) :=
  match entries.lookup key with
  | none => some []
  | some (.array items) => items.mapM textOfValue?
  | some _ => none

def ofEntries? (entries : Toml.Entries) : Option Selection := do
  return {
    principles := ← tomlList? "principles" entries
    levels := ← tomlList? "levels" entries
    techniques := ← tomlList? "techniques" entries }

def ofToml? (text : String) : Option Selection :=
  (Toml.read? text).bind ofEntries?

inductive Language where
  | yaml
  | toml
  | json
  deriving Repr, DecidableEq

def fileName (path : List Char) : List Char :=
  (path.reverse.takeWhile fun c => c != '/').reverse

/-- What follows the last dot of a file name, unless the name begins with that dot. -/
def extension? (name : List Char) : Option String :=
  let ending := name.reverse.takeWhile fun c => c != '.'
  if ending.length + 1 < name.length then some (String.ofList ending.reverse) else none

/-- The language of a file. Every extension that is not known stands for YAML. -/
def Language.ofPath (path : String) : Language :=
  match extension? (fileName path.toList) with
  | some "toml" => toml
  | some "json" => json
  | _ => yaml

def ofText (language : Language) (text : String) : Except Failure Selection :=
  match language with
  | .yaml =>
    match ofYaml? text with
    | some selection => .ok selection
    | none => .error .yaml
  | .toml =>
    match ofToml? text with
    | some selection => .ok selection
    | none => .error .toml
  | .json => (Json.readAs Selection.read text).mapError .json

/-- The selection in a file, which is empty if there is no such file. -/
def load (path : String) (file : FileState) : Except Failure Selection :=
  match file with
  | .missing => .ok .empty
  | file => file.text.bind (ofText (Language.ofPath path))

end StyleAudit.Selection
