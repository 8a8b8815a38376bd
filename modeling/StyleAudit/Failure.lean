import StyleAudit.Json.Record

/-!
# Failures

Why an operation did not give its result, the variants of `Error`, and the words for it where the
words are fixed.
-/

namespace StyleAudit

set_option autoImplicit false

inductive FileProblem where
  | missing
  | directory
  | denied
  | notText
  deriving Repr, DecidableEq

inductive Failure where
  | file (problem : FileProblem)
  | json (error : Json.ReadError)
  | yaml
  | toml
  | missingParent (element parent : String)
  | invalidSelector (selector : String)
  | technique (code text : String)
  deriving Repr, DecidableEq

def FileProblem.phrase : FileProblem → String
  | missing => "No such file or directory (os error 2)"
  | directory => "Is a directory (os error 21)"
  | denied => "Permission denied (os error 13)"
  | notText => "stream did not contain valid UTF-8"

/-- The words of a failure. Those of texts that do not parse are left open. -/
def Failure.message : Failure → String
  | file problem => "IO error: " ++ problem.phrase
  | json (.fault _) => "JSON error"
  | json (.mismatch mismatch) => "JSON error: " ++ mismatch.message
  | yaml => "YAML error"
  | toml => "TOML error"
  | missingParent element parent =>
    "DOM error: element " ++ element ++ " references missing parent " ++ parent
  | invalidSelector selector => "DOM error: invalid selector " ++ Text.quote selector
  | technique code text => "Technique " ++ code ++ " failed: " ++ text

inductive FileState where
  | missing
  | directory
  | denied
  | holding (bytes : ByteArray)

def FileState.text : FileState → Except Failure String
  | missing => .error (.file .missing)
  | directory => .error (.file .directory)
  | denied => .error (.file .denied)
  | holding bytes =>
    match String.fromUTF8? bytes with
    | some text => .ok text
    | none => .error (.file .notText)

end StyleAudit
