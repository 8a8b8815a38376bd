import StyleAudit.Command.Argument
import StyleAudit.Report.Format
import StyleAudit.Selection.Basic

/-!
# Commands

The two commands of `Cli`, to check stylesheets and to list the techniques, and how their words are
read. Both take the options of `Selection`, which are a `Choice` here; the other fields of the
variants of `Commands` are those of a `Check`.
-/

namespace StyleAudit

set_option autoImplicit false

/-- The file of a selection, and the lists that stand in for those of the file. -/
structure Choice where
  file : String
  overriding : Selection
  deriving Repr, DecidableEq

inductive PageSource where
  | map (file : String)
  | html (file : String)
  deriving Repr, DecidableEq

structure Check where
  choice : Choice
  stylesheets : String
  page : Option PageSource
  format : Format
  output : Option String
  verbose : Bool
  deriving Repr, DecidableEq

inductive Command where
  | check (request : Check)
  | list (choice : Choice) (verbose : Bool)
  | version
  | help
  deriving Repr, DecidableEq

namespace Command

def defaultChoiceFile : String := ".css-techniques.yml"

def commonWords : Vocabulary where
  single := ["config"]
  repeatable := ["principle", "level", "technique"]
  flags := [('v', "verbose"), ('h', "help")]

def checkWords : Vocabulary :=
  { commonWords with single := ["config", "dom", "html", "format", "output"] }

def choiceOf (given : List Argument) : Except Misuse Choice := do
  let file ← path? "config" given
  return {
    file := file.getD defaultChoiceFile
    overriding := ⟨valuesOf "principle" given, valuesOf "level" given, valuesOf "technique" given⟩ }

/-- A page is described in one way only. -/
def pageOf (given : List Argument) : Except Misuse (Option PageSource) := do
  match ← path? "dom" given, ← path? "html" given with
  | some _, some _ => .error (.conflict "dom" "html")
  | some file, none => return some (.map file)
  | none, some file => return some (.html file)
  | none, none => return none

/-- Formats are named exactly. Without a name the report is text. -/
def formatOf (given : List Argument) : Except Misuse Format := do
  match ← value? "format" given with
  | none => return .text
  | some name =>
    match Format.ofName? name with
    | some format => return format
    | none => .error (.invalidValue "format" name)

def stylesheetsOf (given : List Argument) : Except Misuse String :=
  match operandsOf given with
  | [] => .error (.missingOperand "stylesheets")
  | [file] => if file = "" then .error (.missingOperand "stylesheets") else .ok file
  | _ :: word :: _ => .error (.unexpected word)

def checkOf (given : List Argument) : Except Misuse Check := do
  return {
    choice := ← choiceOf given
    stylesheets := ← stylesheetsOf given
    page := ← pageOf given
    format := ← formatOf given
    output := ← path? "output" given
    verbose := ← isGiven "verbose" given }

def readCheck (words : List String) : Except Misuse Command := do
  let given ← arguments checkWords words
  if 0 < flagCount "help" given then return .help
  return .check (← checkOf given)

def readList (words : List String) : Except Misuse Command := do
  let given ← arguments commonWords words
  if 0 < flagCount "help" given then return .help
  match operandsOf given with
  | [] => return .list (← choiceOf given) (← isGiven "verbose" given)
  | word :: _ => .error (.unexpected word)

def ofOption? (word : String) : Option Command :=
  if word = "--version" || "-V".toList.isPrefixOf word.toList then some .version
  else if word = "--help" || word = "help" || "-h".toList.isPrefixOf word.toList then some .help
  else none

def read : List String → Except Misuse Command
  | [] => .error .noCommand
  | word :: words =>
    if word = "check" then readCheck words
    else if word = "list" then readList words
    else
      match ofOption? word with
      | some command => .ok command
      | none => .error (.unexpected word)

end Command

end StyleAudit
