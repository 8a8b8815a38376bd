import StyleAudit.Command.Basic
import StyleAudit.Listing
import StyleAudit.Page.Html
import StyleAudit.Page.Json
import StyleAudit.Run
import StyleAudit.Selection.File
import StyleAudit.Stylesheet.Reader

/-!
# What commands come to

Transcription of `main` with `resolve`, `load_dom` and `write_output`. A command reads its files,
one after another, and comes to a text, for the standard output or for a file. The status is 2 if
the command line is wrong, and 1 if a file cannot be used or if a technique has failed.
-/

namespace StyleAudit

set_option autoImplicit false

/-- What a command comes to, before its text is put anywhere. -/
structure Reply where
  text : String
  file : Option String
  status : Nat
  notes : List String
  deriving Repr, DecidableEq

structure Conclusion where
  printed : String
  status : Nat
  notes : List String
  deriving Repr, DecidableEq

/-- What a file system shows under each path. -/
abbrev Files : Type := String → FileState

namespace Command

structure Trouble where
  doing : Option String
  cause : Failure
  deriving Repr, DecidableEq

def Trouble.notes (t : Trouble) : List String :=
  match t.doing with
  | some doing => ["Error: " ++ doing, "", "Caused by:", "    " ++ t.cause.message]
  | none => ["Error: " ++ t.cause.message]

def during {α : Type} (doing : String) (result : Except Failure α) : Except Trouble α :=
  result.mapError fun cause => ⟨some doing, cause⟩

/-- The selection of a file, where the lists of the command line stand in for those of the file. -/
def chosen (files : Files) (choice : Choice) : Except Trouble Selection :=
  during ("reading configuration " ++ choice.file)
    ((Selection.load choice.file (files choice.file)).map fun s => s.merge choice.overriding)

def stylesheets (files : Files) (file : String) : Except Trouble (List Stylesheet) :=
  during ("reading stylesheets " ++ file) do
    (Stylesheet.load (← (files file).text)).mapError .json

def elements (files : Files) : PageSource → Except Trouble ElementMap
  | .map file => do
    let text ← during ("reading DOM map " ++ file) (files file).text
    (ElementMap.ofJsonText text).mapError fun error => ⟨none, .json error⟩
  | .html file => do
    let text ← during ("reading HTML page " ++ file) (files file).text
    return (Page.ofHtml text).map

def rosterNotes (verbose : Bool) (r : Roster) : List String :=
  if verbose then ["Enabled techniques: " ++ ", ".intercalate r.enabledCodes] else []

/-- Parents that are named but not mapped do not stop a check. -/
def pageNotes (map : Option ElementMap) : List String :=
  match map.map fun map => (Page.ofMap map).validate with
  | some (.error failure) => ["Warning: " ++ failure.message]
  | _ => []

/-- A printed report ends its last line; in a file it stands as it is. -/
def reportReply (check : Check) (report : Report) (notes : List String) : Reply :=
  let text := report.render check.format
  { text := if check.output.isNone then text ++ "\n" else text
    file := check.output
    status := if report.hasFailures then 1 else 0
    notes := notes }

def checkReply (files : Files) (check : Check) : Except Trouble Reply := do
  let roster := Roster.builtIn.configure (← chosen files check.choice)
  let sheets ← stylesheets files check.stylesheets
  let map ←
    match check.page with
    | some source => (elements files source).map some
    | none => pure none
  return reportReply check (roster.report ⟨sheets, map⟩)
    (rosterNotes check.verbose roster ++ pageNotes map)

def listReply (files : Files) (choice : Choice) (verbose : Bool) : Except Trouble Reply := do
  let roster := Roster.builtIn.configure (← chosen files choice)
  return ⟨roster.listing, none, 0, rosterNotes verbose roster⟩

def usage : String :=
  "Usage: css-techniques check [OPTIONS] <STYLESHEETS>\n" ++
  "       css-techniques list [OPTIONS]\n\n" ++
  "Options of both commands:\n" ++
  "      --config <FILE>       configuration in YAML, TOML or JSON [.css-techniques.yml]\n" ++
  "      --principle <NAME>    principle to check (repeatable)\n" ++
  "      --level <NAME>        conformance level to check (repeatable)\n" ++
  "      --technique <NAME>    technique to check (repeatable)\n" ++
  "  -v, --verbose\n\n" ++
  "Options of check:\n" ++
  "      --dom <FILE>          element map in JSON\n" ++
  "      --html <FILE>         HTML page, in place of an element map\n" ++
  "      --format <FORMAT>     text, json or sarif [text]\n" ++
  "      --output <FILE>       file for the report\n"

def reply (files : Files) : Command → Except Trouble Reply
  | check request => checkReply files request
  | list choice verbose => listReply files choice verbose
  | version => .ok ⟨toolName ++ " " ++ toolVersion ++ "\n", none, 0, []⟩
  | help => .ok ⟨usage, none, 0, []⟩

def run (files : Files) (words : List String) : Reply :=
  match read words with
  | .error misuse => ⟨"", none, 2, ["error: " ++ misuse.message]⟩
  | .ok command =>
    match command.reply files with
    | .error trouble => ⟨"", none, 1, trouble.notes⟩
    | .ok reply => reply

def PageSource.file : PageSource → String
  | .map file => file
  | .html file => file

def filesRead : Command → List String
  | check request =>
    request.choice.file :: request.stylesheets :: (request.page.map PageSource.file).toList
  | list choice _ => [choice.file]
  | _ => []

end Command

/-- How the command ends, once the text for a file has been stored or could not be. -/
def Reply.conclude (r : Reply) (stored : Bool) : Conclusion :=
  match r.file with
  | none => ⟨r.text, r.status, r.notes⟩
  | some file =>
    if stored then ⟨"", r.status, r.notes ++ ["Report written to " ++ file]⟩
    else ⟨"", 1, r.notes ++ ["Error: the report cannot be written to " ++ file]⟩

end StyleAudit
