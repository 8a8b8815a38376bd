import StyleAudit.Report.Basic
import StyleAudit.Technique.Json

/-!
# Reports as JSON

Transcription of `render_json`, and the reader of what it writes.
-/

namespace StyleAudit.Report

set_option autoImplicit false

open Json (ReadError readRecord readText readMapping)

def json (r : Report) : Json :=
  .object [("type", .text r.kind), ("metadata", r.tally.json),
    ("assertions", .object (r.assertions.entries.map fun entry => (entry.1, entry.2.json)))]

def jsonText (r : Report) : String :=
  r.json.pretty

def read : Json → Except ReadError Report :=
  readRecord "Report" ["type", "metadata", "assertions"] fun fields =>
    Report.mk <$> fields.required "type" readText <*> fields.required "metadata" Tally.read
      <*> fields.required "assertions" (readMapping Assertion.read)

def ofJsonText (text : String) : Except ReadError Report :=
  Json.readAs read text

end StyleAudit.Report
