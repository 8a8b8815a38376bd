import StyleAudit.Report.Format
import StyleAudit.Proofs.Technique.Json

/-!
# Reports read back

A report rendered as JSON is read back as the same report. The texts in it are arbitrary, the keys
of its assertions need not be their codes, and whatever may be absent may be absent; only the
counts must fit in 32 bits, which is all that a count can hold.
-/

namespace StyleAudit.Report

set_option autoImplicit false

open Json (Fits Fields)
open Json.Placed (map_ok seq_ok)

/-- Every count of the report fits in 32 bits. -/
structure FitsWords (r : Report) : Prop where
  tally : r.tally.FitsWords
  assertions : ∀ entry ∈ r.assertions.entries, entry.2.summary.tally.FitsWords

theorem fits {r : Report} (words : r.FitsWords) (room : Nat) : Fits (room + 8) r.json := by
  have assertions : Fits (room + 7)
      (.object (r.assertions.entries.map fun entry => (entry.1, entry.2.json))) := by
    apply Fits.object
    rw [List.forall_mem_map]
    exact fun entry member => Assertion.fits (words.assertions entry member) room
  apply Fits.object
  simp only [List.forall_mem_cons]
  exact ⟨.text _, Tally.fits words.tally _, assertions, by simp⟩

theorem read_json {r : Report} (words : r.FitsWords) : read r.json = .ok r := by
  refine Json.read_record (a := Report.mk r.kind r.tally r.assertions)
    (seq_ok (seq_ok (map_ok ?_) ?_) ?_) (fits words 0)
  · exact Fields.read_held (.text r.kind) (by simp) rfl
  · exact Fields.read_held r.tally.json (by simp) (Tally.read_json words.tally)
  · refine Fields.read_held _ (by simp) (Json.read_mapping_of_entries Assertion.json _ _ ?_)
    exact fun entry member => Assertion.read_json (words.assertions entry member)

theorem rendered_json_reads_back (r : Report) (words : r.FitsWords) :
    ofJsonText (r.render .json) = .ok r := by
  have text_read := Json.read_pretty (fits words 0) (by decide)
  change Json.readAs read r.json.pretty = .ok r
  rw [Json.readAs, text_read]
  dsimp only
  rw [read_json words]
  rfl

/-- An assertion with little in it, texts that have to be escaped, and evidence at an empty
position. -/
def barrenAssertion : Assertion where
  name := ""
  code := "QW-1"
  mapping := "\\\"\u0000\u001f\u007f"
  description := "Größe\n\t😀"
  summary := ⟨⟨"*", []⟩, [], [], none, ⟨4294967295, 0, 0, 0⟩, none, ""⟩
  findings := [⟨.inapplicable, "", none⟩,
    ⟨.failed, "\u2028", some ⟨none, some "a\\b.css", ⟨"p", some ⟨none, none, none⟩⟩,
      ⟨"color", "", some ⟨none, some ⟨0, 4294967295⟩, some "\""⟩⟩⟩⟩]

def barrenReport : Report :=
  ⟨"", ⟨0, 4294967295, 0, 1⟩, Keyed.empty.insert "another code" barrenAssertion⟩

theorem barren_report_reads_back :
    barrenReport.FitsWords ∧ ofJsonText (barrenReport.render .json) = .ok barrenReport := by
  have words : barrenReport.FitsWords := by
    constructor
    · intro v
      cases v <;> decide
    · intro entry member
      have sole : entry = ("another code", barrenAssertion) := List.mem_singleton.1 member
      subst sole
      intro v
      cases v <;> decide
  exact ⟨words, rendered_json_reads_back barrenReport words⟩

end StyleAudit.Report
