import StyleAudit.Proofs.Catalog.Evidence
import StyleAudit.Proofs.Text.Words

/-!
# Blinking text

Each declaration of a blinking decoration fails on its own, in the order of sheets, blocks and
declarations. Only where there is none in any of the sheets, or no sheet at all, a single pass is
recorded instead.
-/

namespace StyleAudit.Blinking

set_option autoImplicit false

/-- Between blanks or the ends of the value stands the word `blink`, in any case of its letters. -/
def HasBlink (value : String) : Prop :=
  ∃ word, Text.StandsIn Text.isBlank word value.toList ∧ word.map Char.toLower = "blink".toList

/-- The text of the sheet names the decoration, and the declaration sets it to blink in a block with
selectors. -/
structure Offends (site : Site) : Prop where
  mentioned : "text-decoration".toList <:+: site.sheet.plainText.toList
  selected : site.block.selectors ≠ []
  named : site.declaration.property = "text-decoration"
  blinks : HasBlink site.declaration.value

theorem blinks_iff (value : String) : blinks value = true ↔ HasBlink value := by
  have lowered : ['b', 'l', 'i', 'n', 'k'].map Char.toLower = "blink".toList := by decide
  simp only [blinks, List.any_eq_true, Text.mem_words_iff, Text.eqIgnoringAsciiCase, beq_iff_eq,
    lowered, HasBlink]
  constructor
  · rintro ⟨word, ⟨_, stands⟩, same⟩
    exact ⟨word, stands, same⟩
  · rintro ⟨word, stands, same⟩
    refine ⟨word, ⟨?_, stands⟩, same⟩
    rintro rfl
    cases same

theorem offends_iff (site : Site) : Offends site ↔ site.sheet.mentions "text-decoration" = true ∧
    (site.block.hasSelectors && site.declaration.property = "text-decoration" &&
      blinks site.declaration.value) = true := by
  rw [Stylesheet.mentions_iff (by decide), Bool.and_eq_true, Bool.and_eq_true, blinks_iff,
    decide_eq_true_iff, Block.hasSelectors, Bool.not_eq_true', List.isEmpty_eq_false_iff]
  constructor
  · rintro ⟨mentioned, selected, named, blinks⟩
    exact ⟨mentioned, ⟨selected, named⟩, blinks⟩
  · rintro ⟨mentioned, ⟨selected, named⟩, blinks⟩
    exact ⟨mentioned, selected, named, blinks⟩

instance : DecidablePred Offends := fun site => decidable_of_iff' _ (offends_iff site)

def offences (sheets : List Stylesheet) : List Site :=
  (sheets.flatMap Stylesheet.sites).filter fun site => Offends site

theorem sheet_of_site {sheet : Stylesheet} {site : Site} (inside : site ∈ sheet.sites) :
    site.sheet = sheet := by
  obtain ⟨block, _, mapped⟩ := List.mem_flatMap.mp inside
  obtain ⟨d, _, rfl⟩ := List.mem_map.mp mapped
  rfl

/-- To look at the text of a sheet first comes to the same as to look at it for each declaration. -/
theorem sites_eq_offences (sheets : List Stylesheet) : sites sheets = offences sheets := by
  rw [sites, sitesMentioning, offences, flat_map_of_filter, List.filter_flatMap,
    List.filter_flatMap]
  refine List.flatMap_congr fun sheet _ => ?_
  by_cases mentioned : sheet.mentions "text-decoration" = true
  · rw [if_pos mentioned]
    refine List.filter_congr fun site inside => ?_
    rw [← sheet_of_site inside] at mentioned
    simp only [offends_iff, mentioned, true_and, Bool.decide_eq_true]
  · rw [if_neg mentioned, List.filter_nil, eq_comm, List.filter_eq_nil_iff]
    intro site inside
    rw [← sheet_of_site inside] at mentioned
    simp only [offends_iff, mentioned, false_and, decide_false, Bool.false_eq_true,
      not_false_eq_true]

theorem findings_eq_offences (sheets : List Stylesheet) :
    sheets.flatMap findings = (offences sheets).map told := by
  rw [findings_eq_told, sites_eq_offences]

/-- Every blinking declaration fails, in order, and shows itself unless there is no text for its
selector. If there is one, the failures are all there is, and the technique fails. Otherwise there
is a single pass, which shows nothing, and the technique passes. -/
theorem blinking_declarations_fail (sheets : List Stylesheet) (page : Option ElementMap) :
    let run := (Instance.start technique).execute ⟨sheets, page⟩
    let recorded := run.1.ledger.findings
    let failures := recorded.filter fun f => f.verdict = .failed
    let outcome := run.1.conclude.2.outcome
    run.2 = .completed ∧
    failures = (offences sheets).map told ∧
    List.Forall₂ (fun site f => site.block.selectorText ≠ "" → f.Shows site)
      (offences sheets) failures ∧
    (offences sheets ≠ [] → recorded = failures ∧ outcome = .failed) ∧
    (offences sheets = [] → (∃ f, recorded = [f] ∧ f.verdict = .passed ∧ f.evidence = none) ∧
      outcome = .passed) ∧
    outcome ≠ .warning ∧ outcome ≠ .inapplicable := by
  intro run recorded failures outcome
  have failed : failures = (offences sheets).map told :=
    (technique_failures sheets page).trans (findings_eq_offences sheets)
  have all : recorded = if (offences sheets).map told = [] then [nothingFound]
      else (offences sheets).map told := by
    rw [← findings_eq_offences]
    exact technique_findings sheets page
  have ended : outcome = if (offences sheets).map told = [] then .passed else .failed := by
    rw [← findings_eq_offences]
    exact technique_outcome sheets page
  have shown := failures_are_shown (.start descriptor) ⟨sheets, page⟩
  rw [sites_eq_offences] at shown
  refine ⟨rfl, failed, shown, ?_, ?_, ?_⟩
  · intro some
    have told : (offences sheets).map told ≠ [] := mt List.map_eq_nil_iff.mp some
    rw [if_neg told] at all ended
    exact ⟨all.trans failed.symm, ended⟩
  · intro none
    have nothing : (offences sheets).map told = [] := List.map_eq_nil_iff.mpr none
    rw [if_pos nothing] at all ended
    exact ⟨⟨nothingFound, all, rfl, rfl⟩, ended⟩
  · rw [ended]
    split <;> decide

end StyleAudit.Blinking
