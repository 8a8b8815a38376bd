import StyleAudit.Proofs.Binary64.Literal
import StyleAudit.Proofs.Catalog.Evidence

/-!
# Line heights sorted by their grammar

A keyword cannot be measured, and a length fixes the spacing and fails. Two sorts of values are on
the wrong side of this. A keyword that names infinity or not-a-number is a literal outside every
band, so it fails. A length with a sign does not start the way a number does, so it counts as a
keyword.
-/

namespace StyleAudit.LineSpacing

set_option autoImplicit false

open Binary64 (IsWord IsDecimal IsUnit IsLength SpellsNumber letter_apart)

/-- What a value between its blanks is told, by its grammar. -/
structure Sorts (value : String) (answer : Verdict × String) : Prop where
  keyword : IsWord (Text.trim value).toList → ¬ SpellsNumber (Text.trim value).toList →
    answer = unmeasured
  number : IsWord (Text.trim value).toList → SpellsNumber (Text.trim value).toList →
    answer = failed
  unsigned : IsLength [] (Text.trim value).toList → answer = failed
  signed : ∀ sign, sign ≠ [] → IsLength sign (Text.trim value).toList → answer = unmeasured

structure SortsPlainly (value : String) (answer : Verdict × String) : Prop where
  keyword : IsWord (Text.trim value).toList → answer = unmeasured
  length : ∀ sign, IsLength sign (Text.trim value).toList → answer = failed

theorem Sorts.plainly_iff {value : String} {answer : Verdict × String}
    (sorts : Sorts value answer) : SortsPlainly value answer ↔
      (IsWord (Text.trim value).toList → ¬ SpellsNumber (Text.trim value).toList) ∧
      ∀ sign, IsLength sign (Text.trim value).toList → sign = [] := by
  have differ : failed ≠ unmeasured := by decide
  constructor
  · intro plainly
    refine ⟨?_, ?_⟩
    · intro word spelled
      exact differ ((sorts.number word spelled).symm.trans (plainly.keyword word))
    · intro sign length
      by_contra given
      exact differ ((plainly.length sign length).symm.trans (sorts.signed sign given length))
  · rintro ⟨finite, unsigned⟩
    refine ⟨fun word => sorts.keyword word (finite word), ?_⟩
    intro sign length
    obtain rfl := unsigned sign length
    exact sorts.unsigned length

variable {cs : List Char}

theorem percentage_none (unmarked : ∀ c ∈ cs.getLast?, c ≠ '%') : percentage? cs = none := by
  rw [percentage?, if_neg]
  intro marked
  exact unmarked '%' marked rfl

theorem percentage_of_word (word : IsWord cs) : percentage? cs = none := by
  apply percentage_none
  intro c last
  rcases word c (List.mem_of_mem_getLast? last) with letter | rfl
  · exact (letter_apart letter).2.2.1
  · decide

theorem percentage_of_length {sign : List Char} (length : IsLength sign cs) :
    percentage? cs = none := by
  obtain ⟨_, number, unit, rfl, _, is⟩ := length
  apply percentage_none
  intro c last
  rw [← List.append_assoc, List.getLast?_append_of_ne_nil _ is.given] at last
  exact (letter_apart (is.letters c (List.mem_of_mem_getLast? last))).2.2.1

theorem starts_of_word (word : IsWord cs) : startsLikeNumber cs = false := by
  cases cs with
  | nil => rfl
  | cons c rest =>
      rcases word c List.mem_cons_self with letter | rfl
      · obtain ⟨digit, point, _⟩ := letter_apart letter
        simp [startsLikeNumber, digit, point]
      · rfl

/-- Only the first character is looked at, so a sign hides the number behind it. -/
theorem starts_of_length {sign : List Char} (length : IsLength sign cs) :
    startsLikeNumber cs = sign.isEmpty := by
  obtain ⟨signed, number, unit, rfl, decimal, _⟩ := length
  rcases signed with rfl | rfl | rfl
  · obtain ⟨c, rest, rfl, digit | rfl⟩ := decimal.begins
    · simp [startsLikeNumber, digit]
    · rfl
  · rfl
  · rfl

theorem classify_of_keyword (word : IsWord cs) (finite : ¬ SpellsNumber cs) :
    classifyChars cs = unmeasured := by
  rw [classifyChars, percentage_of_word word]
  dsimp only
  rw [word.literal.2 finite]
  dsimp only
  rw [starts_of_word word]
  rfl

theorem classify_of_number (word : IsWord cs) (spelled : SpellsNumber cs) :
    classifyChars cs = failed := by
  obtain ⟨value, read, outside⟩ := word.literal.1 spelled
  rw [classifyChars, percentage_of_word word]
  dsimp only
  rw [read]
  dsimp only
  rw [outside]
  rfl

theorem classify_of_length {sign : List Char} (length : IsLength sign cs) :
    classifyChars cs = if sign.isEmpty then failed else unmeasured := by
  rw [classifyChars, percentage_of_length length]
  dsimp only
  rw [length.literal_none]
  dsimp only
  rw [starts_of_length length]

theorem classify_sorts (value : String) : Sorts value (classify value) := by
  have read : classify value = classifyChars (Text.trim value).toList := by
    rw [classify, Text.trim, String.toList_ofList]
  rw [read]
  constructor
  case keyword => exact classify_of_keyword
  case number => exact classify_of_number
  case unsigned => exact classify_of_length
  case signed =>
    intro sign given length
    rw [classify_of_length length, List.isEmpty_eq_false_iff.mpr given]
    rfl

def sites (sheets : List Stylesheet) : List Site :=
  (sitesMentioning "line-height" sheets).filter fun site =>
    site.block.hasSelectors && site.declaration.property = "line-height"

def told (site : Site) : Finding :=
  .onDeclaration site.sheet.file site.block site.declaration (classify site.declaration.value).1
    (classify site.declaration.value).2

theorem findings_eq_told (sheets : List Stylesheet) :
    sheets.flatMap findings = (sites sheets).map told :=
  findings_at_sites (by decide) (fun _ => rfl) sheets

theorem told_classified (site : Site) :
    ((told site).verdict, (told site).description) = classify site.declaration.value := by
  have verdict : (told site).verdict = (classify site.declaration.value).1 :=
    Finding.verdict_on_declaration ..
  have description : (told site).description = (classify site.declaration.value).2 :=
    Finding.description_withEvidence ..
  rw [verdict, description]

/-- A keyword cannot be measured unless it names infinity or not-a-number, which fails. A length
fails unless it has a sign, with which it cannot be measured. So the value is sorted by its grammar
alone just if it is neither of these. And every line height in a block with selectors is told this,
in the order of the declarations. -/
theorem line_heights_are_sorted_by_grammar (value : String) :
    Sorts value (classify value) ∧
    (SortsPlainly value (classify value) ↔
      (IsWord (Text.trim value).toList → ¬ SpellsNumber (Text.trim value).toList) ∧
      ∀ sign, IsLength sign (Text.trim value).toList → sign = []) ∧
    ∀ (ledger : Ledger) (input : Input), List.Forall₂
      (fun site f => (f.verdict, f.description) = classify site.declaration.value)
      (sites input.stylesheets) ((Instance.mk technique ledger).recorded input) := by
  refine ⟨classify_sorts value, (classify_sorts value).plainly_iff, ?_⟩
  intro ledger input
  have written : (technique.evaluate ledger input).findings =
      (sites input.stylesheets).map told := findings_eq_told input.stylesheets
  rw [Instance.recorded_eq, written, List.forall₂_map_right_iff, List.forall₂_same]
  exact fun site _ => told_classified site

def spacedSheet (value : String) : Stylesheet :=
  ⟨"a.css", some ⟨"p \x7b line-height: " ++ value ++ " \x7d",
    some (.sheet [.block ⟨.rule, ["p"], [⟨"line-height", value, none⟩], none⟩] none)⟩⟩

theorem every_sort_of_line_height_occurs :
    classify " Inherit " = unmeasured ∧ classify "-NaN" = failed ∧ classify "20px " = failed ∧
      classify "-.5em" = unmeasured ∧
      SortsPlainly "20px " (classify "20px ") ∧
      (sites [spacedSheet "20px "]).length = 1 ∧
      List.Forall₂ (fun site f => (f.verdict, f.description) = classify site.declaration.value)
        (sites [spacedSheet "20px "])
        ((Instance.start technique).recorded ⟨[spacedSheet "20px "], none⟩) := by
  have keyword : IsWord (Text.trim " Inherit ").toList := by decide
  have finite : ¬ SpellsNumber (Text.trim " Inherit ").toList := by
    rw [keyword.spells_iff rfl]
    decide
  have word : IsWord (Text.trim "-NaN").toList := by decide
  have number : SpellsNumber (Text.trim "-NaN").toList :=
    ⟨"NaN".toList, .inr (by decide), by decide⟩
  have pixels : IsLength [] (Text.trim "20px ").toList :=
    ⟨.inl rfl, "20".toList, "px".toList, by decide, .whole (by decide) (List.all_eq_true.mp rfl),
      ⟨by decide, List.all_eq_true.mp rfl⟩⟩
  have half : IsDecimal ".5".toList :=
    @IsDecimal.divided [] ['5'] (List.all_eq_true.mp rfl) (by decide) (List.all_eq_true.mp rfl)
  have drawn : IsLength ['-'] (Text.trim "-.5em").toList :=
    ⟨.inr (.inr rfl), ".5".toList, "em".toList, by decide, half,
      ⟨by decide, List.all_eq_true.mp rfl⟩⟩
  obtain ⟨kept, _⟩ := line_heights_are_sorted_by_grammar " Inherit "
  obtain ⟨counted, _⟩ := line_heights_are_sorted_by_grammar "-NaN"
  obtain ⟨fixed, _, recorded⟩ := line_heights_are_sorted_by_grammar "20px "
  obtain ⟨mistaken, _⟩ := line_heights_are_sorted_by_grammar "-.5em"
  have failing : classify "20px " = failed := fixed.unsigned pixels
  have plainly : SortsPlainly "20px " (classify "20px ") :=
    ⟨fun word => absurd word (by decide), fun _ _ => failing⟩
  exact ⟨kept.keyword keyword finite, counted.number word number, failing,
    mistaken.signed ['-'] (by decide) drawn, plainly, by decide,
    recorded (.start descriptor) ⟨[spacedSheet "20px "], none⟩⟩

/-- Infinity is a word of letters that fails, and a length with a sign is one that does not fail, on
their own as in a sheet. -/
theorem infinity_and_signed_length_are_mistaken :
    let recorded := fun value =>
      ((Instance.start technique).execute ⟨[spacedSheet value], none⟩).1.ledger.findings.map
        Finding.verdict
    (IsWord (Text.trim "infinity").toList ∧ recorded "infinity" = [.failed] ∧
      ¬ SortsPlainly "infinity" (classify "infinity")) ∧
    (IsLength ['+'] (Text.trim "+1.2em").toList ∧ recorded "+1.2em" = [.inapplicable] ∧
      ¬ SortsPlainly "+1.2em" (classify "+1.2em")) := by
  intro recorded
  have word : IsWord (Text.trim "infinity").toList := by decide
  have decimal : IsDecimal "1.2".toList :=
    @IsDecimal.divided ['1'] ['2'] (List.all_eq_true.mp rfl) (by decide) (List.all_eq_true.mp rfl)
  have length : IsLength ['+'] (Text.trim "+1.2em").toList :=
    ⟨.inr (.inl rfl), "1.2".toList, "em".toList, by decide, decimal,
      ⟨by decide, List.all_eq_true.mp rfl⟩⟩
  refine ⟨⟨word, by decide, ?_⟩, ⟨length, by decide, ?_⟩⟩
  · intro plainly
    exact absurd (plainly.keyword word) (by decide)
  · intro plainly
    exact absurd (plainly.length ['+'] length) (by decide)

end StyleAudit.LineSpacing
