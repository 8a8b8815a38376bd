import Mathlib.Data.List.Infix
import StyleAudit.Proofs.Text.Words
import StyleAudit.Stylesheet.Walk

/-!
# Rules as text

A rule is written in lines. Each selector but the last ends its line with a comma, the last one with
a brace, and each complete declaration stands on a line of its own, divided by the first colon with
a blank behind it. So as long as no part breaks a line, no property holds such a colon and no
selector is empty, the text tells the selectors and the complete declarations.
-/

namespace StyleAudit

set_option autoImplicit false

/-- A declaration apart from where it stands. -/
def Declaration.said (d : Declaration) : String × String :=
  (d.property, d.value)

/-- What the complete declarations of a block say, in order. -/
def Block.said (block : Block) : List (String × String) :=
  block.complete.map Declaration.said

/-- What is said stays on one line, and its first colon with a blank behind it comes after the
property. -/
structure SaidPlainly (said : String × String) : Prop where
  propertyLine : '\n' ∉ said.1.toList
  undivided : ¬ ": ".toList <:+: said.1.toList
  valueLine : '\n' ∉ said.2.toList

instance : DecidablePred SaidPlainly := fun said =>
  decidable_of_iff ('\n' ∉ said.1.toList ∧ ¬ ": ".toList <:+: said.1.toList ∧ '\n' ∉ said.2.toList)
    ⟨fun ⟨property, undivided, value⟩ => ⟨property, undivided, value⟩,
      fun ⟨property, undivided, value⟩ => ⟨property, undivided, value⟩⟩

structure Block.IsPlain (block : Block) : Prop where
  selectors : ∀ selector ∈ block.selectors, selector ≠ "" ∧ '\n' ∉ selector.toList
  declarations : ∀ said ∈ block.said, SaidPlainly said

def headingLines (selector : String) : List String → List (List Char)
  | [] => [selector.toList ++ " \x7b".toList]
  | next :: rest => (selector.toList ++ [',']) :: headingLines next rest

/-- The heading without selectors reads like that of an empty one. -/
def Block.headingLines (block : Block) : List (List Char) :=
  match block.selectors with
  | [] => StyleAudit.headingLines "" []
  | selector :: rest => StyleAudit.headingLines selector rest

def declarationLine (said : String × String) : List Char :=
  ' ' :: ' ' :: (said.1.toList ++ ':' :: ' ' :: (said.2.toList ++ [';']))

theorem heading_chars (selector : String) (rest : List String) :
    (",\n".intercalate (selector :: rest)).toList ++ " \x7b\n".toList =
      (headingLines selector rest).flatMap (· ++ ['\n']) := by
  induction rest generalizing selector with
  | nil =>
      rw [String.intercalate_singleton, headingLines]
      simp
  | cons next rest ih =>
      rw [String.intercalate_cons_cons, headingLines, List.flatMap_cons, ← ih]
      simp

theorem declaration_chars (d : Declaration) :
    d.cssLine.toList = declarationLine d.said ++ ['\n'] := by
  simp [Declaration.cssLine, declarationLine, Declaration.said]

theorem Block.css_of_said {first second : Block} (headings : first.heading = second.heading)
    (same : first.said = second.said) : first.css = second.css := by
  have lines (block : Block) : block.complete.map Declaration.cssLine =
      block.said.map fun said => "  " ++ said.1 ++ ": " ++ said.2 ++ ";\n" := by
    rw [said, List.map_map]
    rfl
  rw [css, css, headings, lines, lines, same]

theorem Block.css_chars {block : Block} (rule : block.kind = .rule) :
    block.css.toList = (block.headingLines ++ block.said.map declarationLine).flatMap
      (· ++ ['\n']) ++ ['\x7d'] := by
  have heading : block.heading.toList ++ " \x7b\n".toList =
      block.headingLines.flatMap (· ++ ['\n']) := by
    rw [Block.heading, rule, Block.headingLines]
    cases block.selectors with
    | nil => rfl
    | cons selector rest => exact heading_chars selector rest
  have declarations : (String.join (block.complete.map Declaration.cssLine)).toList =
      (block.said.map declarationLine).flatMap (· ++ ['\n']) := by
    rw [String.toList_join, Block.said, List.map_map, List.flatMap_map, List.flatMap_map]
    exact List.flatMap_congr fun d _ => declaration_chars d
  rw [Block.css, String.toList_append, String.toList_append, String.toList_append, heading,
    declarations, List.flatMap_append]
  rfl

theorem heading_lines_plain {selector : String} {rest : List String}
    (plain : ∀ each ∈ selector :: rest, '\n' ∉ each.toList) :
    ∀ line ∈ headingLines selector rest, '\n' ∉ line := by
  induction rest generalizing selector with
  | nil =>
      have first := plain selector List.mem_cons_self
      simp [headingLines, first]
  | cons next rest ih =>
      obtain ⟨first, others⟩ := List.forall_mem_cons.mp plain
      rw [headingLines, List.forall_mem_cons]
      refine ⟨?_, ih others⟩
      simp [first]

theorem SaidPlainly.line_plain {said : String × String} (plain : SaidPlainly said) :
    '\n' ∉ declarationLine said := by
  simp [declarationLine, plain.propertyLine, plain.valueLine]

theorem Block.IsPlain.lines {block : Block} (plain : block.IsPlain) :
    ∀ line ∈ block.headingLines ++ block.said.map declarationLine, '\n' ∉ line := by
  rw [List.forall_mem_append, List.forall_mem_map]
  refine ⟨?_, fun said member => (plain.declarations said member).line_plain⟩
  have selectors := plain.selectors
  rw [Block.headingLines]
  cases found : block.selectors with
  | nil => decide
  | cons selector rest =>
      rw [found] at selectors
      exact heading_lines_plain fun each member => (selectors each member).2

theorem comma_apart (left right : List Char) : left ++ [','] ≠ right ++ " \x7b".toList := by
  intro same
  have last := congrArg List.getLast? same
  simp at last

theorem heading_lines_apart {selector other : String} {rest others : List String}
    {lines more : List (List Char)}
    (same : headingLines selector rest ++ lines = headingLines other others ++ more) :
    selector = other ∧ rest = others ∧ lines = more := by
  -- Only the last line of a heading ends with a brace, so both headings end at the same line.
  induction rest generalizing selector other others with
  | nil =>
      cases others with
      | nil =>
          obtain ⟨first, later⟩ := List.cons.inj same
          exact ⟨String.toList_inj.mp (List.append_cancel_right first), rfl, later⟩
      | cons next others =>
          obtain ⟨first, _⟩ := List.cons.inj same
          exact absurd first.symm (comma_apart _ _)
  | cons next rest ih =>
      cases others with
      | nil =>
          obtain ⟨first, _⟩ := List.cons.inj same
          exact absurd first (comma_apart _ _)
      | cons otherNext others =>
          obtain ⟨first, later⟩ := List.cons.inj same
          obtain ⟨rfl, rfl, remains⟩ := ih later
          exact ⟨String.toList_inj.mp (List.append_cancel_right first), rfl, remains⟩

theorem Block.headings_apart {first second : Block} {lines more : List (List Char)}
    (firstNamed : ∀ selector ∈ first.selectors, selector ≠ "")
    (secondNamed : ∀ selector ∈ second.selectors, selector ≠ "")
    (same : first.headingLines ++ lines = second.headingLines ++ more) :
    first.selectors = second.selectors ∧ lines = more := by
  rw [headingLines, headingLines] at same
  cases here : first.selectors with
  | nil =>
      cases there : second.selectors with
      | nil =>
          rw [here, there] at same
          exact ⟨rfl, (heading_lines_apart same).2.2⟩
      | cons other others =>
          rw [here, there] at same
          obtain ⟨empty, _⟩ := heading_lines_apart same
          exact absurd empty.symm (secondNamed other (by simp [there]))
  | cons selector rest =>
      cases there : second.selectors with
      | nil =>
          rw [here, there] at same
          obtain ⟨empty, _⟩ := heading_lines_apart same
          exact absurd empty (firstNamed selector (by simp [here]))
      | cons other others =>
          rw [here, there] at same
          obtain ⟨rfl, rfl, remains⟩ := heading_lines_apart same
          exact ⟨rfl, remains⟩

private theorem nothing_between {before between value other : List Char}
    (undivided : ¬ ": ".toList <:+: before ++ between)
    (same : ':' :: ' ' :: value = between ++ ':' :: ' ' :: other) : between = [] := by
  cases between with
  | nil => rfl
  | cons first rest =>
      obtain ⟨rfl, later⟩ := List.cons.inj same
      cases rest with
      | nil =>
          obtain ⟨blank, _⟩ := List.cons.inj later
          exact absurd blank (by decide)
      | cons second rest =>
          obtain ⟨rfl, _⟩ := List.cons.inj later
          exact absurd ⟨before, rest, by simp⟩ undivided

theorem division_unique {property other value otherValue : List Char}
    (undivided : ¬ ": ".toList <:+: property) (otherUndivided : ¬ ": ".toList <:+: other)
    (same : property ++ ':' :: ' ' :: value = other ++ ':' :: ' ' :: otherValue) :
    property = other ∧ value = otherValue := by
  rcases List.append_eq_append_iff.mp same with ⟨between, rfl, remains⟩ | ⟨between, rfl, remains⟩
  · obtain rfl := nothing_between otherUndivided remains
    simpa using remains
  · obtain rfl := nothing_between undivided remains
    simpa [eq_comm] using remains

theorem declaration_line_apart {said other : String × String} (plain : SaidPlainly said)
    (otherPlain : SaidPlainly other) (same : declarationLine said = declarationLine other) :
    said = other := by
  simp only [declarationLine, List.cons.injEq, true_and] at same
  obtain ⟨properties, values⟩ := division_unique plain.undivided otherPlain.undivided same
  exact Prod.ext (String.toList_inj.mp properties)
    (String.toList_inj.mp (List.append_cancel_right values))

theorem declaration_lines_apart {said others : List (String × String)}
    (plain : ∀ each ∈ said, SaidPlainly each) (otherPlain : ∀ each ∈ others, SaidPlainly each)
    (same : said.map declarationLine = others.map declarationLine) : said = others := by
  induction said generalizing others with
  | nil => exact (List.map_eq_nil_iff.mp same.symm).symm
  | cons first rest ih =>
      cases others with
      | nil => cases same
      | cons other others =>
          obtain ⟨here, later⟩ := List.forall_mem_cons.mp plain
          obtain ⟨there, otherLater⟩ := List.forall_mem_cons.mp otherPlain
          obtain ⟨line, lines⟩ := List.cons.inj same
          rw [declaration_line_apart here there line, ih later otherLater lines]

theorem Block.IsPlain.lines_of_css {first second : Block} (firstRule : first.kind = .rule)
    (secondRule : second.kind = .rule) (firstPlain : first.IsPlain) (secondPlain : second.IsPlain)
    (same : first.css = second.css) :
    first.headingLines ++ first.said.map declarationLine =
      second.headingLines ++ second.said.map declarationLine := by
  have lines {block : Block} (rule : block.kind = .rule) (plain : block.IsPlain) :
      Text.pieces (· == '\n') block.css.toList =
        block.headingLines ++ block.said.map declarationLine ++ [['\x7d']] := by
    rw [css_chars rule]
    apply Text.pieces_of_closed (by decide)
    · intro line member c inside
      have unbroken : c ≠ '\n' := fun same => plain.lines line member (same ▸ inside)
      exact beq_eq_false_iff_ne.mpr unbroken
    · intro c inside
      obtain rfl := List.mem_singleton.mp inside
      rfl
  have both := lines firstRule firstPlain
  rw [same, lines secondRule secondPlain] at both
  exact (List.append_cancel_right both).symm

/-- Plain rules with one text have the same selectors and say the same in their complete
declarations. And whatever kind of block is written, nothing but what its complete declarations say
has a part in the text, so incomplete ones come and go without a trace. -/
theorem css_tells_rules_apart (first second : Block) (firstRule : first.kind = .rule)
    (secondRule : second.kind = .rule) (firstPlain : first.IsPlain) (secondPlain : second.IsPlain) :
    (first.css = second.css ↔ first.selectors = second.selectors ∧ first.said = second.said) ∧
    ∀ (block : Block) (declarations : List Declaration),
      (declarations.filter Declaration.isComplete).map Declaration.said = block.said →
      { block with declarations }.css = block.css := by
  refine ⟨⟨?_, ?_⟩, ?_⟩
  · intro same
    have lines := Block.IsPlain.lines_of_css firstRule secondRule firstPlain secondPlain same
    obtain ⟨selectors, declarations⟩ := Block.headings_apart
      (fun selector member => (firstPlain.selectors selector member).1)
      (fun selector member => (secondPlain.selectors selector member).1) lines
    exact ⟨selectors,
      declaration_lines_apart firstPlain.declarations secondPlain.declarations declarations⟩
  · rintro ⟨selectors, declarations⟩
    refine Block.css_of_said ?_ declarations
    rw [Block.heading, Block.heading, firstRule, secondRule, selectors]
  · intro block declarations same
    exact Block.css_of_said rfl same

/-- Commas and braces in selectors, and in a value a colon, a semicolon and a brace. -/
def crammedRule (between : List Declaration) : Block where
  kind := .rule
  selectors := ["a,", "b \x7b"]
  declarations := ⟨"--x:", ": 1; \x7d", none⟩ :: between ++ [⟨"color", "red", none⟩]
  position := none

theorem crammed_rule_is_told :
    let bare := crammedRule []
    let remarked := crammedRule [⟨"", "remark", none⟩, ⟨"color", "", none⟩]
    bare.kind = .rule ∧ remarked.kind = .rule ∧ bare.IsPlain ∧ remarked.IsPlain ∧
      bare.css = "a,,\nb \x7b \x7b\n  --x:: : 1; \x7d;\n  color: red;\n\x7d" ∧
      (remarked.declarations.filter Declaration.isComplete).map Declaration.said = bare.said ∧
      remarked.css = bare.css ∧ remarked.selectors = bare.selectors ∧
      remarked.said = [("--x:", ": 1; \x7d"), ("color", "red")] := by
  intro bare remarked
  have barePlain : bare.IsPlain := ⟨by decide, by decide⟩
  have remarkedPlain : remarked.IsPlain := ⟨by decide, by decide⟩
  obtain ⟨tells, ignores⟩ := css_tells_rules_apart remarked bare rfl rfl remarkedPlain barePlain
  have complete : (remarked.declarations.filter Declaration.isComplete).map Declaration.said =
      bare.said := by decide
  have same : remarked.css = bare.css := ignores bare remarked.declarations complete
  obtain ⟨selectors, said⟩ := tells.mp same
  exact ⟨rfl, rfl, barePlain, remarkedPlain, by decide, complete, same, selectors, said⟩

end StyleAudit
