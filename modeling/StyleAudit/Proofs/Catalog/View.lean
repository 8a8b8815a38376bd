import Mathlib.Data.List.Forall2
import StyleAudit.Run
import StyleAudit.Proofs.Stylesheet.Order

/-!
# What a technique looks at

A technique for stylesheets sees the name of a sheet, its text, and the blocks in it one after
another; how the blocks are nested it does not see. The technique for colors sees the page and
nothing else. Inputs that agree on what a technique sees are the same to it.
-/

namespace StyleAudit

set_option autoImplicit false

/-- The blocks of a syntax tree. Where there is no tree there are none. -/
def blocksIn (tree : Option Node) : List Block :=
  (tree.map Node.blocks).getD []

namespace Stylesheet

def plainText (sheet : Stylesheet) : String :=
  (sheet.content.map SheetContent.plain).getD ""

def tree? (sheet : Stylesheet) : Option Node :=
  sheet.content.bind SheetContent.parsed

/-- The block stands somewhere in the tree of the sheet. -/
def Holds (sheet : Stylesheet) (block : Block) : Prop :=
  ∃ node place, sheet.tree? = some node ∧ BlockAt node place block

/-- Two sheets differ at most in how their blocks are nested. -/
structure Alike (left right : Stylesheet) : Prop where
  file : left.file = right.file
  text : left.plainText = right.plainText
  blocks : blocksIn left.tree? = blocksIn right.tree?

theorem holds_iff {sheet : Stylesheet} {block : Block} :
    sheet.Holds block ↔ block ∈ blocksIn sheet.tree? := by
  rw [Holds]
  cases sheet.tree? with
  | none => simp [blocksIn]
  | some node => simp [blocksIn, Node.mem_blocks_iff]

theorem blocks_in_parsed (sheet : Stylesheet) :
    blocksIn sheet.parsed? = if sheet.plainText = "" then [] else blocksIn sheet.tree? := by
  obtain ⟨file, content⟩ := sheet
  cases content with
  | none => rfl
  | some content =>
      change blocksIn (if content.plain = "" then none else content.parsed) =
        if content.plain = "" then [] else blocksIn content.parsed
      split <;> rfl

theorem blocks_in_parsed_mentioning (sheet : Stylesheet) (needle : String) :
    blocksIn (sheet.parsedMentioning? needle) =
      if Text.mentions sheet.plainText needle then blocksIn sheet.parsed? else [] := by
  obtain ⟨file, content⟩ := sheet
  cases content with
  | none =>
      -- A sheet without content has no tree, whatever its missing text would mention.
      have nothing : ∀ mentioned : Bool, blocksIn (if mentioned then none else none) = [] := by
        intro mentioned
        cases mentioned <;> rfl
      rw [parsedMentioning?]
      exact (nothing _).trans (ite_self _).symm
  | some content =>
      change blocksIn (if Text.mentions content.plain needle then _ else none) =
        if Text.mentions content.plain needle then _ else []
      split <;> rfl

theorem mentions_iff {sheet : Stylesheet} {needle : String} (named : needle ≠ "") :
    sheet.mentions needle = true ↔ needle.toList <:+: sheet.plainText.toList := by
  obtain ⟨file, content⟩ := sheet
  cases content with
  | none =>
      have absent : ¬ needle.toList <:+: "".toList := by
        intro part
        exact named (String.toList_inj.mp (List.infix_nil.mp part))
      exact ⟨nofun, fun part => absurd part absent⟩
  | some content => exact Text.mentions_iff_infix content.plain needle

theorem written_of_mentions {sheet : Stylesheet} {needle : String} (named : needle ≠ "")
    (mentioned : sheet.mentions needle = true) : sheet.plainText ≠ "" := by
  intro empty
  rw [mentions_iff named, empty] at mentioned
  exact named (String.toList_inj.mp (List.infix_nil.mp mentioned))

/-- A text that mentions something is not empty, so the tree counts. -/
theorem blocks_if_mentioned {needle : String} (named : needle ≠ "") (sheet : Stylesheet) :
    blocksIn (sheet.parsedMentioning? needle) =
      if sheet.mentions needle then blocksIn sheet.tree? else [] := by
  have same : Text.mentions sheet.plainText needle = sheet.mentions needle := by
    rw [Bool.eq_iff_iff, mentions_iff named, Text.mentions_iff_infix]
  rw [blocks_in_parsed_mentioning, blocks_in_parsed, same]
  split
  · rename_i mentioned
    rw [if_neg (written_of_mentions named mentioned)]
  · rfl

variable {left right : Stylesheet}

theorem Alike.refl (sheet : Stylesheet) : sheet.Alike sheet :=
  ⟨rfl, rfl, rfl⟩

theorem Alike.parsed (alike : left.Alike right) :
    blocksIn left.parsed? = blocksIn right.parsed? := by
  rw [blocks_in_parsed, blocks_in_parsed, alike.text, alike.blocks]

theorem Alike.parsed_mentioning (alike : left.Alike right) (needle : String) :
    blocksIn (left.parsedMentioning? needle) = blocksIn (right.parsedMentioning? needle) := by
  rw [blocks_in_parsed_mentioning, blocks_in_parsed_mentioning, alike.text, alike.parsed]

end Stylesheet

def findingsOnBlocks (judge : Block → Option Finding) (tree : Option Node) : List Finding :=
  match tree with
  | some node => node.blocks.filterMap judge
  | none => []

def findingsOnDeclarations (judge : Block → Declaration → Option Finding) (tree : Option Node) :
    List Finding :=
  match tree with
  | some node => node.declared.filterMap fun (block, d) => judge block d
  | none => []

theorem findings_on_blocks_eq (judge : Block → Option Finding) (tree : Option Node) :
    findingsOnBlocks judge tree = (blocksIn tree).filterMap judge := by
  cases tree <;> rfl

theorem findings_on_declarations_eq (judge : Block → Declaration → Option Finding)
    (tree : Option Node) :
    findingsOnDeclarations judge tree =
      (blocksIn tree).flatMap fun block => block.complete.filterMap (judge block) := by
  cases tree with
  | none => rfl
  | some node =>
      have each (blocks : List Block) :
          (blocks.flatMap fun block => block.complete.map fun d => (block, d)).filterMap
            (fun (block, d) => judge block d) =
          blocks.flatMap fun block => block.complete.filterMap (judge block) := by
        induction blocks with
        | nil => rfl
        | cons block rest ih =>
            rw [List.flatMap_cons, List.filterMap_append, ih, List.filterMap_map]
            rfl
      exact each node.blocks

/-- Sheets that are alike give the same findings. -/
def SeesBlocks (findings : Stylesheet → List Finding) : Prop :=
  ∀ left right, Stylesheet.Alike left right → findings left = findings right

section Seeing

variable {tree : Stylesheet → Option Node}

theorem sees_blocks_of_blocks (judge : String → Block → Option Finding)
    (trees : ∀ left right, Stylesheet.Alike left right →
      blocksIn (tree left) = blocksIn (tree right)) :
    SeesBlocks fun sheet => findingsOnBlocks (judge sheet.file) (tree sheet) := by
  intro left right alike
  dsimp only
  rw [findings_on_blocks_eq, findings_on_blocks_eq, trees left right alike, alike.file]

theorem sees_blocks_of_declarations (judge : String → Block → Declaration → Option Finding)
    (trees : ∀ left right, Stylesheet.Alike left right →
      blocksIn (tree left) = blocksIn (tree right)) :
    SeesBlocks fun sheet => findingsOnDeclarations (judge sheet.file) (tree sheet) := by
  intro left right alike
  dsimp only
  rw [findings_on_declarations_eq, findings_on_declarations_eq, trees left right alike,
    alike.file]

end Seeing

theorem FontSize.sees_blocks : SeesBlocks findings :=
  sees_blocks_of_declarations judge fun _ _ alike => alike.parsed_mentioning "font-size"

theorem TextAlignment.sees_blocks : SeesBlocks findings :=
  sees_blocks_of_blocks judge fun _ _ alike => alike.parsed

theorem LineSpacing.sees_blocks : SeesBlocks findings :=
  sees_blocks_of_declarations judge fun _ _ alike => alike.parsed_mentioning "line-height"

theorem TextStyling.findings_eq (sheet : Stylesheet) : findings sheet =
    findingsOnDeclarations (fun block d => some (judge sheet.file block d)) sheet.parsed? := by
  cases tree : sheet.parsed? with
  | none => simp only [findings, findingsOnDeclarations, tree]
  | some node => simp only [findings, findingsOnDeclarations, tree, List.filterMap_eq_map']

theorem TextStyling.sees_blocks : SeesBlocks findings := by
  intro left right alike
  rw [findings_eq, findings_eq]
  exact sees_blocks_of_declarations (fun file block d => some (judge file block d))
    (fun _ _ alike => alike.parsed) left right alike

theorem ContainerWidth.sees_blocks : SeesBlocks findings :=
  sees_blocks_of_declarations judge fun _ _ alike => alike.parsed

theorem Blinking.sees_blocks : SeesBlocks findings :=
  sees_blocks_of_declarations judge fun _ _ alike => alike.parsed_mentioning "text-decoration"

theorem Justification.sees_blocks : SeesBlocks findings :=
  sees_blocks_of_blocks judge fun _ _ alike => alike.parsed_mentioning "text-align"

/-- The stylesheets of two inputs are alike one by one. -/
def Input.SheetsAlike (left right : Input) : Prop :=
  List.Forall₂ Stylesheet.Alike left.stylesheets right.stylesheets

def Input.SamePage (left right : Input) : Prop :=
  left.page = right.page

theorem Input.sheets_alike_of_eq {left right : Input}
    (same : left.stylesheets = right.stylesheets) : left.SheetsAlike right := by
  rw [SheetsAlike, same]
  exact List.forall₂_same.mpr fun sheet _ => .refl sheet

/-- The technique cannot tell inputs apart that are so related, whatever its ledger holds. -/
def Technique.Respects (t : Technique) (same : Input → Input → Prop) : Prop :=
  ∀ ledger left right, same left right → t.evaluate ledger left = t.evaluate ledger right

theorem flat_map_findings_alike {findings : Stylesheet → List Finding} (sees : SeesBlocks findings)
    {left right : List Stylesheet} (alike : List.Forall₂ Stylesheet.Alike left right) :
    left.flatMap findings = right.flatMap findings := by
  induction alike with
  | nil => rfl
  | cons first _ ih => rw [List.flatMap_cons, List.flatMap_cons, sees _ _ first, ih]

theorem of_sheets_respects (descriptor : Descriptor) {findings : Stylesheet → List Finding}
    (sees : SeesBlocks findings) :
    (Technique.ofSheets descriptor findings).Respects Input.SheetsAlike := by
  intro _ left right alike
  simp only [Technique.ofSheets, flat_map_findings_alike sees alike]

theorem Blinking.technique_respects : technique.Respects Input.SheetsAlike := by
  intro ledger left right alike
  simp only [technique, flat_map_findings_alike sees_blocks alike]

theorem ColorPairs.technique_respects : technique.Respects Input.SamePage := by
  intro ledger left right same
  have page : left.page = right.page := same
  simp only [technique, page]

theorem built_in_cases {motive : ∀ t, t ∈ catalog → Prop}
    (sizes : ∀ member, motive FontSize.technique member)
    (alignment : ∀ member, motive TextAlignment.technique member)
    (spacing : ∀ member, motive LineSpacing.technique member)
    (styling : ∀ member, motive TextStyling.technique member)
    (widths : ∀ member, motive ContainerWidth.technique member)
    (blinking : ∀ member, motive Blinking.technique member)
    (colors : ∀ member, motive ColorPairs.technique member)
    (justification : ∀ member, motive Justification.technique member)
    (t : Technique) (member : t ∈ catalog) : motive t member := by
  have one := member
  simp only [catalog, List.mem_cons, List.not_mem_nil, or_false] at one
  obtain rfl | rfl | rfl | rfl | rfl | rfl | rfl | rfl := one
  · exact sizes member
  · exact alignment member
  · exact spacing member
  · exact styling member
  · exact widths member
  · exact blinking member
  · exact colors member
  · exact justification member

theorem catalog_respects {t : Technique} (member : t ∈ catalog) :
    (t.descriptor.code ≠ ColorPairs.descriptor.code ∧ t.Respects Input.SheetsAlike) ∨
      t = ColorPairs.technique := by
  cases t, member using built_in_cases with
  | sizes => exact .inl ⟨by decide, of_sheets_respects _ FontSize.sees_blocks⟩
  | alignment => exact .inl ⟨by decide, of_sheets_respects _ TextAlignment.sees_blocks⟩
  | spacing => exact .inl ⟨by decide, of_sheets_respects _ LineSpacing.sees_blocks⟩
  | styling => exact .inl ⟨by decide, of_sheets_respects _ TextStyling.sees_blocks⟩
  | widths => exact .inl ⟨by decide, of_sheets_respects _ ContainerWidth.sees_blocks⟩
  | blinking => exact .inl ⟨by decide, Blinking.technique_respects⟩
  | colors => exact .inr rfl
  | justification => exact .inl ⟨by decide, of_sheets_respects _ Justification.sees_blocks⟩

end StyleAudit
