import Mathlib.Logic.Relation
import StyleAudit.Proofs.Isolation
import StyleAudit.Proofs.Stylesheet.Order

/-!
# Nesting does not matter

Blocks may be put into groups or taken out of them, and nodes that hold no blocks may come and go.
As long as the blocks of each sheet stay the same in document order, no technique finds anything
else, and a run comes to the same report.
-/

namespace StyleAudit

set_option autoImplicit false

/-- Nodes in which no technique looks for blocks. -/
inductive Node.IsSilent : Node → Prop where
  | keyframes (name : Option String) (frames : List Json) : IsSilent (.keyframes name frames)
  | comment (text : String) : IsSilent (.comment text)
  | importRule (text : String) : IsSilent (.importRule text)
  | malformed (tag : Option String) : IsSilent (.malformed tag)

/-- One change in a list of siblings or anywhere below them: a run of siblings is put into a group,
or a node without blocks comes in between. -/
inductive Regroups : List Node → List Node → Prop where
  | wrap (before run after : List Node) (kind : GroupKind) (condition : Option String)
      (position : Option Position) :
      Regroups (before ++ run ++ after) (before ++ .group kind condition run position :: after)
  | insert (before after : List Node) {node : Node} (silent : node.IsSilent) :
      Regroups (before ++ after) (before ++ node :: after)
  | inSheet (before after : List Node) (source : Option String) {rules changed : List Node}
      (change : Regroups rules changed) :
      Regroups (before ++ .sheet rules source :: after) (before ++ .sheet changed source :: after)
  | inGroup (before after : List Node) (kind : GroupKind) (condition : Option String)
      (position : Option Position) {rules changed : List Node} (change : Regroups rules changed) :
      Regroups (before ++ .group kind condition rules position :: after)
        (before ++ .group kind condition changed position :: after)

/-- Any number of changes, each of them made or undone. -/
abbrev Regrouped : List Node → List Node → Prop :=
  Relation.EqvGen Regroups

theorem blocks_of_all_append (left right : List Node) :
    blocksOfAll (left ++ right) = blocksOfAll left ++ blocksOfAll right := by
  rw [blocksOfAll_eq_flatMap, blocksOfAll_eq_flatMap, blocksOfAll_eq_flatMap,
    List.flatMap_append]

theorem Node.IsSilent.blocks {node : Node} (silent : node.IsSilent) : node.blocks = [] := by
  cases silent <;> rw [Node.blocks]

theorem Regroups.blocks {nodes changed : List Node} (change : Regroups nodes changed) :
    blocksOfAll nodes = blocksOfAll changed := by
  induction change with
  | wrap before run after kind condition position =>
      rw [blocks_of_all_append, blocks_of_all_append, blocks_of_all_append, blocksOfAll,
        Node.blocks, List.append_assoc]
  | insert before after silent =>
      rw [blocks_of_all_append, blocks_of_all_append, blocksOfAll, silent.blocks, List.nil_append]
  | inSheet before after source change ih =>
      rw [blocks_of_all_append, blocks_of_all_append, blocksOfAll, blocksOfAll, Node.blocks,
        Node.blocks, ih]
  | inGroup before after kind condition position change ih =>
      rw [blocks_of_all_append, blocks_of_all_append, blocksOfAll, blocksOfAll, Node.blocks,
        Node.blocks, ih]

theorem regrouped_blocks {nodes changed : List Node} (changes : Regrouped nodes changed) :
    blocksOfAll nodes = blocksOfAll changed := by
  induction changes with
  | rel _ _ change => exact change.blocks
  | refl => rfl
  | symm _ _ _ ih => exact ih.symm
  | trans _ _ _ _ _ first second => exact first.trans second

/-- The blocks are those of the tree in document order. Where there is no tree there are none. -/
def HoldsInOrder (tree : Option Node) (blocks : List Block) : Prop :=
  match tree with
  | some node => InOrder (BlockAt node) blocks
  | none => blocks = []

namespace Stylesheet

/-- The sheets have the same name, the same text and the same blocks in document order. -/
structure SameBlocks (left right : Stylesheet) : Prop where
  file : left.file = right.file
  text : left.plainText = right.plainText
  blocks : ∃ blocks, HoldsInOrder left.tree? blocks ∧ HoldsInOrder right.tree? blocks

/-- The tree of the second sheet is that of the first after some changes. -/
inductive IsRegrouped : Stylesheet → Stylesheet → Prop where
  | tree (file plain : String) {node changed : Node} (changes : Regrouped [node] [changed]) :
      IsRegrouped ⟨file, some ⟨plain, some node⟩⟩ ⟨file, some ⟨plain, some changed⟩⟩
  | same (sheet : Stylesheet) : IsRegrouped sheet sheet

variable {left right : Stylesheet}

theorem blocks_in_of_holds {tree : Option Node} {blocks : List Block}
    (holds : HoldsInOrder tree blocks) : blocksIn tree = blocks := by
  cases tree with
  | none => exact holds.symm
  | some node => exact Node.in_order_iff.mp holds

theorem SameBlocks.alike (same : left.SameBlocks right) : left.Alike right := by
  obtain ⟨file, text, blocks, ofLeft, ofRight⟩ := same
  exact ⟨file, text, (blocks_in_of_holds ofLeft).trans (blocks_in_of_holds ofRight).symm⟩

theorem IsRegrouped.alike (regrouped : left.IsRegrouped right) : left.Alike right := by
  cases regrouped with
  | same => exact .refl left
  | tree file plain changes =>
      have blocks := regrouped_blocks changes
      simp only [blocksOfAll, List.append_nil] at blocks
      exact ⟨rfl, rfl, blocks⟩

end Stylesheet

namespace Roster

/-- A run shows no difference between inputs that all its techniques take for the same. -/
theorem run_alike (r : Roster) {left right : Input}
    (same : ∀ e ∈ r.entries, ∀ ledger,
      e.member.technique.evaluate ledger left = e.member.technique.evaluate ledger right) :
    r.run left = r.run right := by
  have each : ∀ e ∈ r.entries, e.run left = e.run right := by
    intro e member
    simp only [Entry.run, Instance.execute, same e member]
  have after : r.afterRun left = r.afterRun right := by
    rw [afterRun, afterRun]
    congr 1
    refine List.map_congr_left fun e member => ?_
    rw [each e member]
  have assertions : r.assertions left = r.assertions right := by
    refine List.map_congr_left fun e member => ?_
    rw [each e (List.mem_filter.mp member).1]
  rw [run, run, after, report, report, assertions]

theorem calls_technique (calls : List Call) {e : Entry}
    (member : e ∈ (calls.foldl call builtIn).entries) : e.member.technique ∈ catalog := by
  have settled : calls.foldl call builtIn = fresh catalog _ := calls_fresh catalog calls none
  rw [settled] at member
  rw [← fresh_entries catalog (calls.foldl Call.inForce none)]
  exact List.mem_map_of_mem member

end Roster

/-- Two inputs have the same page, and sheet by sheet either the same blocks in document order or
trees that come out of each other by wrapping siblings in a group, unwrapping a group, and putting
in or taking out nodes without blocks, at any depth. Every built-in technique then does the same
with both, whatever its ledger holds, and every run comes to the same report. -/
theorem nesting_is_transparent (left right : Input) (page : left.page = right.page)
    (sheets : List.Forall₂ (fun one other => one.SameBlocks other ∨ one.IsRegrouped other)
      left.stylesheets right.stylesheets) :
    (∀ t ∈ catalog, ∀ ledger, t.evaluate ledger left = t.evaluate ledger right) ∧
      ∀ calls : List Call, (calls.foldl Roster.call Roster.builtIn).run left =
        (calls.foldl Roster.call Roster.builtIn).run right := by
  have alike : left.SheetsAlike right := by
    refine sheets.imp ?_
    rintro one other (same | regrouped)
    · exact same.alike
    · exact regrouped.alike
  have evaluations : ∀ t ∈ catalog, ∀ ledger, t.evaluate ledger left = t.evaluate ledger right := by
    intro t member ledger
    rcases catalog_respects member with ⟨_, respects⟩ | rfl
    · exact respects ledger left right alike
    · exact ColorPairs.technique_respects ledger left right page
  refine ⟨evaluations, fun calls => ?_⟩
  exact Roster.run_alike _ fun e member => evaluations _ (Roster.calls_technique calls member)

def ruleFor (selector property value : String) : Node :=
  .block ⟨.rule, [selector], [⟨property, value, none⟩], none⟩

def flatSheet : Stylesheet :=
  ⟨"a.css", some ⟨"font-size line-height", some (.sheet [ruleFor "p" "font-size" "12px",
    ruleFor "li" "line-height" "1.5"] none)⟩⟩

/-- The second rule stands in a layer inside a query, next to a node that could not be read. -/
def nestedSheet : Stylesheet :=
  ⟨"a.css", some ⟨"font-size line-height", some (.sheet [ruleFor "p" "font-size" "12px",
    .group .media (some "print") [.malformed (some "rule"),
      .group (.unlisted (some "layer")) none [ruleFor "li" "line-height" "1.5"] none] none] none)⟩⟩

theorem flat_and_nested_sheets_are_judged_alike :
    flatSheet.SameBlocks nestedSheet ∧ flatSheet.IsRegrouped nestedSheet ∧
      (∀ t ∈ catalog, ∀ ledger, t.evaluate ledger ⟨[flatSheet, flatSheet], none⟩ =
        t.evaluate ledger ⟨[nestedSheet, nestedSheet], none⟩) ∧
      ∀ calls : List Call,
        (calls.foldl Roster.call Roster.builtIn).run ⟨[flatSheet, flatSheet], none⟩ =
          (calls.foldl Roster.call Roster.builtIn).run ⟨[nestedSheet, nestedSheet], none⟩ := by
  have sameBlocks : flatSheet.SameBlocks nestedSheet :=
    ⟨rfl, rfl, _, Node.blocks_in_order _, Node.in_order_iff.mpr rfl⟩
  let first := ruleFor "p" "font-size" "12px"
  let second := ruleFor "li" "line-height" "1.5"
  let layer := Node.group (.unlisted (some "layer")) none [second] none
  have layered : Regroups [.sheet [first, second] none] [.sheet [first, layer] none] :=
    .inSheet [] [] none (.wrap [first] [second] [] _ none none)
  have queried : Regroups [.sheet [first, layer] none]
      [.sheet [first, .group .media (some "print") [layer] none] none] :=
    .inSheet [] [] none (.wrap [first] [layer] [] .media (some "print") none)
  have broken : Regroups [.sheet [first, .group .media (some "print") [layer] none] none]
      [.sheet [first, .group .media (some "print") [.malformed (some "rule"), layer] none] none] :=
    .inSheet [] [] none (.inGroup [first] [] .media (some "print") none
      (.insert [] [layer] (.malformed (some "rule"))))
  have regrouped : flatSheet.IsRegrouped nestedSheet :=
    .tree _ _ (.trans _ _ _ (.rel _ _ layered) (.trans _ _ _ (.rel _ _ queried) (.rel _ _ broken)))
  have alike := nesting_is_transparent ⟨[flatSheet, flatSheet], none⟩
    ⟨[nestedSheet, nestedSheet], none⟩ rfl (.cons (.inl sameBlocks) (.cons (.inr regrouped) .nil))
  exact ⟨sameBlocks, regrouped, alike⟩

end StyleAudit
