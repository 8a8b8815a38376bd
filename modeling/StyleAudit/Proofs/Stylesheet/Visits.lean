import StyleAudit.Proofs.Stylesheet.Order
import StyleAudit.Stylesheet.Visitor

/-!
# What a visitor meets

Whatever a visitor does when it is called, a walk calls it on the blocks in document order, each
block once for every place it stands at, and on nothing else. A visitor of declarations is called
on the complete ones among the declarations of these blocks, block after block.
-/

namespace StyleAudit

set_option autoImplicit false

variable {σ : Type}

mutual

theorem Node.walk_eq_foldl (visitor : Visitor σ) (node : Node) (state : σ) :
    node.walk visitor state = node.blocks.foldl visitor.onBlock state :=
  match node with
  | .sheet rules source => by
    rw [Node.walk, Node.blocks]
    exact walk_all_eq_foldl visitor rules state
  | .block block => rfl
  | .group kind condition rules position => by
    rw [Node.walk, Node.blocks]
    exact walk_all_eq_foldl visitor rules state
  | .keyframes _ _ => rfl
  | .comment _ => rfl
  | .importRule _ => rfl
  | .malformed _ => rfl

theorem walk_all_eq_foldl (visitor : Visitor σ) (nodes : List Node) (state : σ) :
    walkAll visitor state nodes = (blocksOfAll nodes).foldl visitor.onBlock state :=
  match nodes with
  | [] => rfl
  | node :: rest => by
    rw [walkAll, blocksOfAll, List.foldl_append, node.walk_eq_foldl visitor state]
    exact walk_all_eq_foldl visitor rest _

end

theorem Block.complete_eq_filter (block : Block) :
    block.complete = block.declarations.filter fun d => d.property ≠ "" ∧ d.value ≠ "" := by
  apply List.filter_congr
  intro d _
  rw [Bool.eq_iff_iff, Declaration.isComplete, Bool.and_eq_true, bne_iff_ne, bne_iff_ne,
    decide_eq_true_iff]

theorem Node.for_each_declaration_eq_foldl (f : σ → Block → Declaration → σ) (node : Node)
    (state : σ) : node.forEachDeclaration f state =
      node.declared.foldl (fun state met => f state met.1 met.2) state := by
  rw [forEachDeclaration, walk_eq_foldl, declared, List.foldl_flatMap]
  simp only [List.foldl_map]

/-- A walk visits the blocks that stand somewhere in a tree of sheets and groups in the order of
their places, each place once, and a visitor of declarations is called on the declarations of these
blocks that have both a property and a value. -/
theorem walk_visits_in_document_order (node : Node) :
    ∃ blocks, InOrder (BlockAt node) blocks ∧
      (∀ (σ : Type) (visitor : Visitor σ) (state : σ),
        node.walk visitor state = blocks.foldl visitor.onBlock state) ∧
      (∀ (σ : Type) (f : σ → Block → σ) (state : σ),
        node.forEachBlock f state = blocks.foldl f state) ∧
      ∀ (σ : Type) (f : σ → Block → Declaration → σ) (state : σ),
        node.forEachDeclaration f state =
          (blocks.flatMap fun block =>
            (block.declarations.filter fun d => d.property ≠ "" ∧ d.value ≠ "").map fun d =>
              (block, d)).foldl (fun state met => f state met.1 met.2) state := by
  refine ⟨node.blocks, node.blocks_in_order, fun σ visitor => node.walk_eq_foldl visitor,
    fun σ f => node.walk_eq_foldl { onBlock := f }, ?_⟩
  intro σ f state
  rw [Node.for_each_declaration_eq_foldl, Node.declared]
  simp only [Block.complete_eq_filter]

end StyleAudit
