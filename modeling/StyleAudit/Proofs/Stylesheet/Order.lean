import Mathlib.Data.List.Perm.Basic
import StyleAudit.Stylesheet.Walk

/-!
# Document order

A block stands at a place of a tree: the positions, each among its siblings, on the way down to it.
The way leads through sheets and groups only, so nothing stands inside animation frames, comments,
imports and malformed nodes. Document order is the order of places, in which positions higher up
count first. The blocks in document order are no other list than the one that a walk meets.
-/

namespace StyleAudit

set_option autoImplicit false

/-- The nodes that a node groups, if it is a sheet or a group. -/
def Node.grouped? : Node → Option (List Node)
  | .sheet rules _ => some rules
  | .group _ _ rules _ => some rules
  | _ => none

inductive BlockAt : Node → List Nat → Block → Prop where
  | here (block : Block) : BlockAt (.block block) [] block
  | deeper {parent : Node} {rules : List Node} {i : Nat} {node : Node} {place : List Nat}
      {block : Block} (groups : parent.grouped? = some rules) (found : rules[i]? = some node)
      (inside : BlockAt node place block) : BlockAt parent (i :: place) block

/-- The block stands in one of some siblings, whose positions are counted from a number on. -/
def BlockAmong (first : Nat) (nodes : List Node) (place : List Nat) (block : Block) : Prop :=
  ∃ i node rest, nodes[i]? = some node ∧ BlockAt node rest block ∧ place = (first + i) :: rest

/-- The blocks are those that stand somewhere, by the order of their places. -/
def InOrder (stands : List Nat → Block → Prop) (blocks : List Block) : Prop :=
  ∃ entries : List (List Nat × Block), (entries.Pairwise fun a b => a.1 < b.1) ∧
    (∀ place block, (place, block) ∈ entries ↔ stands place block) ∧
    entries.map Prod.snd = blocks

theorem InOrder.unique {stands : List Nat → Block → Prop} {left right : List Block}
    (one : InOrder stands left) (other : InOrder stands right) : left = right := by
  obtain ⟨leftEntries, leftSorted, leftMember, rfl⟩ := one
  obtain ⟨rightEntries, rightSorted, rightMember, rfl⟩ := other
  have distinct {entries : List (List Nat × Block)}
      (sorted : entries.Pairwise fun a b => a.1 < b.1) : entries.Nodup := by
    refine sorted.imp ?_
    rintro a b below rfl
    exact List.lt_irrefl a.1 below
  have perm : leftEntries.Perm rightEntries := by
    rw [List.perm_ext_iff_of_nodup (distinct leftSorted) (distinct rightSorted)]
    rintro ⟨place, block⟩
    rw [leftMember, rightMember]
  have same : leftEntries = rightEntries := by
    refine perm.eq_of_pairwise ?_ leftSorted rightSorted
    intro a b _ _ below above
    exact absurd above (List.lt_asymm below)
  rw [same]

theorem Node.blocks_of_grouped {node : Node} {rules : List Node}
    (groups : node.grouped? = some rules) : node.blocks = blocksOfAll rules := by
  cases node with
  | sheet rules source =>
      cases groups
      rw [blocks]
  | group kind condition rules position =>
      cases groups
      rw [blocks]
  | _ => cases groups

theorem block_at_iff_among {parent : Node} {rules : List Node}
    (groups : parent.grouped? = some rules) {place : List Nat} {block : Block} :
    BlockAt parent place block ↔ BlockAmong 0 rules place block := by
  constructor
  · intro stands
    cases stands with
    | here => cases groups
    | @deeper _ others i node rest block also found inside =>
        obtain rfl : others = rules := Option.some.inj (also.symm.trans groups)
        exact ⟨i, node, rest, found, inside, by rw [Nat.zero_add]⟩
  · rintro ⟨i, node, rest, found, inside, rfl⟩
    rw [Nat.zero_add]
    exact .deeper groups found inside

theorem block_among_cons_iff {first : Nat} {node : Node} {nodes : List Node} {place : List Nat}
    {block : Block} : BlockAmong first (node :: nodes) place block ↔
      (∃ rest, BlockAt node rest block ∧ place = first :: rest) ∨
        BlockAmong (first + 1) nodes place block := by
  constructor
  · rintro ⟨i, found, rest, inside, below, rfl⟩
    cases i with
    | zero =>
        obtain rfl : node = found := by simpa using inside
        exact .inl ⟨rest, below, rfl⟩
    | succ i =>
        refine .inr ⟨i, found, rest, by simpa using inside, below, ?_⟩
        rw [Nat.add_right_comm, Nat.add_assoc]
  · rintro (⟨rest, below, rfl⟩ | ⟨i, found, rest, inside, below, rfl⟩)
    · exact ⟨0, node, rest, rfl, below, rfl⟩
    · refine ⟨i + 1, found, rest, by simpa using inside, below, ?_⟩
      rw [Nat.add_right_comm, Nat.add_assoc]

private theorem in_order_of_none {stands : List Nat → Block → Prop}
    (nothing : ∀ place block, ¬ stands place block) : InOrder stands [] :=
  ⟨[], .nil, fun place block => by simpa using nothing place block, rfl⟩

private theorem in_order_of_silent {node : Node} (blockless : node.blocks = [])
    (childless : node.grouped? = none) : InOrder (BlockAt node) [] := by
  apply in_order_of_none
  intro place block stands
  cases stands with
  | here => cases blockless
  | deeper groups => simp [childless] at groups

private theorem in_order_congr {one other : List Nat → Block → Prop} {blocks : List Block}
    (same : ∀ place block, one place block ↔ other place block) (ordered : InOrder one blocks) :
    InOrder other blocks := by
  obtain ⟨entries, sorted, member, listed⟩ := ordered
  exact ⟨entries, sorted, fun place block => (member place block).trans (same place block), listed⟩

/-- The blocks of a node and then those of its later siblings, whose places all begin higher. -/
private theorem in_order_cons {first : Nat} {node : Node} {nodes : List Node}
    {blocks more : List Block} (ofNode : InOrder (BlockAt node) blocks)
    (ofRest : InOrder (BlockAmong (first + 1) nodes) more) :
    InOrder (BlockAmong first (node :: nodes)) (blocks ++ more) := by
  obtain ⟨entries, sorted, member, rfl⟩ := ofNode
  obtain ⟨others, othersSorted, othersMember, rfl⟩ := ofRest
  refine ⟨entries.map (fun entry => (first :: entry.1, entry.2)) ++ others, ?_, ?_, ?_⟩
  · rw [List.pairwise_append, List.pairwise_map]
    refine ⟨?_, othersSorted, ?_⟩
    · refine sorted.imp ?_
      intro a b below
      exact List.cons_lt_cons_self.mpr below
    · rintro _ inNode ⟨place, block⟩ inRest
      obtain ⟨entry, _, rfl⟩ := List.mem_map.mp inNode
      obtain ⟨i, _, rest, _, _, rfl⟩ := (othersMember place block).mp inRest
      have higher : first < first + 1 + i := by omega
      exact List.cons_lt_cons_iff.mpr (.inl higher)
  · intro place block
    rw [List.mem_append, othersMember, block_among_cons_iff, List.mem_map]
    have here : (∃ entry ∈ entries, (first :: entry.1, entry.2) = (place, block)) ↔
        ∃ rest, BlockAt node rest block ∧ place = first :: rest := by
      constructor
      · rintro ⟨⟨rest, _⟩, inside, shape⟩
        obtain ⟨rfl, rfl⟩ := Prod.mk.inj shape
        exact ⟨rest, (member rest _).mp inside, rfl⟩
      · rintro ⟨rest, below, rfl⟩
        exact ⟨(rest, block), (member rest block).mpr below, rfl⟩
    rw [here]
  · rw [List.map_append, List.map_map]
    rfl

mutual

theorem Node.blocks_in_order (node : Node) : InOrder (BlockAt node) node.blocks :=
  match node with
  | .sheet rules source =>
    in_order_congr (fun _ _ => (block_at_iff_among rfl).symm) (blocks_of_all_in_order rules 0)
  | .block block => by
    refine ⟨[([], block)], List.pairwise_singleton _ _, ?_, rfl⟩
    intro place other
    rw [List.mem_singleton]
    constructor
    · intro shape
      obtain ⟨rfl, rfl⟩ := Prod.mk.inj shape
      exact .here other
    · intro stands
      cases stands with
      | here => rfl
      | deeper groups => cases groups
  | .group kind condition rules position =>
    in_order_congr (fun _ _ => (block_at_iff_among rfl).symm) (blocks_of_all_in_order rules 0)
  | .keyframes _ _ => in_order_of_silent rfl rfl
  | .comment _ => in_order_of_silent rfl rfl
  | .importRule _ => in_order_of_silent rfl rfl
  | .malformed _ => in_order_of_silent rfl rfl

theorem blocks_of_all_in_order (nodes : List Node) (first : Nat) :
    InOrder (BlockAmong first nodes) (blocksOfAll nodes) :=
  match nodes with
  | [] => in_order_of_none fun place block among => by
    obtain ⟨i, node, rest, found, _⟩ := among
    simp at found
  | node :: rest => in_order_cons node.blocks_in_order (blocks_of_all_in_order rest (first + 1))

end

/-- A list holds the blocks of a tree in document order exactly if a walk meets that list. -/
theorem Node.in_order_iff {node : Node} {blocks : List Block} :
    InOrder (BlockAt node) blocks ↔ node.blocks = blocks := by
  constructor
  · exact fun ordered => node.blocks_in_order.unique ordered
  · rintro rfl
    exact node.blocks_in_order

theorem Node.mem_blocks_iff {node : Node} {block : Block} :
    block ∈ node.blocks ↔ ∃ place, BlockAt node place block := by
  obtain ⟨entries, _, stands, blocks⟩ := node.blocks_in_order
  rw [← blocks, List.mem_map]
  constructor
  · rintro ⟨⟨place, _⟩, listed, rfl⟩
    exact ⟨place, (stands place _).mp listed⟩
  · rintro ⟨place, there⟩
    exact ⟨(place, block), (stands place block).mpr there, rfl⟩

end StyleAudit
