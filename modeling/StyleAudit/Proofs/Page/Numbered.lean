import Mathlib.Data.List.Nodup
import StyleAudit.Proofs.Page.ElementMap
import StyleAudit.Proofs.Page.Number

/-!
# The entries of a numbered tree

A tree is mapped entry by entry, element after element. The entries of a part of it stand in one row
under consecutive numbers; each names a parent inside that row, but for the topmost, which name the
element that the part hangs from. So what hangs from an element is found in the row of its children.
-/

namespace StyleAudit.Page

set_option autoImplicit false

/-- An entry hangs from the element of a number. -/
def hangsFrom (number : Nat) (entry : String × Element) : Bool :=
  entry.2.parent == some (numberId number)

theorem hangs_from_iff {number : Nat} {entry : String × Element} :
    hangsFrom number entry = true ↔ entry.2.parent = some (numberId number) := by
  rw [hangsFrom, beq_iff_eq]

/-- The numbers of the topmost elements of a row of trees. -/
def rootNumbers (first : Nat) : List Tree → List Nat
  | [] => []
  | tree :: rest =>
    (if tree.isElement then [first] else []) ++ rootNumbers (first + tree.size) rest

mutual

theorem numbered_ids (parent : Option Nat) (first : Nat) (tree : Tree) :
    (tree.numbered parent first).map Prod.fst =
      (List.range' first tree.size).map numberId :=
  match tree with
  | .element tag attributes children => by
    rw [Tree.numbered, List.map_cons, numbered_all_ids, Tree.size,
      Nat.add_comm 1 (Tree.sizeOfAll _), List.range'_succ, List.map_cons]
  | .text _ => rfl

theorem numbered_all_ids (parent : Option Nat) (first : Nat) (trees : List Tree) :
    (numberedAll parent first trees).map Prod.fst =
      (List.range' first (Tree.sizeOfAll trees)).map numberId :=
  match trees with
  | [] => rfl
  | tree :: rest => by
    rw [numberedAll, List.map_append, numbered_ids, numbered_all_ids, Tree.sizeOfAll,
      ← List.range'_append_1, List.map_append]

end

theorem numbered_length (parent : Option Nat) (first : Nat) (tree : Tree) :
    (tree.numbered parent first).length = tree.size := by
  have ids := congrArg List.length (numbered_ids parent first tree)
  simpa only [List.length_map, List.length_range'] using ids

/-- The parents that a row of entries may name: one outside and those in the row itself. -/
def NamesParents (outer : Option Nat) (first size : Nat) (entries : List (String × Element)) :
    Prop :=
  ∀ entry ∈ entries, entry.2.parent = outer.map numberId ∨
    ∃ number, first ≤ number ∧ number < first + size ∧
      entry.2.parent = some (numberId number)

mutual

theorem numbered_names_parents (parent : Option Nat) (first : Nat) (tree : Tree) :
    NamesParents parent first tree.size (tree.numbered parent first) :=
  match tree with
  | .element tag attributes children => by
    intro entry member
    rw [Tree.numbered] at member
    rw [Tree.size]
    rcases List.mem_cons.mp member with rfl | below
    · exact .inl rfl
    · rcases numbered_all_names_parents (some first) (first + 1) children entry below with
        top | ⟨number, low, high, named⟩
      · exact .inr ⟨first, by omega, by omega, top⟩
      · exact .inr ⟨number, by omega, by omega, named⟩
  | .text _ => nofun

theorem numbered_all_names_parents (parent : Option Nat) (first : Nat) (trees : List Tree) :
    NamesParents parent first (Tree.sizeOfAll trees) (numberedAll parent first trees) :=
  match trees with
  | [] => nofun
  | tree :: rest => by
    intro entry member
    rw [numberedAll] at member
    rw [Tree.sizeOfAll]
    rcases List.mem_append.mp member with here | later
    · rcases numbered_names_parents parent first tree entry here with
        top | ⟨number, low, high, named⟩
      · exact .inl top
      · exact .inr ⟨number, low, by omega, named⟩
    · rcases numbered_all_names_parents parent (first + tree.size) rest entry later with
        top | ⟨number, low, high, named⟩
      · exact .inl top
      · exact .inr ⟨number, by omega, by omega, named⟩

end

theorem NamesParents.none_hangs {outer : Option Nat} {first size number : Nat}
    {entries : List (String × Element)} (names : NamesParents outer first size entries)
    (other : outer ≠ some number) (outside : number < first ∨ first + size ≤ number) :
    ∀ entry ∈ entries, ¬ hangsFrom number entry = true := by
  intro entry member hangs
  rw [hangs_from_iff] at hangs
  rcases names entry member with top | ⟨inner, low, high, named⟩
  · rw [top] at hangs
    obtain ⟨same, found, equal⟩ := Option.map_eq_some_iff.mp hangs
    exact other (number_id_injective equal ▸ found)
  · rw [named] at hangs
    have equal := number_id_injective (Option.some.inj hangs)
    omega

theorem element_hangs_above {parent : Option Nat} {first number : Nat} {id : String}
    (above : ∀ outer, parent = some outer → outer < first) (tag : String)
    (attributes : List (String × String)) (low : first ≤ number) :
    ¬ hangsFrom number (id, elementOf parent tag attributes) = true := by
  intro hangs
  obtain ⟨outer, found, equal⟩ := Option.map_eq_some_iff.mp (hangs_from_iff.mp hangs)
  have below := above outer found
  have same := number_id_injective equal
  omega

theorem numbered_all_hanging (outer first : Nat) (above : outer < first) (trees : List Tree) :
    ((numberedAll (some outer) first trees).filter (hangsFrom outer)).map Prod.fst =
      (rootNumbers first trees).map numberId := by
  induction trees generalizing first with
  | nil => rfl
  | cons tree rest ih =>
      have later := ih (first + tree.size) (by omega)
      rw [numberedAll, List.filter_append, List.map_append, later, rootNumbers, List.map_append]
      congr 1
      cases tree with
      | text content => rfl
      | element tag attributes children =>
          have top : hangsFrom outer
              (numberId first, elementOf (some outer) tag attributes) = true :=
            hangs_from_iff.mpr rfl
          have below : (numberedAll (some first) (first + 1) children).filter (hangsFrom outer) =
              [] := by
            rw [List.filter_eq_nil_iff]
            exact (numbered_all_names_parents _ _ children).none_hangs
              (by simpa using Nat.ne_of_gt above) (by omega)
          rw [Tree.numbered, List.filter_cons_of_pos top, below]
          rfl

theorem numbered_hanging {parent : Option Nat} {first : Nat}
    (above : ∀ outer, parent = some outer → outer < first) (tag : String)
    (attributes : List (String × String)) (children : List Tree) :
    (((Tree.element tag attributes children).numbered parent first).filter
      (hangsFrom first)).map Prod.fst = (rootNumbers (first + 1) children).map numberId := by
  rw [Tree.numbered,
    List.filter_cons_of_neg (element_hangs_above above tag attributes (Nat.le_refl first)),
    numbered_all_hanging first (first + 1) (Nat.lt_succ_self first)]

/-- A part of all entries, such that no entry elsewhere hangs from its numbers. -/
def IsPart (entries part : List (String × Element)) (first size : Nat) : Prop :=
  ∃ before after, entries = before ++ part ++ after ∧
    ∀ entry ∈ before ++ after, ∀ number, first ≤ number → number < first + size →
      ¬ hangsFrom number entry = true

namespace IsPart

variable {entries : List (String × Element)} {first : Nat}

theorem mem {part : List (String × Element)} {size : Nat}
    (isPart : IsPart entries part first size) {entry : String × Element} (member : entry ∈ part) :
    entry ∈ entries := by
  obtain ⟨before, after, rfl, _⟩ := isPart
  simp [member]

theorem hanging {part : List (String × Element)} {size number : Nat}
    (isPart : IsPart entries part first size) (low : first ≤ number)
    (high : number < first + size) :
    entries.filter (hangsFrom number) = part.filter (hangsFrom number) := by
  obtain ⟨before, after, rfl, elsewhere⟩ := isPart
  have none (others : List (String × Element))
      (within : ∀ entry ∈ others, entry ∈ before ++ after) :
      others.filter (hangsFrom number) = [] := by
    rw [List.filter_eq_nil_iff]
    intro entry member
    exact elsewhere entry (within entry member) number low high
  rw [List.filter_append, List.filter_append,
    none before fun entry member => List.mem_append_left after member,
    none after fun entry member => List.mem_append_right before member,
    List.nil_append, List.append_nil]

private theorem narrow {part : List (String × Element)} {size start count : Nat}
    (left right : List (String × Element))
    (isPart : IsPart entries (left ++ part ++ right) first size) (low : first ≤ start)
    (high : start + count ≤ first + size)
    (beside : ∀ number, start ≤ number → number < start + count →
      ∀ entry ∈ left ++ right, ¬ hangsFrom number entry = true) :
    IsPart entries part start count := by
  obtain ⟨before, after, rfl, elsewhere⟩ := isPart
  refine ⟨before ++ left, right ++ after, by simp only [List.append_assoc], ?_⟩
  intro entry member number above below
  simp only [List.mem_append] at member
  rcases member with (outer | inner) | (inner | outer)
  · exact elsewhere entry (List.mem_append_left after outer) number (by omega) (by omega)
  · exact beside number above below entry (List.mem_append_left right inner)
  · exact beside number above below entry (List.mem_append_right left inner)
  · exact elsewhere entry (List.mem_append_right before outer) number (by omega) (by omega)

theorem whole (entries : List (String × Element)) (first size : Nat) :
    IsPart entries entries first size :=
  ⟨[], [], by simp, by simp⟩

theorem children {parent : Option Nat} {tag : String} {attributes : List (String × String)}
    {trees : List Tree}
    (isPart : IsPart entries ((Tree.element tag attributes trees).numbered parent first) first
      (Tree.element tag attributes trees).size)
    (above : ∀ outer, parent = some outer → outer < first) :
    IsPart entries (numberedAll (some first) (first + 1) trees) (first + 1)
      (Tree.sizeOfAll trees) := by
  have row : IsPart entries ([(numberId first, elementOf parent tag attributes)] ++
      numberedAll (some first) (first + 1) trees ++ []) first (1 + Tree.sizeOfAll trees) := by
    rwa [List.append_nil, List.singleton_append, ← Tree.numbered, ← Tree.size]
  refine narrow _ _ row (Nat.le_succ first) (by omega) ?_
  intro number low _ entry member
  obtain rfl := List.mem_singleton.mp member
  exact element_hangs_above above tag attributes (by omega)

variable {outer : Nat} {tree : Tree} {trees : List Tree}

theorem head (isPart : IsPart entries (numberedAll (some outer) first (tree :: trees)) first
      (Tree.sizeOfAll (tree :: trees))) (above : outer < first) :
    IsPart entries (tree.numbered (some outer) first) first tree.size := by
  rw [Tree.sizeOfAll] at isPart
  refine narrow [] (numberedAll (some outer) (first + tree.size) trees) isPart (Nat.le_refl first)
    (by omega) ?_
  intro number low high
  have apart : some outer ≠ some number := by
    rw [ne_eq, Option.some.injEq]
    omega
  exact (numbered_all_names_parents _ _ trees).none_hangs apart (.inl high)

theorem tail (isPart : IsPart entries (numberedAll (some outer) first (tree :: trees)) first
      (Tree.sizeOfAll (tree :: trees))) (above : outer < first) :
    IsPart entries (numberedAll (some outer) (first + tree.size) trees) (first + tree.size)
      (Tree.sizeOfAll trees) := by
  have row : IsPart entries (tree.numbered (some outer) first ++
      numberedAll (some outer) (first + tree.size) trees ++ []) first
      (tree.size + Tree.sizeOfAll trees) := by
    rwa [List.append_nil, ← Tree.sizeOfAll]
  refine narrow _ _ row (Nat.le_add_right first tree.size) (by omega) ?_
  intro number low _
  have apart : some outer ≠ some number := by
    rw [ne_eq, Option.some.injEq]
    omega
  rw [List.append_nil]
  exact (numbered_names_parents _ _ tree).none_hangs apart (.inr low)

end IsPart

end StyleAudit.Page
