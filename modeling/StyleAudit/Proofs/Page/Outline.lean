import StyleAudit.Proofs.Html.LineBreaks
import StyleAudit.Proofs.Page.Twins

/-!
# Outlines

The markup of a map holds no texts, so no more can be read from it than the outline of the tree that
was mapped, with the marks. The outline is alike to the tree itself.
-/

namespace StyleAudit.Page

set_option autoImplicit false

mutual

/-- The elements of a tree without its texts. -/
def Tree.outline : Tree → Tree
  | .element tag attributes children => .element tag attributes (outlineAll children)
  | .text content => .text content

def outlineAll : List Tree → List Tree
  | [] => []
  | tree :: rest => if tree.isElement then tree.outline :: outlineAll rest else outlineAll rest

end

mutual

theorem outline_size (tree : Tree) : tree.outline.size = tree.size :=
  match tree with
  | .text _ => rfl
  | .element tag attributes children => by
    rw [Tree.outline, Tree.size, Tree.size, outline_all_size]

theorem outline_all_size (trees : List Tree) :
    Tree.sizeOfAll (outlineAll trees) = Tree.sizeOfAll trees :=
  match trees with
  | [] => rfl
  | .text _ :: rest => by
    rw [outlineAll, Tree.sizeOfAll, Tree.size, Nat.zero_add, ← outline_all_size rest]
    rfl
  | .element tag attributes children :: rest => by
    rw [outlineAll, Tree.isElement, if_pos rfl, Tree.sizeOfAll, Tree.sizeOfAll, outline_size,
      outline_all_size]

end

mutual

theorem outline_written (tree : Tree) (first : Nat) :
    (tree.outline.marked first).written = (tree.marked first).written :=
  match tree with
  | .text _ => rfl
  | .element tag attributes children => by
    rw [Tree.outline, Tree.marked, Tree.marked, Tree.written, Tree.written, outline_all_written]

theorem outline_all_written (trees : List Tree) (first : Nat) :
    writtenAll (markedAll first (outlineAll trees)) = writtenAll (markedAll first trees) :=
  match trees with
  | [] => rfl
  | .text _ :: rest => by
    have others := outline_all_written rest (first + 0)
    rw [outlineAll, markedAll, writtenAll, Tree.marked, Tree.written, String.empty_append,
      Tree.size, ← others]
    rfl
  | .element tag attributes children :: rest => by
    rw [outlineAll, Tree.isElement, if_pos rfl, markedAll, markedAll, writtenAll, writtenAll,
      outline_written, outline_size, outline_all_written]

end

mutual

theorem outline_distinct (tree : Tree) (distinct : tree.NamesDistinct) :
    tree.outline.NamesDistinct :=
  match tree with
  | .text _ => trivial
  | .element tag attributes children => by
    rw [Tree.NamesDistinct] at distinct
    rw [Tree.outline, Tree.NamesDistinct]
    exact ⟨distinct.1, outline_all_distinct children distinct.2⟩

theorem outline_all_distinct (trees : List Tree) (distinct : AllNamesDistinct trees) :
    AllNamesDistinct (outlineAll trees) :=
  match trees with
  | [] => trivial
  | .text _ :: rest => by
    rw [AllNamesDistinct] at distinct
    exact outline_all_distinct rest distinct.2
  | .element tag attributes children :: rest => by
    rw [AllNamesDistinct] at distinct
    rw [outlineAll, Tree.isElement, if_pos rfl, AllNamesDistinct]
    exact ⟨outline_distinct _ distinct.1, outline_all_distinct rest distinct.2⟩

end

mutual

theorem outline_line_breaks (tree : Tree) :
    Html.lineBreaks tree.outline = Html.lineBreaks tree :=
  match tree with
  | .text _ => rfl
  | .element tag attributes children => by
    rw [Tree.outline, Html.lineBreaks, Html.lineBreaks, outline_all_line_breaks]

theorem outline_all_line_breaks (trees : List Tree) :
    Html.lineBreaksAmong (outlineAll trees) = Html.lineBreaksAmong trees :=
  match trees with
  | [] => rfl
  | .text _ :: rest => by
    rw [outlineAll, Html.lineBreaksAmong, Html.lineBreaks, Nat.zero_add,
      ← outline_all_line_breaks rest]
    rfl
  | .element tag attributes children :: rest => by
    rw [outlineAll, Tree.isElement, if_pos rfl, Html.lineBreaksAmong, Html.lineBreaksAmong,
      outline_line_breaks, outline_all_line_breaks]

end

mutual

def Tree.InLowerCase : Tree → Prop
  | .element tag _ children => Text.asciiLower tag = tag ∧ AllInLowerCase children
  | .text _ => True

def AllInLowerCase : List Tree → Prop
  | [] => True
  | tree :: rest => tree.InLowerCase ∧ AllInLowerCase rest

end

theorem lookup_eq_some_iff {attributes : List (String × String)}
    (distinct : (attributes.map Prod.fst).Nodup) (name value : String) :
    attributes.lookup name = some value ↔ (name, value) ∈ attributes := by
  induction attributes with
  | nil => exact ⟨nofun, nofun⟩
  | cons entry rest ih =>
    rw [List.map_cons, List.nodup_cons] at distinct
    obtain ⟨own, held⟩ := entry
    rw [List.mem_cons, Prod.mk.injEq]
    by_cases same : name = own
    · subst same
      have once : (name, value) ∉ rest := fun again =>
        distinct.1 (List.mem_map.mpr ⟨_, again, rfl⟩)
      rw [List.lookup_cons_self, Option.some.injEq]
      simp only [true_and, once, or_false]
      exact eq_comm
    · rw [List.lookup_cons, beq_eq_false_iff_ne.mpr same, ih distinct.2]
      simp only [same, false_and, false_or]

theorem lookup_of_marked {attributes : List (String × String)}
    (distinct : (attributes.map Prod.fst).Nodup) (number : Nat) {name : String}
    (unmarked : name ≠ idAttribute) :
    attributes.lookup name = (markedAttributes number attributes).lookup name := by
  apply Option.ext
  intro value
  rw [lookup_eq_some_iff distinct,
    lookup_eq_some_iff (marked_attributes_distinct distinct number), markedAttributes,
    List.mem_cons, Prod.mk.injEq, inNameOrder, List.mem_mergeSort, List.mem_filter]
  simp only [unmarked, false_and, false_or, bne_iff_ne, ne_eq, not_false_eq_true, and_true]

mutual

theorem outline_alike (tree : Tree) (first : Nat) (element : tree.isElement = true)
    (lower : tree.InLowerCase) (distinct : tree.NamesDistinct) :
    Alike tree (tree.outline.marked first) :=
  match tree with
  | .element tag attributes children => by
    rw [Tree.InLowerCase] at lower
    rw [Tree.NamesDistinct] at distinct
    rw [Tree.outline, Tree.marked, lower.1]
    exact .element (fun name => lookup_of_marked distinct.1 first)
      (outlines_alike children (first + 1) lower.2 distinct.2)

theorem outlines_alike (trees : List Tree) (first : Nat) (lower : AllInLowerCase trees)
    (distinct : AllNamesDistinct trees) :
    List.Forall₂ Alike (trees.filter Tree.isElement) (markedAll first (outlineAll trees)) :=
  match trees with
  | [] => .nil
  | .text _ :: rest => by
    rw [AllInLowerCase] at lower
    rw [AllNamesDistinct] at distinct
    exact outlines_alike rest first lower.2 distinct.2
  | .element tag attributes children :: rest => by
    rw [AllInLowerCase] at lower
    rw [AllNamesDistinct] at distinct
    rw [List.filter_cons_of_pos rfl, outlineAll, Tree.isElement, if_pos rfl, markedAll]
    exact .cons (outline_alike _ first rfl lower.1 distinct.1)
      (outlines_alike rest _ lower.2 distinct.2)

end

end StyleAudit.Page
