import StyleAudit.Proofs.Page.Marked
import StyleAudit.Proofs.Page.Numbered

/-!
# The markup of a mapped tree

The map of a tree lists its elements by their ids, so `10` stands before `2`, and knows of each only
its parent. Its markup is the text of the marked tree all the same: below every element hang exactly
its children, and in document order they are again in the order of the tree.
-/

namespace StyleAudit.ElementMap

set_option autoImplicit false

open Page (Tree numberId hangsFrom rootNumbers IsPart largestPosition)

theorem tree_ids_distinct (tree : Tree) : ((tree.numbered none 0).map Prod.fst).Nodup := by
  rw [Page.numbered_ids]
  exact List.Nodup.map (fun m n same => Page.number_id_injective same) List.nodup_range'

theorem get_of_tree_iff (tree : Tree) (id : String) (element : Element) :
    (ofTree tree).get? id = some element ↔ (id, element) ∈ tree.numbered none 0 :=
  Keyed.get_of_list_iff (tree_ids_distinct tree) id element

theorem contains_of_tree {tree : Tree} {number : Nat} (within : number < tree.size) :
    (ofTree tree).contains (numberId number) = true := by
  have listed : numberId number ∈ (tree.numbered none 0).map Prod.fst := by
    rw [Page.numbered_ids]
    refine List.mem_map_of_mem (List.mem_range'_1.mpr ⟨Nat.zero_le number, ?_⟩)
    rwa [Nat.zero_add]
  obtain ⟨entry, member, same⟩ := List.mem_map.mp listed
  have found := (get_of_tree_iff tree entry.1 entry.2).mpr member
  exact same ▸ contains_of_get found

theorem mapped_parent_of_tree {tree : Tree} {entry : String × Element}
    (member : entry ∈ tree.numbered none 0) :
    (ofTree tree).mappedParent? entry.1 = entry.2.parent := by
  have found := (get_of_tree_iff tree entry.1 entry.2).mpr member
  rw [mappedParent?, parent?, found, Option.bind_some]
  rcases Page.numbered_names_parents none 0 tree entry member with top | ⟨number, _, high, named⟩
  · rw [top]
    rfl
  · rw [named, Option.filter_some, contains_of_tree (by omega), if_pos rfl]

theorem parents_of_tree_perm (tree : Tree) : (ofTree tree).parents.Perm
    ((tree.numbered none 0).map fun entry => (entry.1, entry.2.parent)) := by
  have perm : (ofTree tree).elements.entries.Perm (tree.numbered none 0) :=
    Keyed.of_list_perm (tree_ids_distinct tree)
  have named : (ofTree tree).parents =
      (ofTree tree).elements.entries.map fun entry => (entry.1, entry.2.parent) := by
    rw [parents, Keyed.keys, List.map_map]
    apply List.map_congr_left
    intro entry member
    rw [Function.comp_apply, mapped_parent_of_tree (perm.mem_iff.mp member)]
  rw [named]
  exact perm.map _

theorem children_in_tree {tree : Tree} (fits : tree.size ≤ largestPosition + 1)
    (parent : Option String) : childrenIn (ofTree tree).parents parent =
      ((tree.numbered none 0).filter fun entry => entry.2.parent == parent).map Prod.fst := by
  have perm := ((parents_of_tree_perm tree).filter fun entry => entry.2 == parent).map Prod.fst
  rw [List.filter_map, List.map_map] at perm
  have kept : (((tree.numbered none 0).filter fun entry => entry.2.parent == parent).map
      Prod.fst).Sublist ((List.range' 0 tree.size).map numberId) := by
    rw [← Page.numbered_ids none]
    exact List.filter_sublist.map Prod.fst
  obtain ⟨numbers, within, same⟩ := List.sublist_map_iff.mp kept
  rw [same]
  have increasing := List.Pairwise.sublist within List.pairwise_lt_range'
  refine Page.in_document_order_of_numbers ?_ increasing ?_
  · rw [← same]
    exact perm
  · intro number member
    have bound := List.mem_range'_1.mp (within.subset member)
    omega

theorem open_tag_of_marked (parent : Option Nat) (number : Nat) (tag : String)
    {attributes : List (String × String)} (distinct : (attributes.map Prod.fst).Nodup) :
    openTag (numberId number) (Page.elementOf parent tag attributes) =
      "<" ++ Text.asciiLower tag ++ String.join ((Page.markedAttributes number attributes).map
        fun entry => " " ++ Page.attributeText entry.1 entry.2) ++ ">" := by
  have others := Page.kept_in_name_order distinct fun entry => entry.1 != Page.idAttribute
  simp only [openTag, Page.elementOf, Page.markedAttributes, others, List.map_cons,
    String.join_cons, String.append_assoc]

theorem children_in_part {page : Tree} (fits : page.size ≤ largestPosition + 1)
    {part : List (String × Element)} {first size number : Nat}
    (isPart : IsPart (page.numbered none 0) part first size) (low : first ≤ number)
    (high : number < first + size) :
    childrenIn (ofTree page).parents (some (numberId number)) =
      (part.filter (hangsFrom number)).map Prod.fst := by
  rw [children_in_tree fits, ← isPart.hanging low high]
  rfl

mutual

theorem markup_of_part {page : Tree} (fits : page.size ≤ largestPosition + 1) (tree : Tree)
    (parent : Option Nat) (first depth : Nat) (distinct : tree.NamesDistinct)
    (isPart : IsPart (page.numbered none 0) (tree.numbered parent first) first tree.size)
    (above : ∀ outer, parent = some outer → outer < first) (deep : tree.size ≤ depth) :
    String.join ((rootNumbers first [tree]).map fun number =>
      (ofTree page).markupOf (ofTree page).parents depth (numberId number)) =
      (tree.marked first).written :=
  match tree with
  | .text _ => rfl
  | .element tag attributes children => by
    have sized : (Tree.element tag attributes children).size = 1 + Tree.sizeOfAll children := by
      rw [Tree.size]
    obtain ⟨depth, rfl⟩ : ∃ rest, depth = rest + 1 := ⟨depth - 1, by omega⟩
    rw [Tree.NamesDistinct] at distinct
    have entry : (numberId first, Page.elementOf parent tag attributes) ∈
        (Tree.element tag attributes children).numbered parent first := by
      rw [Tree.numbered]
      exact List.mem_cons_self
    have found := (get_of_tree_iff page _ _).mpr (isPart.mem entry)
    have below := isPart.children above
    have hanging : childrenIn (ofTree page).parents (some (numberId first)) =
        (rootNumbers (first + 1) children).map numberId := by
      rw [children_in_part fits isPart (Nat.le_refl first) (by omega),
        Page.numbered_hanging above]
    have inner := markup_of_all_parts fits children first (first + 1) depth distinct.2 below
      (Nat.lt_succ_self first) (by omega)
    have roots : rootNumbers first [.element tag attributes children] = [first] := rfl
    rw [roots, List.map_singleton, String.join_cons, String.join_nil, String.append_empty, markupOf,
      found]
    dsimp only
    rw [hanging, List.map_map, open_tag_of_marked parent first tag distinct.1, Tree.marked,
      Tree.written, ← inner]
    simp only [closeTag, Page.elementOf, String.append_assoc, Function.comp_def]

theorem markup_of_all_parts {page : Tree} (fits : page.size ≤ largestPosition + 1)
    (trees : List Tree) (outer first depth : Nat)
    (distinct : Page.AllNamesDistinct trees)
    (isPart : IsPart (page.numbered none 0) (Page.numberedAll (some outer) first trees) first
      (Tree.sizeOfAll trees))
    (above : outer < first) (deep : Tree.sizeOfAll trees ≤ depth) :
    String.join ((rootNumbers first trees).map fun number =>
      (ofTree page).markupOf (ofTree page).parents depth (numberId number)) =
      Page.writtenAll (Page.markedAll first trees) :=
  match trees with
  | [] => rfl
  | tree :: rest => by
    rw [Page.AllNamesDistinct] at distinct
    have sized : Tree.sizeOfAll (tree :: rest) = tree.size + Tree.sizeOfAll rest := by
      rw [Tree.sizeOfAll]
    have here := markup_of_part fits tree (some outer) first depth distinct.1 (isPart.head above)
      (fun _ same => Option.some.inj same ▸ above) (by omega)
    have later := markup_of_all_parts fits rest outer (first + tree.size) depth distinct.2
      (isPart.tail above) (by omega) (by omega)
    rw [rootNumbers, List.map_append, String.join_append, later, Page.markedAll, Page.writtenAll,
      ← here, rootNumbers, rootNumbers, List.append_nil]

end

theorem roots_of_tree {page : Tree} (fits : page.size ≤ largestPosition + 1) :
    childrenIn (ofTree page).parents none = (rootNumbers 0 [page]).map numberId := by
  rw [children_in_tree fits]
  cases page with
  | text content => rfl
  | element tag attributes children =>
      have below : (Page.numberedAll (some 0) 1 children).filter
          (fun entry => entry.2.parent == none) = [] := by
        rw [List.filter_eq_nil_iff]
        intro entry member root
        rcases Page.numbered_all_names_parents (some 0) 1 children entry member with
          named | ⟨number, _, _, named⟩ <;> simp [named] at root
      rw [Tree.numbered, List.filter_cons, below]
      rfl

/-- The map of a tree is written as the marked tree is. -/
theorem markup_of_tree {page : Tree} (fits : page.size ≤ largestPosition + 1)
    (distinct : page.NamesDistinct) : (ofTree page).markup = (page.marked 0).written := by
  have sized : page.size ≤ (ofTree page).size := by
    have entries : (ofTree page).elements.entries.length = (page.numbered none 0).length :=
      (Keyed.of_list_perm (tree_ids_distinct page)).length_eq
    rw [size, Keyed.size, entries, Page.numbered_length]
  rw [markup, roots_of_tree fits, List.map_map]
  exact markup_of_part fits page none 0 (ofTree page).size distinct (IsPart.whole _ 0 _) nofun sized

theorem ids_of_tree {page : Tree} (fits : page.size ≤ largestPosition + 1) :
    (ofTree page).ids = (List.range page.size).map numberId := by
  have perm := (Keyed.of_list_perm (tree_ids_distinct page)).map Prod.fst
  rw [Page.numbered_ids, ← List.range_eq_range'] at perm
  refine Page.in_document_order_of_numbers perm List.pairwise_lt_range ?_
  intro number member
  have bound := List.mem_range.mp member
  omega

end StyleAudit.ElementMap
