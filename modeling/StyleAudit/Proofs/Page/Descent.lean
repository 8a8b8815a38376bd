import StyleAudit.Page.Basic
import StyleAudit.Proofs.ColorPairs.Fault
import StyleAudit.Proofs.Page.Table

/-!
# Pages whose parents come first

Where every parent has a lower number than its children, a chain of parents goes down the numbers
and so ends. Every map of a tree is of this kind, whatever styles its elements have. All its parents
are mapped, none is above itself, and no run on it faults.
-/

namespace StyleAudit.Page

set_option autoImplicit false

namespace Descends

variable {map : ElementMap} {size : Nat}

theorem parent_contained (descends : Descends map size) {id parent : String}
    (named : map.parent? id = some parent) : map.contains parent = true := by
  obtain ⟨n, below, rfl⟩ := (descends.ids id).mp (ElementMap.contains_of_parent named)
  obtain ⟨m, lower, rfl⟩ := descends.parents n parent named
  exact (descends.ids _).mpr ⟨m, Nat.lt_trans lower below, rfl⟩

theorem nothing_missing (descends : Descends map size) : map.missingParent? = none := by
  rw [ElementMap.missingParent?, List.findSome?_eq_none_iff]
  intro entry member
  cases parent : entry.2.parent with
  | none => rfl
  | some outer =>
      have found := (Keyed.get_eq_some_iff map.elements entry.1 entry.2).mpr member
      have named : map.parent? entry.1 = some outer := by
        rw [ElementMap.parent?, ElementMap.get?, found, Option.bind_some, parent]
      dsimp only
      rw [if_pos (descends.parent_contained named)]

theorem above_lower (descends : Descends map size) (steps : Nat) {n : Nat} {x : String}
    (there : map.above (steps + 1) (numberId n) = some x) : ∃ m < n, x = numberId m := by
  induction steps generalizing n with
  | zero =>
      rw [ElementMap.above_succ_last, ElementMap.above, Option.bind_some] at there
      exact descends.parents n x (ElementMap.mapped_parent_eq_some_iff.mp there).1
  | succ steps ih =>
      cases named : map.mappedParent? (numberId n) with
      | none =>
          rw [ElementMap.above, named] at there
          cases there
      | some parent =>
          rw [ElementMap.above_succ named] at there
          obtain ⟨m, lower, rfl⟩ :=
            descends.parents n parent (ElementMap.mapped_parent_eq_some_iff.mp named).1
          obtain ⟨k, least, rfl⟩ := ih there
          exact ⟨k, Nat.lt_trans least lower, rfl⟩

theorem no_circle (descends : Descends map size) (id : String) : ¬ map.Circles id := by
  rintro ⟨steps, x, around, _, positive, back⟩
  obtain ⟨more, rfl⟩ := Nat.exists_eq_add_of_lt positive
  rw [Nat.zero_add] at back
  obtain ⟨parent, next⟩ := map.above_some_of_le back (Nat.succ_le_succ (Nat.zero_le more))
  have held : map.contains x = true := map.contains_of_above_succ rfl next
  obtain ⟨n, _, rfl⟩ := (descends.ids x).mp held
  obtain ⟨m, lower, same⟩ := descends.above_lower more back
  rw [number_id_injective same] at lower
  exact Nat.lt_irrefl m lower

theorem completes (descends : Descends map size) :
    (ColorPairs.evaluatePage map).ending = .completed := by
  rw [ColorPairs.evaluate_page_completed_iff]
  rintro ⟨id, _, loops⟩
  exact descends.no_circle id loops.circles

theorem map_size (descends : Descends map size) : map.size = size := by
  have keys : map.elements.keys.Perm ((List.range size).map numberId) := by
    rw [List.perm_ext_iff_of_nodup map.elements.keys_nodup
      (List.nodup_range.map fun m n same => number_id_injective same)]
    intro id
    rw [← map.contains_iff_key, descends.ids, List.mem_map]
    simp only [List.mem_range, eq_comm]
  have lengths := keys.length_eq
  rwa [Keyed.keys, List.length_map, List.length_map, List.length_range] at lengths

end Descends

/-- The map of a tree is made in one walk in which every parent gets its number before its children.
However the elements are styled, the map that such a walk makes has one entry for each element of
the tree and each parent has a lower number than its child. So all parents are found, no chain of
parents comes back, and colors are judged without a fault. -/
theorem numbered_page_never_faults (tree : Tree) :
    tabulated ownElement tree = ElementMap.ofTree tree ∧
    ∀ make : Place → Element,
      (tabulated make tree).size = tree.size ∧
      Descends (tabulated make tree) tree.size ∧
      (∀ source, (Page.mk (tabulated make tree) source).validate = .ok ()) ∧
      (∀ id, ¬ (tabulated make tree).Circles id) ∧
      ∀ ledger sheets, ((Instance.mk ColorPairs.technique ledger).execute
        ⟨sheets, some (tabulated make tree)⟩).2 = .completed := by
  refine ⟨tabulated_eq_of_tree tree, ?_⟩
  intro make
  have descends := tabulated_descends make tree
  refine ⟨descends.map_size, descends, ?_, descends.no_circle, ?_⟩
  · intro source
    rw [validate, descends.nothing_missing]
  · intro ledger sheets
    exact descends.completes

end StyleAudit.Page
