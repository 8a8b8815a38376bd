import Mathlib.Data.List.Induction
import StyleAudit.Proofs.Page.Place
import StyleAudit.Proofs.Page.Rendering

/-!
# Numbers given out on the way

The elements of a tree can be numbered in one walk that keeps a table of the numbers given out so
far. The parent of an element is then what the table says of the place around it. When an element is
reached, the table has just the places before it, so every parent comes before its children; and as
no two places have one path, the table names the right one. The walk makes the map of the tree.
-/

namespace StyleAudit.Page

set_option autoImplicit false

/-- The ids given out so far, by the paths of their places, and the elements entered under them. -/
structure Table where
  ids : List (List Nat × String)
  map : ElementMap

namespace Table

def empty : Table := ⟨[], .empty⟩

def parent? (t : Table) (place : Place) : Option String :=
  place.parent?.bind fun around => t.ids.lookup around.path

def enter (make : Place → Element) (t : Table) (place : Place) : Table where
  ids := (place.path, numberId t.ids.length) :: t.ids
  map := t.map.insert (numberId t.ids.length) { make place with parent := t.parent? place }

end Table

/-- The map of a tree that is made in one walk over its places, whatever elements are made of
them. -/
def tabulated (make : Place → Element) (tree : Tree) : ElementMap :=
  (tree.places.foldl (Table.enter make) .empty).map

/-- The ids are the numbers below a bound, and every parent that is named has a lower number. -/
structure Descends (map : ElementMap) (size : Nat) : Prop where
  ids : ∀ id, map.contains id = true ↔ ∃ n < size, id = numberId n
  parents : ∀ n parent, map.parent? (numberId n) = some parent → ∃ m < n, parent = numberId m

mutual

theorem path_at_suffix (tree : Tree) (top place : Place) (inside : place ∈ tree.placesAt top) :
    top.path <:+ place.path :=
  match tree with
  | .text _ => by
    rw [Tree.placesAt] at inside
    cases inside
  | .element tag attributes children => by
    rw [Tree.placesAt] at inside
    rcases List.mem_cons.mp inside with rfl | below
    · exact List.suffix_refl _
    · obtain ⟨rank, _, along⟩ := path_among_suffix children top [] place below
      exact (List.suffix_cons rank top.path).trans along

theorem path_among_suffix (trees : List Tree) (above : Place) (before : List Tree) (place : Place)
    (inside : place ∈ placesAmong above before trees) :
    ∃ rank, before.length ≤ rank ∧ rank :: above.path <:+ place.path :=
  match trees with
  | [] => by
    rw [placesAmong] at inside
    cases inside
  | tree :: rest => by
    rw [placesAmong] at inside
    rcases List.mem_append.mp inside with here | later
    · exact ⟨before.length, Nat.le_refl _, path_at_suffix tree _ place here⟩
    · obtain ⟨rank, bound, along⟩ := path_among_suffix rest above (tree :: before) place later
      exact ⟨rank, Nat.le_of_succ_le bound, along⟩

end

theorem path_below_ne {above place : Place} {rank : Nat}
    (along : rank :: above.path <:+ place.path) : above.path ≠ place.path := by
  intro same
  have longer := along.length_le
  rw [← same, List.length_cons] at longer
  omega

theorem rank_of_suffix {path whole : List Nat} {rank other : Nat} (first : rank :: path <:+ whole)
    (second : other :: path <:+ whole) : rank = other := by
  have both := (List.suffix_of_suffix_length_le first second (Nat.le_refl _)).eq_of_length rfl
  exact (List.cons.inj both).1

mutual

theorem paths_at_distinct (tree : Tree) (top : Place) :
    ((tree.placesAt top).map Place.path).Nodup :=
  match tree with
  | .text _ => List.nodup_nil
  | .element tag attributes children => by
    rw [Tree.placesAt, List.map_cons, List.nodup_cons]
    refine ⟨?_, paths_among_distinct children top []⟩
    intro again
    obtain ⟨place, below, same⟩ := List.mem_map.mp again
    obtain ⟨rank, _, along⟩ := path_among_suffix children top [] place below
    exact path_below_ne along same.symm

theorem paths_among_distinct (trees : List Tree) (above : Place) (before : List Tree) :
    ((placesAmong above before trees).map Place.path).Nodup :=
  match trees with
  | [] => List.nodup_nil
  | tree :: rest => by
    rw [placesAmong, List.map_append, List.nodup_append]
    refine ⟨paths_at_distinct tree _, paths_among_distinct rest above (tree :: before), ?_⟩
    intro path first other second same
    obtain ⟨place, here, rfl⟩ := List.mem_map.mp first
    obtain ⟨later, there, rfl⟩ := List.mem_map.mp second
    have own : before.length :: above.path <:+ place.path := path_at_suffix tree _ place here
    obtain ⟨rank, bound, along⟩ := path_among_suffix rest above (tree :: before) later there
    rw [← same] at along
    have equal := rank_of_suffix own along
    rw [List.length_cons] at bound
    omega

end

theorem places_paths_distinct (tree : Tree) : (tree.places.map Place.path).Nodup :=
  paths_at_distinct tree (.root tree)

theorem entered_concat (make : Place → Element) (places : List Place) (place : Place) :
    (places ++ [place]).foldl (Table.enter make) .empty =
      (places.foldl (Table.enter make) .empty).enter make place := by
  rw [List.foldl_append, List.foldl_cons, List.foldl_nil]

theorem entered_length (make : Place → Element) (places : List Place) :
    (places.foldl (Table.enter make) .empty).ids.length = places.length := by
  induction places using List.reverseRecOn with
  | nil => rfl
  | append_singleton places place ih =>
      rw [entered_concat, Table.enter, List.length_cons, ih, List.length_append,
        List.length_singleton]

theorem entered_ids (make : Place → Element) (places : List Place) :
    ∀ entry ∈ (places.foldl (Table.enter make) .empty).ids,
      ∃ m < places.length, entry.2 = numberId m := by
  induction places using List.reverseRecOn with
  | nil => nofun
  | append_singleton places place ih =>
      rw [entered_concat, List.length_append, List.length_singleton]
      intro entry member
      rcases List.mem_cons.mp member with rfl | before
      · exact ⟨places.length, Nat.lt_succ_self _, congrArg numberId (entered_length make places)⟩
      · obtain ⟨m, below, same⟩ := ih entry before
        exact ⟨m, Nat.lt_succ_of_lt below, same⟩

theorem parent_given_out {make : Place → Element} {places : List Place} {place : Place}
    {parent : String}
    (named : (places.foldl (Table.enter make) .empty).parent? place = some parent) :
    ∃ m < places.length, parent = numberId m := by
  obtain ⟨around, _, listed⟩ := Option.bind_eq_some_iff.mp named
  obtain ⟨before, after, split, _⟩ := List.lookup_eq_some_iff.mp listed
  apply entered_ids make places (around.path, parent)
  rw [split]
  exact List.mem_append_right before List.mem_cons_self

theorem entered_descends (make : Place → Element) (places : List Place) :
    Descends (places.foldl (Table.enter make) .empty).map places.length := by
  induction places using List.reverseRecOn with
  | nil =>
      refine ⟨?_, nofun⟩
      intro id
      refine ⟨nofun, ?_⟩
      rintro ⟨n, below, _⟩
      exact absurd below (Nat.not_lt_zero n)
  | append_singleton places place ih =>
      have next := entered_length make places
      rw [entered_concat, List.length_append, List.length_singleton]
      constructor
      · intro id
        rw [Table.enter, next, ElementMap.contains_iff_key, ElementMap.insert,
          Keyed.mem_keys_insert, ← ElementMap.contains_iff_key, ih.ids]
        constructor
        · rintro (rfl | ⟨n, below, rfl⟩)
          · exact ⟨places.length, Nat.lt_succ_self _, rfl⟩
          · exact ⟨n, Nat.lt_succ_of_lt below, rfl⟩
        · rintro ⟨n, below, rfl⟩
          rcases Nat.lt_or_eq_of_le (Nat.le_of_lt_succ below) with before | rfl
          · exact .inr ⟨n, before, rfl⟩
          · exact .inl rfl
      · intro n parent named
        rw [Table.enter, next, ElementMap.parent?, ElementMap.get?, ElementMap.insert,
          Keyed.get?_insert] at named
        by_cases newest : numberId n = numberId places.length
        · rw [if_pos newest, Option.bind_some] at named
          rw [number_id_injective newest]
          exact parent_given_out named
        · rw [if_neg newest] at named
          exact ih.parents n parent named

theorem tabulated_descends (make : Place → Element) (tree : Tree) :
    Descends (tabulated make tree) tree.size := by
  have entered := entered_descends make tree.places
  rwa [Tree.places, places_length] at entered

theorem entered_lookup (make : Place → Element) {places : List Place}
    (distinct : (places.map Place.path).Nodup) {j : Nat} {place : Place}
    (found : places[j]? = some place) :
    (places.foldl (Table.enter make) .empty).ids.lookup place.path = some (numberId j) := by
  induction places using List.reverseRecOn with
  | nil => cases found
  | append_singleton places last ih =>
      rw [List.map_append, List.nodup_append] at distinct
      rw [entered_concat, Table.enter, entered_length, List.lookup_cons]
      rcases Nat.lt_trichotomy j places.length with before | rfl | beyond
      -- The newest entry hides no older one, as it stands under a path of its own.
      · rw [List.getElem?_append_left before] at found
        have other : (place.path == last.path) = false := by
          rw [beq_eq_false_iff_ne]
          exact distinct.2.2 _ (List.mem_map_of_mem (List.mem_of_getElem? found)) _
            (List.mem_map_of_mem List.mem_cons_self)
        rw [other]
        exact ih distinct.1 found
      · rw [List.getElem?_concat_length] at found
        obtain rfl := Option.some.inj found
        rw [beq_self_eq_true]
      · rw [List.getElem?_eq_none (by rw [List.length_append]; exact beyond)] at found
        cases found

def ownElement (place : Place) : Element :=
  elementOf none place.tree.tag place.tree.attributes

theorem enter_next (tree : Tree) {before after : List Place} {place : Place}
    (split : tree.places = before ++ place :: after) :
    ∃ element, (tree.numbered none 0)[before.length]? = some (numberId before.length, element) ∧
      { ownElement place with
        parent := (before.foldl (Table.enter ownElement) .empty).parent? place } = element := by
  have found : tree.places[before.length]? = some place := by
    rw [split, List.getElem?_append_right (Nat.le_refl _), Nat.sub_self]
    rfl
  obtain ⟨number, entry, enclosing⟩ :=
    numbered_at_place tree (.root tree) rfl none 0 before.length place found
  rw [Nat.zero_add] at entry
  refine ⟨_, entry, ?_⟩
  have parent : (before.foldl (Table.enter ownElement) .empty).parent? place =
      number.map numberId := by
    rcases enclosing with ⟨rfl, rfl⟩ | ⟨j, around, earlier, there, inside, rfl⟩
    · rfl
    · have distinct := places_paths_distinct tree
      rw [split, List.map_append, List.nodup_append] at distinct
      have listed : before[j]? = some around := by
        rw [← Tree.places, split, List.getElem?_append_left earlier] at there
        exact there
      rw [Table.parent?, inside, Option.bind_some, entered_lookup ownElement distinct.1 listed,
        Nat.zero_add]
      rfl
  rw [parent]
  rfl

theorem entered_so_far (tree : Tree) {before after : List Place}
    (split : tree.places = before ++ after) :
    (before.foldl (Table.enter ownElement) .empty).map =
      ⟨.ofList ((tree.numbered none 0).take before.length)⟩ := by
  induction before using List.reverseRecOn generalizing after with
  | nil => rfl
  | append_singleton before place ih =>
      rw [List.append_assoc, List.singleton_append] at split
      obtain ⟨element, entry, same⟩ := enter_next tree split
      rw [entered_concat, Table.enter, ih split, entered_length, same, List.length_append,
        List.length_singleton, List.take_add_one, entry, Keyed.ofList, Keyed.ofList,
        List.foldl_append]
      rfl

/-- The walk with a table makes the map of the tree. -/
theorem tabulated_eq_of_tree (tree : Tree) :
    tabulated ownElement tree = ElementMap.ofTree tree := by
  have whole := entered_so_far tree (List.append_nil tree.places).symm
  have entries := numbered_length none 0 tree
  rw [tabulated, whole, Tree.places, places_length, ← entries, List.take_length]
  rfl

end StyleAudit.Page
