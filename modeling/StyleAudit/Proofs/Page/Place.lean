import StyleAudit.Page.Basic
import StyleAudit.Proofs.Page.Marked
import StyleAudit.Proofs.Page.Numbered

/-!
# Numbers and places

The places of a tree are listed in document order, and their positions in that list are the numbers
that its elements are mapped and marked with. The parent that an entry names is the number of the
place around it, which comes before.
-/

namespace StyleAudit.Page

set_option autoImplicit false

mutual

theorem places_length (tree : Tree) (place : Place) : (tree.placesAt place).length = tree.size :=
  match tree with
  | .element tag attributes children => by
    rw [Tree.placesAt, List.length_cons, places_among_length, Tree.size, Nat.add_comm]
  | .text _ => rfl

theorem places_among_length (trees : List Tree) (above : Place) (before : List Tree) :
    (placesAmong above before trees).length = Tree.sizeOfAll trees :=
  match trees with
  | [] => rfl
  | tree :: rest => by
    rw [placesAmong, List.length_append, places_length, places_among_length, Tree.sizeOfAll]

end

/-- A number names a place that encloses another and stands at a position before it. -/
def Encloses (places : List Place) (first i : Nat) (place : Place) (number : Option Nat) : Prop :=
  ∃ j outer, j < i ∧ places[j]? = some outer ∧ place.parent? = some outer ∧
    number = some (first + j)

mutual

theorem numbered_at_place (tree : Tree) (top : Place) (here : top.tree = tree)
    (parent : Option Nat) (first i : Nat) (place : Place)
    (found : (tree.placesAt top)[i]? = some place) :
    ∃ number, (tree.numbered parent first)[i]? =
        some (numberId (first + i), elementOf number place.tree.tag place.tree.attributes) ∧
      ((number = parent ∧ place = top) ∨ Encloses (tree.placesAt top) first i place number) :=
  match tree with
  | .text _ => by
    rw [Tree.placesAt] at found
    cases found
  | .element tag attributes children => by
    rw [Tree.placesAt] at found ⊢
    rw [Tree.numbered]
    cases i with
    | zero =>
        obtain rfl := Option.some.inj found
        refine ⟨parent, ?_, .inl ⟨rfl, rfl⟩⟩
        rw [here]
        rfl
    | succ i =>
        rw [List.getElem?_cons_succ] at found
        obtain ⟨number, entry, enclosing⟩ :=
          numbered_all_at_place children top [] first (first + 1) i place found
        refine ⟨number, ?_, .inr ?_⟩
        · rw [List.getElem?_cons_succ, entry, Nat.add_right_comm, Nat.add_assoc]
        · rcases enclosing with ⟨rfl, inside⟩ | ⟨j, outer, before, at_, inside, rfl⟩
          · exact ⟨0, top, Nat.succ_pos i, rfl, inside, rfl⟩
          · exact ⟨j + 1, outer, Nat.succ_lt_succ before, at_, inside, by
              rw [Nat.add_right_comm, Nat.add_assoc]⟩

theorem numbered_all_at_place (trees : List Tree) (above : Place) (before : List Tree)
    (outer first i : Nat) (place : Place)
    (found : (placesAmong above before trees)[i]? = some place) :
    ∃ number, (numberedAll (some outer) first trees)[i]? =
        some (numberId (first + i), elementOf number place.tree.tag place.tree.attributes) ∧
      ((number = some outer ∧ place.parent? = some above) ∨
        Encloses (placesAmong above before trees) first i place number) :=
  match trees with
  | [] => by
    rw [placesAmong] at found
    cases found
  | tree :: rest => by
    rw [placesAmong] at found ⊢
    rw [numberedAll]
    have places := places_length tree (.child tree before rest above)
    have entries := numbered_length (some outer) first tree
    by_cases inside : i < tree.size
    · rw [List.getElem?_append_left (by omega)] at found
      obtain ⟨number, entry, enclosing⟩ :=
        numbered_at_place tree _ rfl (some outer) first i place found
      refine ⟨number, by rw [List.getElem?_append_left (by omega), entry], ?_⟩
      rcases enclosing with ⟨same, rfl⟩ | ⟨j, around, earlier, at_, parent, named⟩
      · exact .inl ⟨same, rfl⟩
      · exact .inr ⟨j, around, earlier, by rw [List.getElem?_append_left (by omega), at_], parent,
          named⟩
    · rw [List.getElem?_append_right (by omega), places] at found
      obtain ⟨number, entry, enclosing⟩ := numbered_all_at_place rest above (tree :: before) outer
        (first + tree.size) (i - tree.size) place found
      refine ⟨number, ?_, ?_⟩
      · rw [List.getElem?_append_right (by omega), entries, entry]
        congr 3
        omega
      · rcases enclosing with top | ⟨j, around, earlier, at_, parent, named⟩
        · exact .inl top
        · refine .inr ⟨tree.size + j, around, by omega, ?_, parent, ?_⟩
          · rw [List.getElem?_append_right (by omega), places, Nat.add_sub_cancel_left, at_]
          · rw [named, Nat.add_assoc]

end

/-- Place by place, a tree holds the elements of another one: as deep and behind as many siblings,
with the tag in lower case and with its number as a mark. -/
def Tree.Shows (seen tree : Tree) : Prop :=
  seen.places.map (fun place => (place.path, place.tree.tag, place.tree.attribute? idAttribute)) =
    tree.places.zipIdx.map fun entry =>
      (entry.1.path, Text.asciiLower entry.1.tree.tag, some (numberId entry.2))

mutual

theorem marked_places (tree : Tree) (first : Nat) (place other : Place) (here : place.tree = tree)
    (there : other.tree = tree.marked first) (along : other.path = place.path) :
    ((tree.marked first).placesAt other).map (fun place =>
        (place.path, place.tree.tag, place.tree.attribute? idAttribute)) =
      ((tree.placesAt place).zipIdx first).map fun entry =>
        (entry.1.path, Text.asciiLower entry.1.tree.tag, some (numberId entry.2)) :=
  match tree with
  | .text _ => rfl
  | .element tag attributes children => by
    have mark : other.tree.attribute? idAttribute = some (numberId first) := by
      rw [there, Tree.marked, Tree.attribute?, Tree.attributes, markedAttributes,
        List.lookup_cons_self]
    have name : other.tree.tag = Text.asciiLower place.tree.tag := by
      rw [there, here, Tree.marked]
      rfl
    rw [Tree.marked, Tree.placesAt, Tree.placesAt, List.map_cons, List.zipIdx_cons, List.map_cons,
      marked_places_among children (first + 1) place other [] [] along rfl, mark, name, along]

theorem marked_places_among (trees : List Tree) (first : Nat) (above other : Place)
    (before others : List Tree) (along : other.path = above.path)
    (even : others.length = before.length) :
    (placesAmong other others (markedAll first trees)).map (fun place =>
        (place.path, place.tree.tag, place.tree.attribute? idAttribute)) =
      ((placesAmong above before trees).zipIdx first).map fun entry =>
        (entry.1.path, Text.asciiLower entry.1.tree.tag, some (numberId entry.2)) :=
  match trees with
  | [] => rfl
  | tree :: rest => by
    rw [markedAll, placesAmong, placesAmong, List.map_append, List.zipIdx_append, List.map_append,
      places_length,
      marked_places tree first (.child tree before rest above) _ rfl rfl
        (by rw [Place.path, Place.path, even, along]),
      marked_places_among rest (first + tree.size) above other (tree :: before) _ along
        (by rw [List.length_cons, List.length_cons, even])]

end

theorem marked_shows (tree : Tree) : (tree.marked 0).Shows tree :=
  marked_places tree 0 (.root tree) (.root (tree.marked 0)) rfl rfl rfl

theorem Tree.Shows.marks {seen tree : Tree} (shows : seen.Shows tree) {i : Nat} {place : Place}
    (found : seen.places[i]? = some place) :
    place.tree.attribute? idAttribute = some (numberId i) := by
  have entry := congrArg (fun views => views[i]?) shows
  simp only [List.getElem?_map, found, Option.map_some, List.getElem?_zipIdx, Option.map_map,
    Nat.zero_add] at entry
  obtain ⟨other, _, view⟩ := Option.map_eq_some_iff.mp entry.symm
  exact (Prod.mk.inj (Prod.mk.inj view).2).2.symm

/-- In a tree that shows another one the marks tell the numbers. -/
theorem Tree.Shows.matched {seen tree : Tree} (shows : seen.Shows tree)
    (selectors : List Selector.Complex) :
    matchedByMark selectors seen = matchedByNumber selectors seen := by
  have placed : seen.places = seen.places.zipIdx.map Prod.fst :=
    (List.zipIdx_map_fst 0 seen.places).symm
  rw [matchedByMark, matchedByNumber, placed, List.filter_map, List.filterMap_map, ← placed,
    ← List.filterMap_eq_map]
  apply List.filterMap_congr
  intro entry member
  have found := List.mem_zipIdx_iff_getElem?.mp (List.mem_filter.mp member).1
  exact shows.marks found

end StyleAudit.Page
