import Mathlib.Data.List.Forall2
import StyleAudit.Page.Markup
import StyleAudit.Selector.Matching

/-!
# Trees that are alike

Two trees are alike if they differ in nothing but texts and marks. A place in one of them then has a
twin in the other, and the places around the two are twins again: parents, siblings and what is
below. Paths count texts too and so differ between twins, but they tell the same places apart.
-/

namespace StyleAudit.Page

set_option autoImplicit false

/-- The trees have the same elements with the same attributes, but for texts and for marks. -/
inductive Alike : Tree → Tree → Prop where
  | element {tag : String} {attributes others : List (String × String)}
      {children elements : List Tree}
      (same : ∀ name, name ≠ idAttribute → attributes.lookup name = others.lookup name)
      (inner : List.Forall₂ Alike (children.filter Tree.isElement) elements) :
      Alike (.element tag attributes children) (.element tag others elements)

namespace Alike

variable {tree seen : Tree}

theorem same_tag (alike : Alike tree seen) : tree.tag = seen.tag := by
  cases alike
  rfl

theorem same_attribute (alike : Alike tree seen) {name : String} (unmarked : name ≠ idAttribute) :
    tree.attribute? name = seen.attribute? name := by
  obtain ⟨same, _⟩ := alike
  exact same name unmarked

theorem children (alike : Alike tree seen) :
    List.Forall₂ Alike (tree.children.filter Tree.isElement) seen.children := by
  obtain ⟨_, inner⟩ := alike
  exact inner

theorem elements (alike : Alike tree seen) : tree.isElement = true ∧ seen.isElement = true := by
  cases alike
  exact ⟨rfl, rfl⟩

end Alike

/-- Places that stand at the same element of trees that are alike. -/
inductive Twins (tree seen : Tree) : Place → Place → Prop where
  | root (alike : Alike tree seen) : Twins tree seen (.root tree) (.root seen)
  | child {own other : Tree} {before after others rest : List Tree} {parent around : Place}
      (alike : Alike own other)
      (earlier : List.Forall₂ Alike (before.filter Tree.isElement) others)
      (later : List.Forall₂ Alike (after.filter Tree.isElement) rest)
      (parents : Twins tree seen parent around)
      (among : parent.tree.children = before.reverse ++ own :: after) :
      Twins tree seen (.child own before after parent) (.child other others rest around)

namespace Twins

variable {tree seen : Tree} {place other : Place}

theorem alike (twins : Twins tree seen place other) : Alike place.tree other.tree := by
  cases twins with
  | root alike => exact alike
  | child alike _ _ _ _ => exact alike

theorem parents (twins : Twins tree seen place other) :
    List.Forall₂ (Twins tree seen) place.parent?.toList other.parent?.toList := by
  cases twins with
  | root alike => exact .nil
  | child _ _ _ parents _ => exact .cons parents .nil

theorem ancestors (twins : Twins tree seen place other) :
    List.Forall₂ (Twins tree seen) place.ancestors other.ancestors := by
  induction twins with
  | root alike => exact .nil
  | child _ _ _ parents _ ih => exact .cons parents ih

variable {parent around : Place}

theorem earlier_from (parents : Twins tree seen parent around) (before after : List Tree)
    {others rest : List Tree}
    (earlier : List.Forall₂ Alike (before.filter Tree.isElement) others)
    (later : List.Forall₂ Alike (after.filter Tree.isElement) rest)
    (among : parent.tree.children = before.reverse ++ after) :
    List.Forall₂ (Twins tree seen) (Place.earlierFrom parent before after)
      (Place.earlierFrom around others rest) := by
  induction before generalizing after others rest with
  | nil =>
    cases earlier
    exact .nil
  | cons first before ih =>
    have split : parent.tree.children = before.reverse ++ first :: after := by
      rw [among, List.reverse_cons, List.append_assoc, List.singleton_append]
    cases first with
    | text content => exact ih (.text content :: after) earlier later split
    | element tag attributes children =>
      rw [List.filter_cons_of_pos rfl] at earlier
      cases earlier with
      | @cons _ other _ others alike earlier =>
        have nearer := ih (.element tag attributes children :: after) earlier
          (.cons alike later) split
        rw [Place.earlierFrom, Place.earlierFrom, alike.elements.1, alike.elements.2]
        exact .cons (.child alike earlier later parents split) nearer

theorem later_from (parents : Twins tree seen parent around) (before after : List Tree)
    {others rest : List Tree}
    (earlier : List.Forall₂ Alike (before.filter Tree.isElement) others)
    (later : List.Forall₂ Alike (after.filter Tree.isElement) rest)
    (among : parent.tree.children = before.reverse ++ after) :
    List.Forall₂ (Twins tree seen) (Place.laterFrom parent before after)
      (Place.laterFrom around others rest) := by
  induction after generalizing before others rest with
  | nil =>
    cases later
    exact .nil
  | cons first after ih =>
    have split : parent.tree.children = (first :: before).reverse ++ after := by
      rw [among, List.reverse_cons, List.append_assoc, List.singleton_append]
    cases first with
    | text content => exact ih (.text content :: before) earlier later split
    | element tag attributes children =>
      rw [List.filter_cons_of_pos rfl] at later
      cases later with
      | @cons _ other _ rest alike later =>
        have nearer := ih (.element tag attributes children :: before) (.cons alike earlier) later
          split
        rw [Place.laterFrom, Place.laterFrom, alike.elements.1, alike.elements.2]
        exact .cons (.child alike earlier later parents among) nearer

theorem earlier_siblings (twins : Twins tree seen place other) :
    List.Forall₂ (Twins tree seen) place.earlierSiblings other.earlierSiblings := by
  cases twins with
  | root alike => exact .nil
  | @child own _ before after others rest parent around alike earlier later parents among =>
    refine earlier_from parents before (own :: after) earlier ?_ among
    rw [List.filter_cons_of_pos alike.elements.1]
    exact .cons alike later

theorem later_siblings (twins : Twins tree seen place other) :
    List.Forall₂ (Twins tree seen) place.laterSiblings other.laterSiblings := by
  cases twins with
  | root alike => exact .nil
  | @child own _ before after others rest parent around alike earlier later parents among =>
    refine later_from parents (own :: before) after ?_ later ?_
    · rw [List.filter_cons_of_pos alike.elements.1]
      exact .cons alike earlier
    · rw [among, List.reverse_cons, List.append_assoc, List.singleton_append]

mutual

theorem places_at (own : Tree) {other : Tree} {place around : Place} (alike : Alike own other)
    (twins : Twins tree seen place around) (here : place.tree = own) :
    List.Forall₂ (Twins tree seen) (own.placesAt place) (other.placesAt around) :=
  match own with
  | .text _ => by cases alike
  | .element tag attributes children => by
    cases alike with
    | element same inner =>
      rw [Tree.placesAt, Tree.placesAt]
      refine .cons twins (places_among children inner twins [] .nil ?_)
      rw [here]
      rfl

theorem places_among (trees : List Tree) {others : List Tree} {parent around : Place}
    (alike : List.Forall₂ Alike (trees.filter Tree.isElement) others)
    (parents : Twins tree seen parent around) (before : List Tree) {rest : List Tree}
    (earlier : List.Forall₂ Alike (before.filter Tree.isElement) rest)
    (among : parent.tree.children = before.reverse ++ trees) :
    List.Forall₂ (Twins tree seen) (placesAmong parent before trees)
      (placesAmong around rest others) :=
  match trees with
  | [] => by
    cases alike
    exact .nil
  | .text content :: trees => by
    rw [placesAmong, Tree.placesAt, List.nil_append]
    refine places_among trees alike parents (.text content :: before) earlier ?_
    rw [among, List.reverse_cons, List.append_assoc, List.singleton_append]
  | .element tag attributes children :: trees => by
    rw [List.filter_cons_of_pos rfl] at alike
    cases alike with
    | cons first others =>
      have here := places_at (.element tag attributes children) first
        (.child first earlier others parents among) rfl
      rw [placesAmong, placesAmong]
      refine List.rel_append here ?_
      refine places_among trees others parents (.element tag attributes children :: before)
        (.cons first earlier) ?_
      rw [among, List.reverse_cons, List.append_assoc, List.singleton_append]

end

theorem descendants (twins : Twins tree seen place other) :
    List.Forall₂ (Twins tree seen) place.descendants other.descendants :=
  places_among place.tree.children twins.alike.children twins [] .nil rfl

theorem candidates (twins : Twins tree seen place other) :
    List.Forall₂ (Twins tree seen) (Selector.candidates place) (Selector.candidates other) := by
  refine List.rel_append twins.descendants (List.rel_flatMap twins.later_siblings ?_)
  intro sibling image siblings
  exact .cons siblings siblings.descendants

theorem reached (combinator : Selector.Combinator) (twins : Twins tree seen place other) :
    List.Forall₂ (Twins tree seen) (combinator.reached place) (combinator.reached other) := by
  cases combinator with
  | descendant => exact twins.ancestors
  | child => exact twins.parents
  | next => exact List.forall₂_take 1 twins.earlier_siblings
  | later => exact twins.earlier_siblings

theorem passed_count (count : Selector.Counting) (twins : Twins tree seen place other) :
    (count.passed place).length = (count.passed other).length := by
  have siblings : List.Forall₂ (Twins tree seen)
      (if count.fromEnd then place.laterSiblings else place.earlierSiblings)
      (if count.fromEnd then other.laterSiblings else other.earlierSiblings) := by
    split
    · exact twins.later_siblings
    · exact twins.earlier_siblings
  rw [Selector.Counting.passed, Selector.Counting.passed]
  split
  · have kept : List.Forall₂ (Twins tree seen) (List.filter _ _) (List.filter _ _) :=
      List.rel_filter (p := fun sibling : Place => sibling.tree.tag == place.tree.tag)
        (q := fun sibling : Place => sibling.tree.tag == other.tree.tag)
        (fun sibling image same => by
          dsimp only
          rw [same.alike.same_tag, twins.alike.same_tag]) siblings
    exact kept.length_eq
  · exact siblings.length_eq

theorem same_root (twins : Twins tree seen place other) :
    place.parent?.isNone = other.parent?.isNone := by
  cases twins <;> rfl

theorem fewer_elements {own own' : Tree} {before after before' after' : List Tree}
    (element : own.isElement = true)
    (among : before.reverse ++ own :: after = before'.reverse ++ own' :: after')
    (fewer : before.length < before'.length) :
    (before.filter Tree.isElement).length < (before'.filter Tree.isElement).length := by
  have here : before.reverse ++ [own] <+: before.reverse ++ own :: after :=
    ⟨after, by rw [List.append_assoc, List.singleton_append]⟩
  have there : before'.reverse <+: before.reverse ++ own :: after := by
    rw [among]
    exact List.prefix_append _ _
  obtain ⟨more, split⟩ := List.prefix_of_prefix_length_le here there (by
    rw [List.length_append, List.length_reverse, List.length_reverse]
    exact fewer)
  have counted := congrArg (fun trees => (trees.filter Tree.isElement).length) split
  simp only [List.filter_append, List.length_append, List.filter_reverse, List.length_reverse,
    List.filter_cons_of_pos element, List.filter_nil, List.length_singleton] at counted
  omega

theorem same_rank_iff {own own' : Tree} {before after before' after' : List Tree}
    (element : own.isElement = true) (element' : own'.isElement = true)
    (among : before.reverse ++ own :: after = before'.reverse ++ own' :: after') :
    before.length = before'.length ↔
      (before.filter Tree.isElement).length = (before'.filter Tree.isElement).length := by
  constructor
  · intro even
    have lengths : before.reverse.length = before'.reverse.length := by
      rw [List.length_reverse, List.length_reverse, even]
    rw [List.reverse_injective (List.append_inj among lengths).1]
  · intro even
    rcases Nat.lt_trichotomy before.length before'.length with fewer | same | more
    · exact absurd even (Nat.ne_of_lt (fewer_elements element among fewer))
    · exact same
    · exact absurd even.symm (Nat.ne_of_lt (fewer_elements element' among.symm more))

theorem place_of_path {place' other' : Place} (twins : Twins tree seen place other)
    (twins' : Twins tree seen place' other') (same : place.path = place'.path) :
    place = place' := by
  induction twins generalizing place' other' with
  | root alike =>
    cases twins' with
    | root _ => rfl
    | child _ _ _ _ _ => cases same
  | @child own _ before after _ _ parent _ _ _ _ parents among ih =>
    cases twins' with
    | root _ => cases same
    | @child own' _ before' after' _ _ _ _ _ _ _ parents' among' =>
      obtain ⟨even, along⟩ := List.cons.inj same
      obtain rfl := ih parents' along
      have lengths : before.reverse.length = before'.reverse.length := by
        rw [List.length_reverse, List.length_reverse, even]
      obtain ⟨left, right⟩ := List.append_inj (among.symm.trans among') lengths
      obtain ⟨rfl, rfl⟩ := List.cons.inj right
      rw [List.reverse_injective left]

theorem same_path_iff {place' other' : Place} (twins : Twins tree seen place other)
    (twins' : Twins tree seen place' other') :
    place.path = place'.path ↔ other.path = other'.path := by
  induction twins generalizing place' other' with
  | root alike =>
    cases twins' with
    | root _ => exact Iff.rfl
    | child _ _ _ _ _ => exact ⟨nofun, nofun⟩
  | child alike earlier later parents among ih =>
    cases twins' with
    | root _ => exact ⟨nofun, nofun⟩
    | child alike' earlier' _ parents' among' =>
      have along := ih parents'
      rw [Place.path, Place.path, Place.path, Place.path, List.cons.injEq, List.cons.injEq, along]
      apply and_congr_left
      intro same
      obtain rfl := place_of_path parents parents' (along.mpr same)
      rw [← earlier.length_eq, ← earlier'.length_eq]
      exact same_rank_iff alike.elements.1 alike'.elements.1 (among.symm.trans among')

end Twins

end StyleAudit.Page
