import Mathlib.Data.List.Nodup
import StyleAudit.Page.Markup
import StyleAudit.Proofs.Page.ElementMap

/-!
# Chains of parents

From every element a chain of parents goes up, as far as the parents are mapped. The parents may be
anything, so a chain may come back to an element that it has passed. As there are only so many
elements, a chain either ends or does that, and never both.
-/

namespace StyleAudit.ElementMap

set_option autoImplicit false

variable {map : ElementMap} {id : String}

/-- The element a number of steps up the chain of parents, unless the chain has ended before. -/
def above (map : ElementMap) : Nat → String → Option String
  | 0, id => some id
  | steps + 1, id => (map.mappedParent? id).bind (map.above steps)

/-- A number of steps up, the chain is at an element that has no mapped parent. -/
def AtDepth (map : ElementMap) (id : String) (depth : Nat) : Prop :=
  ∃ root, map.above depth id = some root ∧ map.mappedParent? root = none

/-- The chain gets to an element that has no mapped parent. -/
def ReachesRoot (map : ElementMap) (id : String) : Prop :=
  ∃ depth, map.AtDepth id depth

/-- The element is on a circle of parents or below one. -/
def Circles (map : ElementMap) (id : String) : Prop :=
  ∃ steps x around, map.above steps id = some x ∧ 0 < around ∧ map.above around x = some x

theorem mapped_parent_eq_some_iff {parent : String} : map.mappedParent? id = some parent ↔
    map.parent? id = some parent ∧ map.contains parent = true := by
  rw [mappedParent?, Option.filter_eq_some_iff]

theorem above_succ {parent : String} (named : map.mappedParent? id = some parent) (steps : Nat) :
    map.above (steps + 1) id = map.above steps parent := by
  rw [above, named, Option.bind_some]

theorem above_add (first second : Nat) :
    map.above (first + second) id = (map.above first id).bind (map.above second) := by
  induction first generalizing id with
  | zero => rw [Nat.zero_add, above, Option.bind_some]
  | succ first ih =>
      rw [Nat.add_right_comm, above, above]
      cases map.mappedParent? id with
      | none => rfl
      | some parent => exact ih

theorem above_succ_last (steps : Nat) :
    map.above (steps + 1) id = (map.above steps id).bind map.mappedParent? := by
  rw [above_add]
  congr 1
  funext x
  rw [above]
  exact Option.bind_fun_some _

theorem above_later {steps later : Nat} {x : String} (here : map.above steps id = some x) :
    map.above (steps + later) id = map.above later x := by
  rw [above_add, here, Option.bind_some]

theorem above_none_of_le {steps later : Nat} (ended : map.above steps id = none)
    (le : steps ≤ later) : map.above later id = none := by
  obtain ⟨more, rfl⟩ := Nat.exists_eq_add_of_le le
  rw [above_add, ended, Option.bind_none]

theorem above_some_of_le {steps earlier : Nat} {x : String} (here : map.above steps id = some x)
    (le : earlier ≤ steps) : ∃ y, map.above earlier id = some y := by
  rw [← Option.ne_none_iff_exists']
  intro ended
  rw [above_none_of_le ended le] at here
  cases here

theorem contains_of_above_succ {steps : Nat} {x y : String} (here : map.above steps id = some x)
    (next : map.above (steps + 1) id = some y) : map.contains x = true := by
  rw [above_succ_last, here, Option.bind_some] at next
  exact contains_of_parent (mapped_parent_eq_some_iff.mp next).1

theorem chain_length (map : ElementMap) (id : String) {steps : Nat}
    (mapped : ∀ i < steps, ∃ x, map.above i id = some x ∧ map.contains x = true)
    (different : ∀ i j, i < j → j < steps → map.above i id ≠ map.above j id) :
    steps ≤ map.size := by
  let passed := (List.range steps).map fun i => (map.above i id).getD ""
  have at_index (i : Nat) (within : i < steps) :
      map.above i id = some ((map.above i id).getD "") := by
    obtain ⟨x, here, _⟩ := mapped i within
    rw [here, Option.getD_some]
  have distinct : passed.Nodup := by
    refine List.Nodup.map_on ?_ List.nodup_range
    intro i memberI j memberJ same
    have withinI := List.mem_range.mp memberI
    have withinJ := List.mem_range.mp memberJ
    have equal : map.above i id = map.above j id := by
      rw [at_index i withinI, at_index j withinJ, same]
    rcases Nat.lt_trichotomy i j with less | same | more
    · exact absurd equal (different i j less withinJ)
    · exact same
    · exact absurd equal.symm (different j i more withinI)
  have inside : ∀ x ∈ passed, map.contains x = true := by
    intro x member
    obtain ⟨i, within, rfl⟩ := List.mem_map.mp member
    obtain ⟨y, here, held⟩ := mapped i (List.mem_range.mp within)
    rw [here]
    exact held
  have bound := map.nodup_ids_length distinct inside
  rwa [List.length_map, List.length_range] at bound

theorem reaches_root_iff : map.ReachesRoot id ↔ ∃ steps, map.above steps id = none := by
  constructor
  · rintro ⟨steps, root, here, top⟩
    refine ⟨steps + 1, ?_⟩
    rw [above_succ_last, here, Option.bind_some, top]
  · rintro ⟨steps, ended⟩
    induction steps with
    | zero => cases ended
    | succ steps ih =>
        cases here : map.above steps id with
        | none => exact ih here
        | some root =>
            rw [above_succ_last, here, Option.bind_some] at ended
            exact ⟨steps, root, here, ended⟩

theorem circles_of_again {i j : Nat} {x : String} (less : i < j) (first : map.above i id = some x)
    (again : map.above j id = some x) : map.Circles id := by
  obtain ⟨around, rfl⟩ := Nat.exists_eq_add_of_lt less
  rw [Nat.add_assoc, above_later first] at again
  exact ⟨i, x, around + 1, first, Nat.succ_pos around, again⟩

theorem above_around {x : String} {around : Nat} (back : map.above around x = some x)
    (times : Nat) : map.above (around * times) x = some x := by
  induction times with
  | zero => rfl
  | succ times ih =>
      rw [Nat.mul_succ, above_later ih, back]

theorem Circles.endless (circles : map.Circles id) (steps : Nat) : map.above steps id ≠ none := by
  obtain ⟨before, x, around, here, positive, back⟩ := circles
  intro ended
  have far : steps ≤ before + around * steps := by
    have times := Nat.le_mul_of_pos_left steps positive
    omega
  have there := above_none_of_le ended far
  rw [above_later here, above_around back] at there
  cases there

theorem reaches_root_iff_not_circles : map.ReachesRoot id ↔ ¬ map.Circles id := by
  rw [reaches_root_iff]
  constructor
  · rintro ⟨steps, ended⟩ circles
    exact circles.endless steps ended
  · intro straight
    by_contra endless
    have goes_on (steps : Nat) : ∃ x, map.above steps id = some x :=
      Option.ne_none_iff_exists'.mp fun ended => endless ⟨steps, ended⟩
    -- One step more than there are elements is too long for a chain of different ones.
    have bound : map.size + 1 ≤ map.size := by
      apply map.chain_length id
      · intro i _
        obtain ⟨x, here⟩ := goes_on i
        obtain ⟨y, next⟩ := goes_on (i + 1)
        exact ⟨x, here, contains_of_above_succ here next⟩
      · intro i j less _ same
        obtain ⟨x, here⟩ := goes_on i
        exact straight (circles_of_again less here (same ▸ here))
    omega

end StyleAudit.ElementMap
