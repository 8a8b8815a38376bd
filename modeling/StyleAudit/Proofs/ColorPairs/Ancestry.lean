import StyleAudit.Catalog.ColorPairs
import StyleAudit.Proofs.Page.ElementMap

/-!
# The nearest background

What the search along the parents of an element is after, told without the search. An element or one
of its mapped ancestors sets a background, and the nearest background is the first such element on
the way up.
-/

namespace StyleAudit.ColorPairs

set_option autoImplicit false

variable {map : ElementMap} {id : String}

/-- The element is mapped and one of the properties has a value on it that is not empty. -/
def SetsAny (map : ElementMap) (id : String) (properties : List String) : Prop :=
  ∃ element, map.get? id = some element ∧ ∃ property ∈ properties, ∃ value,
    element.styles.get? property = some value ∧ value ≠ ""

def HasForeground (map : ElementMap) (id : String) : Prop :=
  SetsAny map id ["color", "text"]

def HasBackground (map : ElementMap) (id : String) : Prop :=
  SetsAny map id ["background-color", "bgcolor"]

/-- The second element is the first one or an ancestor of it, with only mapped elements between. -/
inductive OnChain (map : ElementMap) : String → String → Prop where
  | self (id : String) : OnChain map id id
  | up {id parent ancestor : String} (named : map.parent? id = some parent)
      (mapped : map.contains parent = true) (further : OnChain map parent ancestor) :
      OnChain map id ancestor

/-- The second element is the first one with a background on the way up from the first element. -/
inductive Nearest (map : ElementMap) : String → String → Prop where
  | own {id : String} (has : HasBackground map id) : Nearest map id id
  | inherited {id parent background : String} (lacks : ¬ HasBackground map id)
      (named : map.parent? id = some parent) (mapped : map.contains parent = true)
      (further : Nearest map parent background) : Nearest map id background

theorem style_eq_some_iff (property value : String) :
    map.style? id property = some value ↔ ∃ element, map.get? id = some element ∧
      element.styles.get? property = some value ∧ value ≠ "" := by
  rw [ElementMap.style?, Option.filter_eq_some_iff, Option.bind_eq_some_iff]
  simp only [bne_iff_ne, ne_eq]
  constructor
  · rintro ⟨⟨element, found, styled⟩, nonempty⟩
    exact ⟨element, found, styled, nonempty⟩
  · rintro ⟨element, found, styled, nonempty⟩
    exact ⟨⟨element, found, styled⟩, nonempty⟩

theorem first_style_is_some_iff (properties : List String) :
    (firstStyle? map id properties).isSome = true ↔ SetsAny map id properties := by
  rw [firstStyle?, List.findSome?_isSome_iff]
  simp only [Option.isSome_map, Option.isSome_iff_exists, style_eq_some_iff]
  constructor
  · rintro ⟨property, listed, value, element, found, styled⟩
    exact ⟨element, found, property, listed, value, styled⟩
  · rintro ⟨element, found, property, listed, value, styled⟩
    exact ⟨property, listed, value, element, found, styled⟩

theorem foreground_is_some_iff : (foreground? map id).isSome = true ↔ HasForeground map id :=
  first_style_is_some_iff _

theorem foreground_of_style {found : String × String} (style : foreground? map id = some found) :
    HasForeground map id :=
  foreground_is_some_iff.mp (Option.isSome_of_eq_some style)

theorem background_is_some_iff : (background? map id).isSome = true ↔ HasBackground map id :=
  first_style_is_some_iff _

theorem SetsAny.contains {properties : List String} (sets : SetsAny map id properties) :
    map.contains id = true := by
  obtain ⟨element, found, _⟩ := sets
  exact ElementMap.contains_of_get found

theorem Nearest.unique {first second : String} (one : Nearest map id first)
    (other : Nearest map id second) : first = second := by
  induction one with
  | own has =>
      cases other with
      | own _ => rfl
      | inherited lacks _ _ _ => exact absurd has lacks
  | inherited lacks named mapped _ ih =>
      cases other with
      | own has => exact absurd has lacks
      | inherited _ named' _ further =>
          obtain rfl := Option.some.inj (named.symm.trans named')
          exact ih further

theorem Nearest.background {background : String} (nearest : Nearest map id background) :
    HasBackground map background := by
  induction nearest with
  | own has => exact has
  | inherited _ _ _ _ ih => exact ih

theorem Nearest.on_chain {background : String} (nearest : Nearest map id background) :
    OnChain map id background := by
  induction nearest with
  | own _ => exact .self _
  | inherited _ named mapped _ ih => exact .up named mapped ih

theorem exists_nearest_iff :
    (∃ background, Nearest map id background) ↔ ∃ x, OnChain map id x ∧ HasBackground map x := by
  constructor
  · rintro ⟨background, nearest⟩
    exact ⟨background, nearest.on_chain, nearest.background⟩
  · rintro ⟨x, chain, has⟩
    induction chain with
    | self id => exact ⟨id, .own has⟩
    | @up id parent ancestor named mapped _ ih =>
        by_cases here : HasBackground map id
        · exact ⟨id, .own here⟩
        · obtain ⟨background, nearest⟩ := ih has
          exact ⟨background, .inherited here named mapped nearest⟩

end StyleAudit.ColorPairs
