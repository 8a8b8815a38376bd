import StyleAudit.Page.Basic
import StyleAudit.Proofs.Page.Twins

/-!
# What selectors cannot tell apart

A selector that asks neither for texts nor for marks matches a place exactly if it matches the twin
of that place, so it matches the elements with the same numbers in trees that are alike.
-/

namespace StyleAudit.Selector

set_option autoImplicit false

open Page (Tree Place Alike Twins idAttribute)

mutual

/-- The selector asks neither for texts nor for marks. -/
def Simple.isPlain : Simple → Bool
  | .attribute name _ => name != idAttribute
  | .empty => false
  | .matchesAny alternatives => arePlain alternatives
  | .matchesNone alternatives => arePlain alternatives
  | .has relatives => arePlain relatives
  | _ => true

def partsArePlain : List Simple → Bool
  | [] => true
  | part :: rest => part.isPlain && partsArePlain rest

def Complex.isPlain : Complex → Bool
  | .compound parts => partsArePlain parts
  | .joined left _ parts => left.isPlain && partsArePlain parts

def arePlain : List Complex → Bool
  | [] => true
  | selector :: rest => selector.isPlain && arePlain rest

end

/-- A relative selector starts nowhere, or at places that are twins. -/
def StartAlike (tree seen : Tree) (anchor image : Option (List Nat)) : Prop :=
  (anchor = none ∧ image = none) ∨
    ∃ place other, Twins tree seen place other ∧ anchor = some place.path ∧ image = some other.path

variable {tree seen : Tree}

theorem StartAlike.same_anchor {anchor image : Option (List Nat)}
    (starts : StartAlike tree seen anchor image) {place other : Place}
    (twins : Twins tree seen place other) :
    (anchor == some place.path) = (image == some other.path) := by
  rcases starts with ⟨rfl, rfl⟩ | ⟨start, begun, starting, rfl, rfl⟩
  · rfl
  · rw [Bool.eq_iff_iff, beq_iff_eq, beq_iff_eq, Option.some.injEq, Option.some.injEq]
    exact starting.same_path_iff twins

theorem any_twins {places others : List Place}
    (twins : List.Forall₂ (Twins tree seen) places others)
    {test image : Place → Bool}
    (same : ∀ place other, Twins tree seen place other → test place = image other) :
    places.any test = others.any image := by
  induction twins with
  | nil => rfl
  | cons first rest ih => rw [List.any_cons, List.any_cons, same _ _ first, ih]

mutual

theorem simple_accepts (part : Simple) (plain : part.isPlain = true)
    {anchor image : Option (List Nat)} (starts : StartAlike tree seen anchor image)
    {place other : Place} (twins : Twins tree seen place other) :
    part.accepts anchor place = part.accepts image other :=
  match part with
  | .tag _ => by rw [Simple.accepts, Simple.accepts, twins.alike.same_tag]
  | .anyTag => rfl
  | .noTag => rfl
  | .id _ => by rw [Simple.accepts, Simple.accepts, twins.alike.same_attribute (by decide)]
  | .className _ => by
    rw [Simple.accepts, Simple.accepts, twins.alike.same_attribute (by decide)]
  | .attribute _ _ => by
    rw [Simple.isPlain, bne_iff_ne] at plain
    have same := twins.alike.same_attribute plain
    unfold Simple.accepts
    rw [same]
  | .root => by rw [Simple.accepts, Simple.accepts, twins.same_root]
  | .counted _ => by rw [Simple.accepts, Simple.accepts, twins.passed_count]
  | .matchesAny alternatives => by
    rw [Simple.isPlain] at plain
    rw [Simple.accepts, Simple.accepts, any_accepts alternatives plain starts twins]
  | .matchesNone alternatives => by
    rw [Simple.isPlain] at plain
    rw [Simple.accepts, Simple.accepts, any_accepts alternatives plain starts twins]
  | .has relatives => by
    rw [Simple.isPlain] at plain
    rw [Simple.accepts, Simple.accepts]
    apply any_twins twins.candidates
    intro below image candidates
    exact any_accepts relatives plain (.inr ⟨place, other, twins, rfl, rfl⟩) candidates
  | .anchor => by rw [Simple.accepts, Simple.accepts, starts.same_anchor twins]

theorem all_accepts (parts : List Simple) (plain : partsArePlain parts = true)
    {anchor image : Option (List Nat)} (starts : StartAlike tree seen anchor image)
    {place other : Place} (twins : Twins tree seen place other) :
    acceptsAll anchor place parts = acceptsAll image other parts := by
  cases parts with
  | nil => rfl
  | cons part rest =>
    rw [partsArePlain, Bool.and_eq_true] at plain
    rw [acceptsAll, acceptsAll, simple_accepts part plain.1 starts twins,
      all_accepts rest plain.2 starts twins]

theorem complex_accepts (selector : Complex) (plain : selector.isPlain = true)
    {anchor image : Option (List Nat)} (starts : StartAlike tree seen anchor image)
    {place other : Place} (twins : Twins tree seen place other) :
    selector.accepts anchor place = selector.accepts image other := by
  cases selector with
  | compound parts =>
    rw [Complex.isPlain] at plain
    rw [Complex.accepts, Complex.accepts, all_accepts parts plain starts twins]
  | joined left combinator parts =>
    rw [Complex.isPlain, Bool.and_eq_true] at plain
    rw [Complex.accepts, Complex.accepts, all_accepts parts plain.2 starts twins,
      any_twins (twins.reached combinator)]
    intro reached match_ twins
    exact complex_accepts left plain.1 starts twins

theorem any_accepts (selectors : List Complex) (plain : arePlain selectors = true)
    {anchor image : Option (List Nat)} (starts : StartAlike tree seen anchor image)
    {place other : Place} (twins : Twins tree seen place other) :
    acceptsAny anchor place selectors = acceptsAny image other selectors := by
  cases selectors with
  | nil => rfl
  | cons selector rest =>
    rw [arePlain, Bool.and_eq_true] at plain
    rw [acceptsAny, acceptsAny, complex_accepts selector plain.1 starts twins,
      any_accepts rest plain.2 starts twins]

end

theorem selects_twins {selectors : List Complex} (plain : arePlain selectors = true)
    {place other : Place} (twins : Twins tree seen place other) :
    selects selectors place = selects selectors other :=
  any_accepts selectors plain (.inl ⟨rfl, rfl⟩) twins

/-- Selectors that ask neither for texts nor for marks match the same elements of trees that are
alike but for these. -/
theorem matched_alike {selectors : List Complex} (plain : arePlain selectors = true)
    (alike : Alike tree seen) :
    Page.matchedByNumber selectors tree = Page.matchedByNumber selectors seen := by
  have numbered {places others : List Place} (twins : List.Forall₂ (Twins tree seen) places others)
      (first : Nat) :
      ((places.zipIdx first).filter fun entry => selects selectors entry.1).map Prod.snd =
        ((others.zipIdx first).filter fun entry => selects selectors entry.1).map Prod.snd := by
    induction twins generalizing first with
    | nil => rfl
    | cons here rest ih =>
      rw [List.zipIdx_cons, List.zipIdx_cons, List.filter_cons, List.filter_cons,
        selects_twins plain here]
      split
      · rw [List.map_cons, List.map_cons, ih]
      · exact ih (first + 1)
  have twins := Twins.places_at tree alike (.root alike) rfl
  have numbers := congrArg (List.map Page.numberId) (numbered twins 0)
  rwa [List.map_map, List.map_map] at numbers

end StyleAudit.Selector
