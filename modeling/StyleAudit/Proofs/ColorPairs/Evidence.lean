import StyleAudit.Proofs.ColorPairs.Pairing
import StyleAudit.Proofs.Technique.Evidence

/-!
# Colors shown as evidence

Every finding on colors that carries evidence shows a color that an element of the page sets itself,
under the tag of the element. Each visit keeps this of what has been noted so far, also the visit
that ends the run because of a loop, and it holds of the findings for the backgrounds left over.
-/

namespace StyleAudit.ColorPairs

set_option autoImplicit false

variable {map : ElementMap} {id : String}

def colorProperties : List String :=
  foregroundProperties ++ backgroundProperties

/-- The evidence shows a color set on a mapped element, under the element's tag. -/
def ShowsColor (map : ElementMap) (e : Evidence) : Prop :=
  ∃ id element, map.get? id = some element ∧ e.selector.value = element.tag ∧
    e.property.name ∈ colorProperties ∧
    element.styles.get? e.property.name = some e.property.value

/-- The evidence shows such a color, and it names no file. -/
structure Uncovers (map : ElementMap) (e : Evidence) : Prop where
  color : ShowsColor map e
  unfiled : e.file = none

/-- The evidence shows a color set on an element of the page. Without a page there is none. -/
def FromPage (page : Option ElementMap) (e : Evidence) : Prop :=
  ∃ map, page = some map ∧ ShowsColor map e

theorem first_style_set {properties : List String} {property value : String}
    (found : firstStyle? map id properties = some (property, value)) :
    property ∈ properties ∧ map.style? id property = some value := by
  obtain ⟨other, listed, styled⟩ := List.exists_of_findSome?_eq_some found
  obtain ⟨set, stored, same⟩ := Option.map_eq_some_iff.mp styled
  obtain ⟨rfl, rfl⟩ := Prod.mk.inj same
  exact ⟨listed, stored⟩

theorem evidence_uncovers {properties : List String} (colors : properties ⊆ colorProperties)
    {property value : String}
    (found : firstStyle? map id properties = some (property, value)) :
    Uncovers map (evidence map id property value) := by
  obtain ⟨listed, styled⟩ := first_style_set found
  obtain ⟨element, mapped, stored, _⟩ := (style_eq_some_iff property value).mp styled
  have tag : (map.tag? id).getD "" = element.tag := by
    rw [ElementMap.tag?, mapped]
    rfl
  exact ⟨⟨id, element, mapped, tag, colors listed, stored⟩, rfl⟩

theorem lonely_foreground_supported {property value : String}
    (found : foreground? map id = some (property, value)) :
    (lonelyForeground map id property value).IsSupported (Uncovers map) :=
  Finding.supported_with (evidence_uncovers (List.subset_append_left _ _) found)

theorem lonely_background_supported (map : ElementMap) (id : String) :
    (lonelyBackground map id).IsSupported (Uncovers map) := by
  rw [lonelyBackground]
  cases style : background? map id with
  | none => exact Finding.supported_bare
  | some found =>
      exact Finding.supported_with
        (evidence_uncovers (List.subset_append_right _ _) style)

def AllSupported (map : ElementMap) (p : Pairing) : Prop :=
  ∀ f ∈ p.findings, f.IsSupported (Uncovers map)

def noted : Except (Pairing × String) Pairing → Pairing
  | .ok p => p
  | .error (p, _) => p

theorem record_supported {p : Pairing} (supported : AllSupported map p) {f : Finding}
    (new : f.IsSupported (Uncovers map)) : AllSupported map (p.record f) := by
  intro g inside
  rcases List.mem_append.mp inside with old | last
  · exact supported g old
  · obtain rfl := List.mem_singleton.mp last
    exact new

theorem meet_supported {p : Pairing} (supported : AllSupported map p) (id : String) :
    AllSupported map (p.meetBackground id) := by
  rw [AllSupported, Pairing.findings_meet]
  exact supported

theorem pair_supported {p : Pairing} (supported : AllSupported map p) (id : String) :
    AllSupported map (p.pair id) := by
  rw [AllSupported, Pairing.findings_pair]
  exact supported

theorem visit_supported {p : Pairing} (supported : AllSupported map p) (id : String) :
    AllSupported map (noted (visit map p id)) := by
  rw [visit]
  cases style : foreground? map id with
  | none =>
      dsimp only [noted]
      split
      · exact meet_supported supported id
      · exact supported
  | some found =>
      obtain ⟨property, value⟩ := found
      dsimp only
      cases nearestBackground map id with
      | found background =>
          exact pair_supported (record_supported supported Finding.supported_bare) background
      | nowhere => exact record_supported supported (lonely_foreground_supported style)
      | loop element => exact supported

theorem visits_supported (ids : List String) {p : Pairing} (supported : AllSupported map p) :
    AllSupported map (noted (ids.foldlM (visit map) p)) := by
  induction ids generalizing p with
  | nil => exact supported
  | cons id rest ih =>
      have first := visit_supported supported id
      rw [List.foldlM_cons]
      cases visited : visit map p id with
      | error fault =>
          rw [visited] at first
          exact first
      | ok next =>
          rw [visited] at first
          exact ih first

theorem page_supported (map : ElementMap) :
    ∀ f ∈ (evaluatePage map).findings, f.IsSupported (Uncovers map) := by
  have nothing : AllSupported map Pairing.start := List.forall_mem_nil _
  have all := visits_supported map.ids nothing
  intro f found
  rw [evaluatePage] at found
  cases folded : map.ids.foldlM (visit map) Pairing.start with
  | error fault =>
      obtain ⟨p, text⟩ := fault
      rw [folded] at all found
      exact all f found
  | ok p =>
      rw [folded] at all found
      rcases List.mem_append.mp found with before | left
      · exact all f before
      · obtain ⟨entry, _, rfl⟩ := List.mem_map.mp left
        exact lonely_background_supported map entry.1

theorem technique_uncovers (ledger : Ledger) (input : Input) :
    ∀ f ∈ (technique.evaluate ledger input).findings,
      f.IsSupported fun e => ∃ map, input.page = some map ∧ Uncovers map e := by
  intro f found
  cases page : input.page with
  | none =>
      simp only [technique, page, List.not_mem_nil] at found
  | some map =>
      simp only [technique, page] at found
      intro e carried
      obtain ⟨applicable, whole, shown⟩ := page_supported map f found e carried
      exact ⟨applicable, whole, map, rfl, shown⟩

theorem technique_supported (ledger : Ledger) (input : Input) :
    ∀ f ∈ (technique.evaluate ledger input).findings, f.IsSupported (FromPage input.page) := by
  intro f found e carried
  obtain ⟨applicable, whole, map, page, shown⟩ := technique_uncovers ledger input f found e carried
  exact ⟨applicable, whole, map, page, shown.color⟩

theorem technique_names_no_file (ledger : Ledger) (input : Input) {f : Finding}
    (found : f ∈ (technique.evaluate ledger input).findings) {e : Evidence}
    (carried : f.evidence = some e) : e.file = none := by
  obtain ⟨_, _, map, _, shown⟩ := technique_uncovers ledger input f found e carried
  exact shown.unfiled

end StyleAudit.ColorPairs
