import Mathlib.Data.List.Perm.Subperm
import StyleAudit.Page.ElementMap
import StyleAudit.Proofs.Keyed

/-!
# The ids of an element map

The ids in document order are the keys of the map, each listed once.
-/

namespace StyleAudit.ElementMap

set_option autoImplicit false

theorem contains_iff_key (map : ElementMap) (id : String) :
    map.contains id = true ↔ id ∈ map.elements.keys :=
  Keyed.get_is_some_iff map.elements id

theorem contains_of_get {map : ElementMap} {id : String} {element : Element}
    (found : map.get? id = some element) : map.contains id = true :=
  Option.isSome_iff_exists.mpr ⟨element, found⟩

theorem contains_of_parent {map : ElementMap} {id parent : String}
    (named : map.parent? id = some parent) : map.contains id = true := by
  obtain ⟨element, found, _⟩ := Option.bind_eq_some_iff.mp named
  exact contains_of_get found

theorem ids_perm (map : ElementMap) : map.ids.Perm map.elements.keys :=
  List.mergeSort_perm _ _

theorem mem_ids_iff (map : ElementMap) (id : String) : id ∈ map.ids ↔ map.contains id = true := by
  rw [map.ids_perm.mem_iff, contains_iff_key]

theorem ids_nodup (map : ElementMap) : map.ids.Nodup :=
  map.ids_perm.nodup_iff.mpr map.elements.keys_nodup

theorem nodup_ids_length (map : ElementMap) {listed : List String} (distinct : listed.Nodup)
    (mapped : ∀ id ∈ listed, map.contains id = true) : listed.length ≤ map.size := by
  have inside : listed ⊆ map.elements.keys := fun id member =>
    (map.contains_iff_key id).mp (mapped id member)
  have bound := (List.subperm_of_subset distinct inside).length_le
  rwa [Keyed.keys, List.length_map] at bound

end StyleAudit.ElementMap
