import StyleAudit.Proofs.Page.Chain

/-!
# Rows of elements

The elements that hang from one parent stand in document order among themselves, which is the order
in which they stand among all elements: what is left out does not move the rest, not even ids of one
position.
-/

namespace StyleAudit

set_option autoImplicit false

namespace Page

private theorem front_of_order {id : String} {front back : List String}
    (above : ∀ b ∈ front, (!notAfter id b) = true) (below : ∀ b ∈ back, notAfter id b = true) :
    (front ++ back).takeWhile (fun b => !notAfter id b) = front := by
  rw [List.takeWhile_append_of_pos above]
  cases back with
  | nil => exact List.append_nil front
  | cons first rest =>
      rw [List.takeWhile_cons_of_neg, List.append_nil]
      rw [below first List.mem_cons_self]
      exact Bool.false_ne_true

theorem in_document_order_filter (ids : List String) (keep : String → Bool) :
    inDocumentOrder (ids.filter keep) = (inDocumentOrder ids).filter keep := by
  -- Sorting puts the first id right before those it is not after, in the whole list and in the
  -- filtered one, so its place in the sorted rest is the same in both.
  induction ids with
  | nil => rw [List.filter_nil, inDocumentOrder, List.mergeSort_nil, List.filter_nil]
  | cons id rest ih =>
      obtain ⟨front, back, whole, others, above⟩ :=
        List.mergeSort_cons notAfter_trans notAfter_total id rest
      have sorted := List.pairwise_mergeSort notAfter_trans notAfter_total (id :: rest)
      rw [whole, List.pairwise_append, List.pairwise_cons] at sorted
      have below := sorted.2.1.1
      rw [inDocumentOrder, inDocumentOrder, others] at ih
      rw [inDocumentOrder, inDocumentOrder, whole, List.filter_append]
      by_cases kept : keep id = true
      · obtain ⟨front', back', whole', others', above'⟩ :=
          List.mergeSort_cons notAfter_trans notAfter_total id (rest.filter keep)
        have sorted' := List.pairwise_mergeSort notAfter_trans notAfter_total
          (id :: rest.filter keep)
        rw [whole', List.pairwise_append, List.pairwise_cons] at sorted'
        have same : front' ++ back' = front.filter keep ++ back.filter keep := by
          rw [← List.filter_append, ← ih, others']
        have fronts : front' = front.filter keep := by
          rw [← front_of_order above' sorted'.2.1.1, same]
          apply front_of_order
          · intro b member
            exact above b (List.mem_filter.mp member).1
          · intro b member
            exact below b (List.mem_filter.mp member).1
        have backs : back' = back.filter keep := by
          rw [fronts] at same
          exact List.append_cancel_left same
        rw [List.filter_cons_of_pos kept, List.filter_cons_of_pos kept, whole', fronts, backs]
      · rw [List.filter_cons_of_neg kept, List.filter_cons_of_neg kept, ih, List.filter_append]

end Page

namespace ElementMap

/-- The elements with a mapped parent, or those without one, as they stand among all elements. -/
def row (map : ElementMap) (parent : Option String) : List String :=
  map.ids.filter fun id => map.mappedParent? id == parent

theorem children_eq_row (map : ElementMap) (parent : Option String) :
    childrenIn map.parents parent = map.row parent := by
  rw [row, ids, ← Page.in_document_order_filter, childrenIn, parents, List.filter_map, List.map_map]
  congr 1
  exact List.map_id _

theorem mem_row_iff {map : ElementMap} {parent : Option String} {id : String} :
    id ∈ map.row parent ↔ map.contains id = true ∧ map.mappedParent? id = parent := by
  rw [row, List.mem_filter, mem_ids_iff, beq_iff_eq]

theorem row_nodup (map : ElementMap) (parent : Option String) : (map.row parent).Nodup :=
  map.ids_nodup.filter _

end ElementMap

end StyleAudit
