import Mathlib.Data.List.Nodup
import StyleAudit.Page.Mapping
import StyleAudit.Page.Markup
import StyleAudit.Proofs.Keyed

/-!
# Marked trees

A tree whose elements bear their numbers in document order as a mark, before their other attributes,
and the text of such a tree: every element between its own tags, in the order of the tree.
-/

namespace StyleAudit.Page

set_option autoImplicit false

def inNameOrder (attributes : List (String × String)) : List (String × String) :=
  attributes.mergeSort fun a b => a.1 ≤ b.1

/-- The attributes of a marked element. A mark that it had before is dropped. -/
def markedAttributes (number : Nat) (attributes : List (String × String)) :
    List (String × String) :=
  (idAttribute, numberId number) ::
    inNameOrder (attributes.filter fun entry => entry.1 != idAttribute)

mutual

/-- The elements of a tree with lower case tags, marked with numbers from a first one on. -/
def Tree.marked (first : Nat) : Tree → Tree
  | .element tag attributes children =>
    .element (Text.asciiLower tag) (markedAttributes first attributes)
      (markedAll (first + 1) children)
  | .text content => .text content

def markedAll (first : Nat) : List Tree → List Tree
  | [] => []
  | tree :: rest => tree.marked first :: markedAll (first + tree.size) rest

end

mutual

/-- The elements of a tree as nested tags. Texts are left out. -/
def Tree.written : Tree → String
  | .element tag attributes children =>
    "<" ++ tag ++ String.join (attributes.map fun entry => " " ++ attributeText entry.1 entry.2) ++
      ">" ++ writtenAll children ++ "</" ++ tag ++ ">"
  | .text _ => ""

def writtenAll : List Tree → String
  | [] => ""
  | tree :: rest => tree.written ++ writtenAll rest

end

mutual

/-- No element has two attributes of one name. -/
def Tree.NamesDistinct : Tree → Prop
  | .element _ attributes children =>
    (attributes.map Prod.fst).Nodup ∧ AllNamesDistinct children
  | .text _ => True

def AllNamesDistinct : List Tree → Prop
  | [] => True
  | tree :: rest => tree.NamesDistinct ∧ AllNamesDistinct rest

end

theorem kept_in_name_order {attributes : List (String × String)}
    (distinct : (attributes.map Prod.fst).Nodup) (keep : String × String → Bool) :
    (Keyed.ofList attributes).entries.filter keep = inNameOrder (attributes.filter keep) := by
  have perm : ((Keyed.ofList attributes).entries.filter keep).Perm
      (inNameOrder (attributes.filter keep)) :=
    ((Keyed.of_list_perm distinct).filter keep).trans (List.mergeSort_perm _ _).symm
  have increasing : ((Keyed.ofList attributes).entries.filter keep).Pairwise fun a b => a.1 < b.1 :=
    (Keyed.ofList attributes).increasing.sublist List.filter_sublist
  have sorted : (inNameOrder (attributes.filter keep)).Pairwise fun a b =>
      decide (a.1 ≤ b.1) = true := by
    apply List.pairwise_mergeSort
    · intro a b c below above
      exact decide_eq_true
        (String.le_trans (of_decide_eq_true below) (of_decide_eq_true above))
    · intro a b
      simpa using String.le_total a.1 b.1
  refine perm.eq_of_pairwise ?_ (increasing.imp fun below => ?_) sorted
  · intro a b kept listed below above
    have memberA := (List.mem_filter.mp kept).1
    have memberB := (List.mem_filter.mp (perm.mem_iff.mpr listed)).1
    have same := String.le_antisymm (of_decide_eq_true below) (of_decide_eq_true above)
    have found := (Keyed.get_eq_some_iff (Keyed.ofList attributes) a.1 a.2).mpr memberA
    rw [same, (Keyed.get_eq_some_iff (Keyed.ofList attributes) b.1 b.2).mpr memberB] at found
    exact Prod.ext same (Option.some.inj found).symm
  · exact decide_eq_true (String.not_lt.1 (String.lt_asymm below))

theorem marked_attributes_distinct {attributes : List (String × String)}
    (distinct : (attributes.map Prod.fst).Nodup) (number : Nat) :
    ((markedAttributes number attributes).map Prod.fst).Nodup := by
  have perm : (inNameOrder (attributes.filter fun entry => entry.1 != idAttribute)).Perm
      (attributes.filter fun entry => entry.1 != idAttribute) := List.mergeSort_perm _ _
  rw [markedAttributes, List.map_cons, List.nodup_cons]
  constructor
  · intro again
    obtain ⟨entry, member, same⟩ := List.mem_map.mp again
    have other := (List.mem_filter.mp (perm.mem_iff.mp member)).2
    exact absurd same (bne_iff_ne.mp other)
  · rw [(perm.map Prod.fst).nodup_iff]
    exact distinct.sublist (List.filter_sublist.map Prod.fst)

end StyleAudit.Page
