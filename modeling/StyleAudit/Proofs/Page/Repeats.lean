import Mathlib.Data.List.Destutter
import StyleAudit.Html.Document
import StyleAudit.Proofs.Page.Listing
import StyleAudit.Proofs.Page.Number

/-!
# Elements that are matched more than once

Where HTML takes up formatting again, several elements of its tree bear one id, and a selector
matches them all. The answer to a query is put in document order, and then repeats next to each
other are dropped. The order brings an id together with its repeats, and with all other spellings of
the same number, among which it moves nothing. So a repeat stays just if another spelling was met in
between. On the tree of its own source a page never meets a second spelling.
-/

namespace StyleAudit.Page

set_option autoImplicit false

/-- Between two occurrences of the id another spelling of the same number was met. -/
structure Parts (ids : List String) (other id : String) : Prop where
  different : id ≠ other
  level : ∃ n, IsNumber id n ∧ IsNumber other n
  between : [id, other, id].Sublist ids

theorem drop_repeats_eq_destutter (ids : List String) :
    dropRepeats ids = ids.destutter (· ≠ ·) := by
  induction ids using dropRepeats.induct with
  | case1 => rfl
  | case2 id => rfl
  | case3 next rest ih =>
      rw [dropRepeats, if_pos rfl, ih, List.destutter_cons_cons, if_neg (not_not_intro rfl)]
      rfl
  | case4 id next rest differ ih =>
      rw [dropRepeats, if_neg differ, ih, List.destutter_cons_cons, if_pos differ]
      rfl

theorem drop_repeats_sublist (ids : List String) : (dropRepeats ids).Sublist ids := by
  rw [drop_repeats_eq_destutter]
  exact List.destutter_sublist (· ≠ ·) ids

theorem drop_repeats_chain (ids : List String) : (dropRepeats ids).IsChain (· ≠ ·) := by
  rw [drop_repeats_eq_destutter]
  exact List.isChain_destutter (· ≠ ·) ids

/-- Nothing is lost of a selection of the ids that does not repeat itself from one to the next. -/
theorem kept_of_chain {chosen ids : List String} (chain : chosen.IsChain (· ≠ ·))
    (inside : chosen.Sublist ids) : chosen.Sublist (dropRepeats ids) := by
  induction ids using dropRepeats.induct generalizing chosen with
  | case1 => exact inside
  | case2 id => exact inside
  | case3 next rest ih =>
      rw [dropRepeats, if_pos rfl]
      apply ih chain
      -- Of two equal ids next to each other the selection has one at most.
      rcases List.sublist_cons_iff.mp inside with later | ⟨more, rfl, later⟩
      · exact later
      · rcases List.sublist_cons_iff.mp later with behind | ⟨others, rfl, _⟩
        · exact behind.cons_cons next
        · exact absurd rfl (List.isChain_cons_cons.mp chain).1
  | case4 id next rest differ ih =>
      rw [dropRepeats, if_neg differ]
      rcases List.sublist_cons_iff.mp inside with later | ⟨more, rfl, later⟩
      · exact (ih chain later).cons id
      · exact (ih chain.tail later).cons_cons id

theorem mem_drop_repeats_iff {id : String} {ids : List String} :
    id ∈ dropRepeats ids ↔ id ∈ ids := by
  rw [← List.singleton_sublist, ← List.singleton_sublist]
  exact ⟨fun kept => kept.trans (drop_repeats_sublist ids), kept_of_chain (.singleton id)⟩

theorem parted_of_twice {id : String} {ids : List String} (chain : ids.IsChain (· ≠ ·))
    (twice : [id, id].Sublist ids) : ∃ other, id ≠ other ∧ [id, other, id].Sublist ids := by
  induction ids with
  | nil => cases twice
  | cons first rest ih =>
      rcases List.sublist_cons_iff.mp twice with later | ⟨more, same, later⟩
      · obtain ⟨other, different, between⟩ := ih chain.tail later
        exact ⟨other, different, between.cons first⟩
      · obtain ⟨rfl, rfl⟩ := List.cons.inj same
        cases rest with
        | nil => cases later
        | cons other rest =>
            have different := (List.isChain_cons_cons.mp chain).1
            have again : id ∈ rest :=
              List.mem_of_ne_of_mem different (List.singleton_sublist.mp later)
            exact ⟨other, different,
              ((List.singleton_sublist.mpr again).cons_cons other).cons_cons id⟩

theorem repeated_iff {id : String} {ids : List String} :
    [id, id].Sublist (dropRepeats ids) ↔ ∃ other, id ≠ other ∧ [id, other, id].Sublist ids := by
  constructor
  · intro twice
    obtain ⟨other, different, between⟩ := parted_of_twice (drop_repeats_chain ids) twice
    exact ⟨other, different, between.trans (drop_repeats_sublist ids)⟩
  · rintro ⟨other, different, between⟩
    have chain : [id, other, id].IsChain (· ≠ ·) :=
      .cons_cons different (.cons_cons different.symm (.singleton id))
    have outer : [id, id].Sublist [id, other, id] :=
      ((List.Sublist.refl [id]).cons other).cons_cons id
    exact outer.trans (kept_of_chain chain between)

theorem answer_is_sorted (ids : List String) :
    (inDocumentOrder ids).Pairwise fun a b => notAfter a b = true :=
  List.pairwise_mergeSort notAfter_trans notAfter_total ids

theorem in_document_order_of_sorted {ids sorted : List String} (perm : ids.Perm sorted)
    (ordered : sorted.Pairwise fun a b => notAfter a b = true)
    (apart : ∀ a ∈ ids, ∀ b ∈ sorted, notAfter a b = true → notAfter b a = true → a = b) :
    inDocumentOrder ids = sorted := by
  apply List.Perm.eq_of_pairwise ?_ (answer_is_sorted ids) ordered
    ((List.mergeSort_perm ids notAfter).trans perm)
  intro a b answered listed
  exact apart a (List.mem_mergeSort.mp answered) b listed

/-- The order neither parts the occurrences of an id nor joins them, except for what is not level
with it. -/
theorem parts_iff {ids : List String} {id other : String} :
    id ≠ other ∧ [id, other, id].Sublist (inDocumentOrder ids) ↔ Parts ids other id := by
  have kept {n : Nat} (first : IsNumber id n) (second : IsNumber other n) :
      [id, other, id].filter (fun id => position? id == some n) = [id, other, id] := by
    simp [position_eq_some_iff.mpr first, position_eq_some_iff.mpr second]
  constructor
  · rintro ⟨different, between⟩
    have sorted := (answer_is_sorted ids).sublist between
    have before : notAfter id other = true := List.rel_of_pairwise_cons sorted List.mem_cons_self
    have after : notAfter other id = true :=
      List.rel_of_pairwise_cons (List.Pairwise.of_cons sorted) List.mem_cons_self
    rw [not_after_eq_is_le] at before after
    have level := document_order_eq_iff.mp (Std.OrientedCmp.isLE_antisymm before after)
    obtain ⟨n, first, second⟩ := level.resolve_left different
    -- The sort is stable, so the spellings of the number stand as they were met.
    refine ⟨different, ⟨n, first, second⟩, ?_⟩
    have inside := between.filter fun id => position? id == some n
    rw [kept first second, level_ids_kept] at inside
    exact inside.trans List.filter_sublist
  · rintro ⟨different, ⟨n, first, second⟩, between⟩
    refine ⟨different, ?_⟩
    have inside := between.filter fun id => position? id == some n
    rw [kept first second, ← level_ids_kept] at inside
    exact inside.trans List.filter_sublist

def answered (ids : List String) : List String :=
  dropRepeats (inDocumentOrder ids)

theorem mem_answered_iff {id : String} {ids : List String} : id ∈ answered ids ↔ id ∈ ids := by
  rw [answered, mem_drop_repeats_iff, inDocumentOrder, List.mem_mergeSort]

theorem answered_twice_iff {id : String} {ids : List String} :
    [id, id].Sublist (answered ids) ↔ ∃ other, Parts ids other id := by
  rw [answered, repeated_iff]
  exact exists_congr fun other => parts_iff

theorem answered_once_iff {id : String} {ids : List String} (met : id ∈ ids) :
    (answered ids).count id = 1 ↔ ∀ other, ¬ Parts ids other id := by
  have some : 0 < (answered ids).count id :=
    List.count_pos_iff.mpr (mem_answered_iff.mpr met)
  have twice : 2 ≤ (answered ids).count id ↔ ∃ other, Parts ids other id := by
    rw [← answered_twice_iff]
    exact List.replicate_sublist_iff.symm
  rw [← not_exists, ← twice]
  omega

theorem answered_nodup_iff {ids : List String} :
    (answered ids).Nodup ↔ ∀ id other, ¬ Parts ids other id := by
  rw [List.nodup_iff_sublist]
  exact forall_congr' fun id => by rw [answered_twice_iff, not_exists]

theorem number_of_number_id {m n : Nat} (spelled : IsNumber (numberId m) n) : m = n := by
  have position := position_eq_some_iff.mpr spelled
  rw [position_of_number_id_eq, Option.ite_none_right_eq_some] at position
  exact Option.some.inj position.2

theorem numbers_unparted (selectors : List Selector.Complex) (tree : Tree) (id other : String) :
    ¬ Parts (matchedByNumber selectors tree) other id := by
  rintro ⟨different, ⟨n, first, second⟩, between⟩
  have numbered : ∀ each ∈ [id, other, id], ∃ m, numberId m = each := by
    intro each member
    obtain ⟨entry, _, same⟩ := List.mem_map.mp (between.subset member)
    exact ⟨entry.2, same⟩
  obtain ⟨m, rfl⟩ := numbered id (by simp)
  obtain ⟨k, rfl⟩ := numbered other (by simp)
  exact different (by rw [number_of_number_id first, number_of_number_id second])

/-- A query answers the ids that were met, all of them and no others, in document order. It names an
id once just if no other spelling of the same number was met between two of its occurrences, so on
the tree of its own source a page names each element once. -/
theorem repeats_are_dropped_unless_parted (ids : List String) :
    let answer := dropRepeats (inDocumentOrder ids)
    (∀ id, id ∈ answer ↔ id ∈ ids) ∧
    (answer.Pairwise fun a b => (documentOrder a b).isLE = true) ∧
    (∀ id ∈ ids, answer.count id = 1 ↔ ∀ other, ¬ Parts ids other id) ∧
    (answer.Perm ids.dedup ↔ ∀ id other, ¬ Parts ids other id) ∧
    ∀ (parse : Parser) (page : Page) (selector : String) (selectors : List Selector.Complex),
      Selector.read? selector = some selectors → page.matched parse selectors = ids →
      page.ask parse selector = .ok answer ∧ (page.source ≠ none → answer.Perm ids.dedup) := by
  intro answer
  have perm_iff : answer.Perm ids.dedup ↔ ∀ id other, ¬ Parts ids other id := by
    rw [← answered_nodup_iff]
    constructor
    · intro perm
      exact perm.nodup_iff.mpr ids.nodup_dedup
    · intro distinct
      apply (List.perm_ext_iff_of_nodup distinct ids.nodup_dedup).mpr
      intro id
      rw [List.mem_dedup]
      exact mem_answered_iff
  refine ⟨fun id => mem_answered_iff, ?_, fun id => answered_once_iff, perm_iff, ?_⟩
  · simp only [← not_after_eq_is_le]
    exact (answer_is_sorted ids).sublist (drop_repeats_sublist _)
  · intro parse page selector selectors readable met
    refine ⟨?_, ?_⟩
    · rw [ask, readable]
      dsimp only
      rw [met]
    · intro sourced
      rw [perm_iff, ← met]
      obtain ⟨html, source⟩ := Option.ne_none_iff_exists'.mp sourced
      have numbers : page.matched parse selectors = matchedByNumber selectors (parse html) := by
        rw [matched, source]
      rw [numbers]
      exact numbers_unparted selectors (parse html)

/-- Bold text in which another paragraph begins, with an element in it. HTML ends the bold text
there and takes it up again inside. -/
def boldAcross (inner : String) : Page :=
  ofMap ⟨.ofList [("0", ⟨"p", .empty, .empty, none⟩), ("1", ⟨"b", .empty, .empty, some "0"⟩),
    (inner, ⟨"p", .empty, .empty, some "1"⟩), ("2", ⟨"span", .empty, .empty, some inner⟩)]⟩

theorem bold_element_is_named_once :
    let ids := ["0", "1", "10", "1", "2"]
    let all : List Selector.Complex := [.compound [.anyTag]]
    let answer := ["0", "1", "2", "10"]
    Selector.read? "*" = some all ∧ (boldAcross "10").matched Html.parse all = ids ∧
      (boldAcross "10").ask Html.parse "*" = .ok answer ∧ "1" ∈ ids ∧ answer.count "1" = 1 ∧
      (∀ other, ¬ Parts ids other "1") ∧
      (ofSource Html.parse "<p>").matched Html.parse all = ["0", "1", "2", "3"] ∧
      (ofSource Html.parse "<p>").source ≠ none ∧
      (ofSource Html.parse "<p>").ask Html.parse "*" = .ok ["0", "1", "2", "3"] ∧
      (dropRepeats (inDocumentOrder ["0", "1", "2", "3"])).Perm ["0", "1", "2", "3"].dedup := by
  intro ids all answer
  have readable : Selector.read? "*" = some all := rfl
  have met : (boldAcross "10").matched Html.parse all = ids := by decide +kernel
  have numbered : (ofSource Html.parse "<p>").matched Html.parse all = ["0", "1", "2", "3"] := by
    decide +kernel
  have sourced : (ofSource Html.parse "<p>").source ≠ none := nofun
  have answers : dropRepeats (inDocumentOrder ids) = answer := by
    have sorted : inDocumentOrder ids = ["0", "1", "1", "2", "10"] :=
      in_document_order_of_sorted (by decide) (by decide) (by decide)
    rw [sorted]
    decide
  have plain : dropRepeats (inDocumentOrder ["0", "1", "2", "3"]) = ["0", "1", "2", "3"] := by
    rw [inDocumentOrder, List.mergeSort_of_pairwise (by decide)]
    decide
  have member : "1" ∈ ids := by decide
  have once : answer.count "1" = 1 := by decide
  obtain ⟨_, _, counts, _, queries⟩ := repeats_are_dropped_unless_parted ids
  obtain ⟨_, _, _, _, numberQueries⟩ := repeats_are_dropped_unless_parted ["0", "1", "2", "3"]
  obtain ⟨answered, _⟩ := queries _ _ _ all readable met
  obtain ⟨numbersAnswered, distinct⟩ := numberQueries _ _ _ all readable numbered
  have unparted := (counts "1" member).mp (by rw [answers, once])
  rw [answers] at answered
  rw [plain] at numbersAnswered
  exact ⟨readable, met, answered, member, once, unparted, numbered, sourced, numbersAnswered,
    distinct sourced⟩

/-- The inner paragraph bears another spelling of the number of the bold element. It stands between
the two occurrences in the answer as well, so the bold element is named twice. -/
theorem second_spelling_parts_repeats :
    let selectors : List Selector.Complex := [.compound [.tag "b"], .compound [.tag "p"]]
    let ids := ["0", "1", "01", "1"]
    Selector.read? "b, p" = some selectors ∧
      (boldAcross "01").matched Html.parse selectors = ids ∧
      (boldAcross "01").ask Html.parse "b, p" = .ok ["0", "1", "01", "1"] ∧
      (dropRepeats (inDocumentOrder ids)).count "1" = 2 ∧
      ¬ (dropRepeats (inDocumentOrder ids)).Perm ids.dedup := by
  intro selectors ids
  have readable : Selector.read? "b, p" = some selectors := rfl
  have met : (boldAcross "01").matched Html.parse selectors = ids := by decide +kernel
  have answers : dropRepeats (inDocumentOrder ids) = ids := by
    rw [inDocumentOrder, List.mergeSort_of_pairwise (by decide)]
    decide
  refine ⟨readable, met, ?_, ?_, ?_⟩
  · rw [ask, readable]
    dsimp only
    rw [met, answers]
  · rw [answers]
    decide
  · rw [answers]
    decide

end StyleAudit.Page
