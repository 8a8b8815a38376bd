import StyleAudit.Keyed

/-!
# Keys and values of a mapping

A key is listed exactly if something is found under it, and no key is listed twice. Entries whose
keys differ pairwise all stay in the mapping that is made of them.
-/

namespace StyleAudit.Keyed

set_option autoImplicit false

variable {α : Type}

theorem get_is_some_iff (m : Keyed α) (key : String) : (m.get? key).isSome ↔ key ∈ m.keys := by
  rw [get?, keys]
  induction m.entries with
  | nil => simp
  | cons entry rest ih =>
      obtain ⟨other, value⟩ := entry
      rw [List.lookup_cons]
      by_cases same : key = other
      · simp [same]
      · have unequal : (key == other) = false := by simp [same]
        rw [unequal]
        simp [same, ih]

theorem mem_keys_insert (m : Keyed α) (key other : String) (value : α) :
    other ∈ (m.insert key value).keys ↔ other = key ∨ other ∈ m.keys := by
  rw [← get_is_some_iff, get?_insert, ← get_is_some_iff]
  by_cases same : other = key <;> simp [same]

theorem keys_increasing (m : Keyed α) : m.keys.Pairwise (· < ·) :=
  List.pairwise_map.2 m.increasing

theorem keys_nodup (m : Keyed α) : m.keys.Nodup := by
  refine m.keys_increasing.imp ?_
  intro a b below same
  exact String.lt_irrefl b (same ▸ below)

theorem get_eq_some_iff (m : Keyed α) (key : String) (value : α) :
    m.get? key = some value ↔ (key, value) ∈ m.entries := by
  rw [get?, List.lookup_eq_some_iff]
  constructor
  · rintro ⟨before, after, split, _⟩
    rw [split]
    simp
  · intro member
    obtain ⟨before, after, split⟩ := List.append_of_mem member
    refine ⟨before, after, split, ?_⟩
    intro entry earlier
    have increasing := m.increasing
    rw [split, List.pairwise_append] at increasing
    have below := increasing.2.2 entry earlier (key, value) (by simp)
    exact bne_iff_ne.mpr fun same => String.lt_irrefl key (same ▸ below)

theorem mem_values_iff (m : Keyed α) (value : α) :
    value ∈ m.values ↔ ∃ key, m.get? key = some value := by
  simp only [values, get_eq_some_iff, List.mem_map, Prod.exists, exists_eq_right]

private theorem insert_entry_above {key : String} (value : α) {entries : List (String × α)}
    (above : ∀ entry ∈ entries, entry.1 < key) :
    insertEntry key value entries = entries ++ [(key, value)] := by
  induction entries with
  | nil => rfl
  | cons first rest ih =>
      have below := above first (by simp)
      rw [insertEntry, if_neg (String.lt_asymm below), if_pos below,
        ih fun entry member => above entry (List.mem_cons_of_mem first member)]
      rfl

private theorem insert_entry_again {key : String} {value : α} {entries : List (String × α)}
    (increasing : entries.Pairwise fun a b => a.1 < b.1) (member : (key, value) ∈ entries) :
    insertEntry key value entries = entries := by
  induction entries with
  | nil => cases member
  | cons first rest ih =>
      obtain ⟨below, ordered⟩ := List.pairwise_cons.mp increasing
      rcases List.mem_cons.mp member with rfl | later
      · rw [insertEntry, if_neg (String.lt_irrefl key), if_neg (String.lt_irrefl key)]
      · have before := below _ later
        rw [insertEntry, if_neg (String.lt_asymm before), if_pos before, ih ordered later]

theorem insert_again {m : Keyed α} {key : String} {value : α} (found : m.get? key = some value) :
    m.insert key value = m := by
  apply ext_entries
  exact insert_entry_again m.increasing ((get_eq_some_iff m key value).mp found)

private theorem insert_all_entries (rest : List (String × α)) (m : Keyed α)
    (increasing : (m.entries ++ rest).Pairwise fun a b => a.1 < b.1) :
    (rest.foldl (fun m entry => m.insert entry.1 entry.2) m).entries = m.entries ++ rest := by
  induction rest generalizing m with
  | nil => simp
  | cons entry rest ih =>
      have above := (List.pairwise_append.1 increasing).2.2
      have inserted : (m.insert entry.1 entry.2).entries = m.entries ++ [entry] :=
        insert_entry_above entry.2 fun before member => above before member entry (by simp)
      rw [List.foldl_cons, ih, inserted, List.append_assoc]
      · rfl
      · rw [inserted, List.append_assoc]
        exact increasing

theorem of_list_entries (m : Keyed α) : ofList m.entries = m := by
  apply ext_entries
  exact insert_all_entries m.entries empty m.increasing

private theorem insert_entry_perm {key : String} (value : α) {entries : List (String × α)}
    (fresh : ∀ entry ∈ entries, entry.1 ≠ key) :
    (insertEntry key value entries).Perm ((key, value) :: entries) := by
  induction entries with
  | nil => exact .refl _
  | cons first rest ih =>
      rw [insertEntry]
      split
      · exact .refl _
      · split
        · have inserted := ih fun entry member => fresh entry (List.mem_cons_of_mem first member)
          exact (inserted.cons first).trans (.swap _ _ _)
        · rename_i notLess notMore
          have same : first.1 = key :=
            String.le_antisymm (String.not_lt.1 notLess) (String.not_lt.1 notMore)
          exact absurd same (fresh first List.mem_cons_self)

private theorem insert_all_perm (rest : List (String × α)) (m : Keyed α)
    (distinct : ((m.entries ++ rest).map Prod.fst).Nodup) :
    (rest.foldl (fun m entry => m.insert entry.1 entry.2) m).entries.Perm (m.entries ++ rest) := by
  induction rest generalizing m with
  | nil => simp
  | cons entry rest ih =>
      have inserted : (m.insert entry.1 entry.2).entries.Perm (m.entries ++ [entry]) := by
        refine (insert_entry_perm entry.2 ?_).trans (List.perm_append_singleton entry _).symm
        intro other before same
        rw [List.map_append, List.nodup_append] at distinct
        exact distinct.2.2 other.1 (List.mem_map_of_mem before) entry.1 (by simp) same
      have moved := inserted.append_right rest
      rw [List.append_assoc] at moved
      exact (ih _ ((moved.map Prod.fst).nodup_iff.mpr distinct)).trans moved

theorem of_list_perm {entries : List (String × α)} (distinct : (entries.map Prod.fst).Nodup) :
    (ofList entries).entries.Perm entries :=
  insert_all_perm entries empty distinct

theorem get_of_list_iff {entries : List (String × α)} (distinct : (entries.map Prod.fst).Nodup)
    (key : String) (value : α) :
    (ofList entries).get? key = some value ↔ (key, value) ∈ entries := by
  rw [get_eq_some_iff, (of_list_perm distinct).mem_iff]

end StyleAudit.Keyed
