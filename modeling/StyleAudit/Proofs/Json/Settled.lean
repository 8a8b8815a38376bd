import StyleAudit.Json.Basic

/-!
# Members that count

Where an object repeats a name the last member of that name counts. Settling an object drops the
others, so each name is left once, with the value that counted before.
-/

namespace StyleAudit.Json

set_option autoImplicit false

variable {name other : String} {value : Json} {members before after : List (String × Json)}

theorem last_member_append :
    lastMember? name (before ++ after) = (lastMember? name after).or (lastMember? name before) := by
  rw [lastMember?, List.reverse_append, List.find?_append, Option.map_or]
  rfl

theorem last_member_cons :
    lastMember? name ((other, value) :: members) =
      (lastMember? name members).or (if other = name then some value else none) := by
  have split : (other, value) :: members = [(other, value)] ++ members := rfl
  rw [split, last_member_append]
  congr 1
  by_cases same : other = name <;> simp [lastMember?, same]

theorem last_member_is_some_iff :
    (lastMember? name members).isSome ↔ ∃ member ∈ members, member.1 = name := by
  rw [lastMember?, Option.isSome_map, List.find?_isSome]
  simp

theorem last_member_of_hole (unshadowed : lastMember? other after = none) :
    lastMember? other (before ++ (other, value) :: after) = some value := by
  rw [last_member_append, last_member_cons, unshadowed, if_pos rfl]
  rfl

theorem last_member_beside_hole (apart : other ≠ name) :
    lastMember? name (before ++ (other, value) :: after) = lastMember? name (before ++ after) := by
  rw [last_member_append, last_member_append, last_member_cons, if_neg apart, Option.or_none]

theorem last_member_settled :
    lastMember? name (settledMembers members) = (lastMember? name members).map settled := by
  induction members with
  | nil => rfl
  | cons first rest ih =>
      obtain ⟨other, value⟩ := first
      rw [settledMembers, last_member_cons]
      by_cases again : rest.any (fun member => member.1 == other) = true
      · -- The first member is dropped. It did not count, since its name comes again.
        rw [if_pos again, ih]
        by_cases same : other = name
        · have later : (lastMember? name rest).isSome := by
            obtain ⟨member, inside, named⟩ := List.any_eq_true.mp again
            exact last_member_is_some_iff.mpr ⟨member, inside, (beq_iff_eq.mp named).trans same⟩
          obtain ⟨found, there⟩ := Option.isSome_iff_exists.mp later
          rw [there]
          rfl
        · rw [if_neg same, Option.or_none]
      · rw [if_neg again, last_member_cons, ih]
        by_cases same : other = name
        · rw [if_pos same, if_pos same, Option.map_or]
          rfl
        · rw [if_neg same, if_neg same, Option.or_none, Option.or_none]

theorem settled_names_subset (inside : name ∈ (settledMembers members).map Prod.fst) :
    name ∈ members.map Prod.fst := by
  induction members with
  | nil => exact inside
  | cons first rest ih =>
      rw [settledMembers] at inside
      rw [List.map_cons, List.mem_cons]
      split at inside
      · exact .inr (ih inside)
      · rw [List.map_cons, List.mem_cons] at inside
        exact inside.imp id ih

theorem settled_names_distinct : ((settledMembers members).map Prod.fst).Nodup := by
  induction members with
  | nil => exact List.nodup_nil
  | cons first rest ih =>
      rw [settledMembers]
      split
      · exact ih
      · rename_i once
        rw [List.map_cons, List.nodup_cons]
        refine ⟨fun again => once ?_, ih⟩
        obtain ⟨member, inside, named⟩ := List.mem_map.mp (settled_names_subset again)
        exact List.any_eq_true.mpr ⟨member, inside, beq_iff_eq.mpr named⟩

theorem last_member_of_mem (distinct : (members.map Prod.fst).Nodup)
    (inside : (name, value) ∈ members) : lastMember? name members = some value := by
  induction members with
  | nil => cases inside
  | cons first rest ih =>
      obtain ⟨other, held⟩ := first
      rw [List.map_cons, List.nodup_cons] at distinct
      rw [last_member_cons]
      rcases List.mem_cons.mp inside with same | later
      · obtain ⟨rfl, rfl⟩ := Prod.mk.inj same
        have once : lastMember? name rest = none := by
          rw [← Option.not_isSome_iff_eq_none, last_member_is_some_iff]
          rintro ⟨member, again, rfl⟩
          exact distinct.1 (List.mem_map.mpr ⟨member, again, rfl⟩)
        rw [once, if_pos rfl]
        rfl
      · rw [ih distinct.2 later]
        rfl

private theorem map_fixes_iff {α : Type} {f : α → α} {items : List α} :
    items.map f = items ↔ ∀ item ∈ items, f item = item := by
  have alike : items.map f = items ↔ items.map f = items.map id := by rw [List.map_id]
  rw [alike, List.map_eq_map_iff]
  rfl

theorem settled_members_of_distinct (distinct : (members.map Prod.fst).Nodup) :
    settledMembers members = members.map fun member => (member.1, member.2.settled) := by
  induction members with
  | nil => rfl
  | cons first rest ih =>
      rw [List.map_cons, List.nodup_cons] at distinct
      have once : ¬ rest.any (fun member => member.1 == first.1) = true := by
        intro again
        obtain ⟨member, inside, named⟩ := List.any_eq_true.mp again
        exact distinct.1 (List.mem_map.mpr ⟨member, inside, beq_iff_eq.mp named⟩)
      rw [settledMembers, if_neg once, ih distinct.2, List.map_cons]

theorem settled_object_iff : (object members).settled = object members ↔
    (members.map Prod.fst).Nodup ∧ ∀ member ∈ members, member.2.settled = member.2 := by
  have valuewise : (members.map fun member => (member.1, member.2.settled)) = members ↔
      ∀ member ∈ members, member.2.settled = member.2 := by
    rw [map_fixes_iff]
    simp only [Prod.ext_iff, true_and]
  rw [settled, object.injEq]
  constructor
  · intro same
    have distinct : (members.map Prod.fst).Nodup := by
      rw [← same]
      exact settled_names_distinct
    rw [settled_members_of_distinct distinct, valuewise] at same
    exact ⟨distinct, same⟩
  · rintro ⟨distinct, each⟩
    rw [settled_members_of_distinct distinct, valuewise]
    exact each

theorem settled_array_iff {items : List Json} : (array items).settled = array items ↔
    ∀ item ∈ items, item.settled = item := by
  rw [settled, array.injEq, settledItems_eq_map, map_fixes_iff]

end StyleAudit.Json
