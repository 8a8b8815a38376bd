import StyleAudit.Json.Basic

/-!
# Values without a fault

A value can be held if nothing in it has a fault. Such a value can be skipped over as well, and it
can still be held when its objects keep only the members that count. A text can only give it if
there is room for its arrays and objects.
-/

namespace StyleAudit.Json

set_option autoImplicit false

variable {items : List Json} {members : List (String × Json)}

theorem items_fault_eq_none_iff :
    itemsFault? items = none ↔ ∀ item ∈ items, item.fault? = none := by
  induction items with
  | nil => simp [itemsFault?]
  | cons item rest ih => rw [itemsFault?, Option.or_eq_none_iff, ih, List.forall_mem_cons]

theorem members_fault_eq_none_iff :
    membersFault? members = none ↔ ∀ member ∈ members, member.2.fault? = none := by
  induction members with
  | nil => simp [membersFault?]
  | cons member rest ih => rw [membersFault?, Option.or_eq_none_iff, ih, List.forall_mem_cons]

theorem items_skip_fault_eq_none_iff :
    itemsSkipFault? items = none ↔ ∀ item ∈ items, item.skipFault? = none := by
  induction items with
  | nil => simp [itemsSkipFault?]
  | cons item rest ih => rw [itemsSkipFault?, Option.or_eq_none_iff, ih, List.forall_mem_cons]

theorem members_skip_fault_eq_none_iff :
    membersSkipFault? members = none ↔ ∀ member ∈ members, member.2.skipFault? = none := by
  induction members with
  | nil => simp [membersSkipFault?]
  | cons member rest ih =>
      rw [membersSkipFault?, Option.or_eq_none_iff, ih, List.forall_mem_cons]

theorem fault_of_array : (array items).fault? = none ↔ ∀ item ∈ items, item.fault? = none :=
  items_fault_eq_none_iff

theorem fault_of_object :
    (object members).fault? = none ↔ ∀ member ∈ members, member.2.fault? = none :=
  members_fault_eq_none_iff

mutual

theorem skip_fault_of_fault (value : Json) (held : value.fault? = none) :
    value.skipFault? = none :=
  match value with
  | null => rfl
  | bool _ => rfl
  | number _ => rfl
  | text _ => rfl
  | array items => items_skip_fault_of_fault items held
  | object members => members_skip_fault_of_fault members held
  | unread _ => nomatch held
  | flawed _ => nomatch held

theorem items_skip_fault_of_fault (items : List Json) (held : itemsFault? items = none) :
    itemsSkipFault? items = none :=
  match items with
  | [] => rfl
  | item :: rest => by
    rw [itemsFault?, Option.or_eq_none_iff] at held
    rw [itemsSkipFault?, skip_fault_of_fault item held.1, Option.none_or]
    exact items_skip_fault_of_fault rest held.2

theorem members_skip_fault_of_fault (members : List (String × Json))
    (held : membersFault? members = none) : membersSkipFault? members = none :=
  match members with
  | [] => rfl
  | (name, value) :: rest => by
    rw [membersFault?, Option.or_eq_none_iff] at held
    rw [membersSkipFault?, skip_fault_of_fault value held.1, Option.none_or]
    exact members_skip_fault_of_fault rest held.2

end

/-- The value is as JSON has it, and its arrays and objects are nested no deeper than the room. -/
inductive Held : Nat → Json → Prop where
  | null {room : Nat} : Held room .null
  | bool {room : Nat} (b : Bool) : Held room (.bool b)
  | number {room : Nat} (n : Number) : Held room (.number n)
  | text {room : Nat} (s : String) : Held room (.text s)
  | array {room : Nat} {items : List Json} (each : ∀ item ∈ items, Held room item) :
      Held (room + 1) (.array items)
  | object {room : Nat} {members : List (String × Json)}
      (each : ∀ member ∈ members, Held room member.2) : Held (room + 1) (.object members)

theorem fault_of_held {room : Nat} {value : Json} (held : Held room value) :
    value.fault? = none := by
  induction held with
  | null => rfl
  | bool b => rfl
  | number n => rfl
  | text s => rfl
  | array _ each => exact fault_of_array.mpr each
  | object _ each => exact fault_of_object.mpr each

end StyleAudit.Json
