import Mathlib.Data.List.Nodup
import StyleAudit.Proofs.Json.Fields
import StyleAudit.Proofs.Json.Settled

/-!
# Nulls dropped

One member that is null is dropped from a value, at any depth. A record whose fields take null for
nothing is read as before; only its fields are looked at for that, each by itself, since of all
fields at most one changes. Where a reader does take offence at a null, its place in the value can
be named.
-/

namespace StyleAudit.Json

set_option autoImplicit false

/-- The second value is the first one without one of its members that are null. -/
inductive NullDropped : Json → Json → Prop where
  | here (before after : List (String × Json)) (name : String) :
      NullDropped (.object (before ++ (name, .null) :: after)) (.object (before ++ after))
  | item (before after : List Json) {value thinned : Json} (inside : NullDropped value thinned) :
      NullDropped (.array (before ++ value :: after)) (.array (before ++ thinned :: after))
  | member (before after : List (String × Json)) (name : String) {value thinned : Json}
      (inside : NullDropped value thinned) :
      NullDropped (.object (before ++ (name, value) :: after))
        (.object (before ++ (name, thinned) :: after))

section Dropping

variable {value thinned : Json}

theorem settled_of_dropped (dropped : NullDropped value thinned)
    (distinct : value.settled = value) : thinned.settled = thinned := by
  induction dropped with
  | here before after name =>
      rw [settled_object_iff] at distinct ⊢
      have fewer : List.Sublist (before ++ after) (before ++ (name, .null) :: after) :=
        (List.sublist_cons_self _ after).append_left before
      exact ⟨distinct.1.sublist (fewer.map Prod.fst),
        fun member inside => distinct.2 member (fewer.subset inside)⟩
  | item before after _ ih =>
      rw [settled_array_iff] at distinct ⊢
      simp only [List.forall_mem_append, List.forall_mem_cons] at distinct ⊢
      exact ⟨distinct.1, ih distinct.2.1, distinct.2.2⟩
  | member before after name _ ih =>
      rw [settled_object_iff] at distinct ⊢
      simp only [List.forall_mem_append, List.forall_mem_cons, List.map_append,
        List.map_cons] at distinct ⊢
      exact ⟨distinct.1, distinct.2.1, ih distinct.2.2.1, distinct.2.2.2⟩

theorem skip_fault_of_dropped (dropped : NullDropped value thinned) :
    value.skipFault? = none ↔ thinned.skipFault? = none := by
  induction dropped with
  | here before after name =>
      change membersSkipFault? _ = none ↔ membersSkipFault? _ = none
      simp only [members_skip_fault_eq_none_iff, List.forall_mem_append, List.forall_mem_cons]
      exact and_congr_right fun _ => and_iff_right rfl
  | item before after _ ih =>
      change itemsSkipFault? _ = none ↔ itemsSkipFault? _ = none
      simp only [items_skip_fault_eq_none_iff, List.forall_mem_append, List.forall_mem_cons, ih]
  | member before after name _ ih =>
      change membersSkipFault? _ = none ↔ membersSkipFault? _ = none
      simp only [members_skip_fault_eq_none_iff, List.forall_mem_append, List.forall_mem_cons, ih]

end Dropping

/-- A null is dropped from a value in which no object repeats a name. -/
structure Thins (value thinned : Json) : Prop where
  distinct : value.settled = value
  dropped : NullDropped value thinned

/-- The null is one of the members, or it stands inside one of them. -/
inductive MembersThin : List (String × Json) → List (String × Json) → Prop where
  | dropped {before after : List (String × Json)} {name : String}
      (sole : ∀ member ∈ before ++ after, member.1 ≠ name) :
      MembersThin (before ++ (name, .null) :: after) (before ++ after)
  | inside {before after : List (String × Json)} {name : String} {value thinned : Json}
      (sole : ∀ member ∈ before ++ after, member.1 ≠ name) (thins : Thins value thinned) :
      MembersThin (before ++ (name, value) :: after) (before ++ (name, thinned) :: after)

inductive ThinShape : Json → Json → Prop where
  | object {members thinned : List (String × Json)} (thin : MembersThin members thinned) :
      ThinShape (.object members) (.object thinned)
  | array {before after : List Json} {value thinned : Json} (thins : Thins value thinned) :
      ThinShape (.array (before ++ value :: after)) (.array (before ++ thinned :: after))

theorem Thins.shape {value thinned : Json} (thins : Thins value thinned) :
    ThinShape value thinned := by
  obtain ⟨distinct, dropped⟩ := thins
  have alone {before after : List (String × Json)} {name : String} {held : Json}
      (names : ((before ++ (name, held) :: after).map Prod.fst).Nodup) :
      ∀ member ∈ before ++ after, member.1 ≠ name := by
    rintro member inside rfl
    rw [List.map_append, List.map_cons, List.nodup_middle, List.nodup_cons,
      ← List.map_append] at names
    exact names.1 (List.mem_map.mpr ⟨member, inside, rfl⟩)
  cases dropped with
  | here before after name =>
      exact .object (.dropped (alone (settled_object_iff.mp distinct).1))
  | item before after inside =>
      have own := settled_array_iff.mp distinct _ (List.mem_append_right _ List.mem_cons_self)
      exact .array ⟨own, inside⟩
  | member before after name inside =>
      obtain ⟨names, each⟩ := settled_object_iff.mp distinct
      have own := each _ (List.mem_append_right _ List.mem_cons_self)
      exact .object (.inside (alone names) ⟨own, inside⟩)

/-- The values differ in the member of a name, or in the item that stands for it in the array of the
fields, and there in the way told. -/
inductive InField (names : List String) (name : String) (P : Json → Json → Prop) :
    Json → Json → Prop where
  | member (before after : List (String × Json)) {value thinned : Json} (holds : P value thinned) :
      InField names name P (.object (before ++ (name, value) :: after))
        (.object (before ++ (name, thinned) :: after))
  | item (before after : List Json) {value thinned : Json}
      (place : names.idxOf name = before.length) (holds : P value thinned) :
      InField names name P (.array (before ++ value :: after)) (.array (before ++ thinned :: after))

inductive InItems (P : Json → Json → Prop) : Json → Json → Prop where
  | item (before after : List Json) {value thinned : Json} (holds : P value thinned) :
      InItems P (.array (before ++ value :: after)) (.array (before ++ thinned :: after))

/-- The null that is dropped is the member of a name. -/
inductive FieldDropped (name : String) : Json → Json → Prop where
  | here (before after : List (String × Json)) : FieldDropped name
      (.object (before ++ (name, .null) :: after)) (.object (before ++ after))

/-- What becomes of the values given for a field: nothing, or the only one is the null that is
dropped, or the only one is thinned itself. -/
inductive FieldThins (names : List String) (name : String) (value thinned : Json) :
    List Json → List Json → Prop where
  | same (held : List Json) : FieldThins names name value thinned held held
  | dropped (place : FieldDropped name value thinned) :
      FieldThins names name value thinned [.null] []
  | inside {held other : Json} (thins : Thins held other)
      (place : ∀ P : Json → Json → Prop, P held other → InField names name P value thinned) :
      FieldThins names name value thinned [held] [other]

section Fields

variable {name : String} {members fewer : List (String × Json)}

theorem last_member_eq_last_value :
    lastMember? name members = (valuesOf name members).getLast? := by
  rw [lastMember?, valuesOf, List.getLast?_map, ← List.head?_filter, List.filter_reverse,
    List.head?_reverse]

private theorem values_of_absent (absent : ∀ member ∈ members, member.1 ≠ name) :
    valuesOf name members = [] := by
  rw [valuesOf, List.map_eq_nil_iff, List.filter_eq_nil_iff]
  intro member inside same
  exact absent member inside (beq_iff_eq.mp same)

private theorem values_in_sole {before after : List (String × Json)} {value : Json}
    (sole : ∀ member ∈ before ++ after, member.1 ≠ name) :
    valuesOf name (before ++ (name, value) :: after) = [value] := by
  obtain ⟨first, last⟩ := List.forall_mem_append.mp sole
  rw [Fields.values_of_hole, values_of_absent first, values_of_absent last, List.nil_append]

theorem members_field_thins (names : List String) (thin : MembersThin members fewer)
    (name : String) :
    FieldThins names name (.object members) (.object fewer) (valuesOf name members)
      (valuesOf name fewer) := by
  cases thin with
  | @dropped before after other sole =>
      by_cases same : other = name
      · subst same
        rw [values_in_sole sole, values_of_absent sole]
        exact .dropped (.here before after)
      · rw [Fields.values_beside_hole same]
        exact .same _
  | @inside before after other value thinned sole thins =>
      by_cases same : other = name
      · subst same
        rw [values_in_sole sole, values_in_sole sole]
        exact .inside thins fun P holds => .member before after holds
      · rw [Fields.values_beside_hole same, Fields.values_beside_hole same]
        exact .same _

theorem items_field_thins (names : List String) {before after : List Json} {value thinned : Json}
    (thins : Thins value thinned) (name : String) :
    FieldThins names name (.array (before ++ value :: after)) (.array (before ++ thinned :: after))
      (before ++ value :: after)[names.idxOf name]?.toList
      (before ++ thinned :: after)[names.idxOf name]?.toList := by
  rcases Nat.lt_trichotomy (names.idxOf name) before.length with early | here | late
  · rw [List.getElem?_append_left early, List.getElem?_append_left early]
    exact .same _
  · rw [List.getElem?_append_right (Nat.le_of_eq here.symm),
      List.getElem?_append_right (Nat.le_of_eq here.symm), here, Nat.sub_self]
    exact .inside thins fun P holds => .item before after here holds
  · obtain ⟨place, behind⟩ := Nat.exists_eq_add_of_lt late
    have further : names.idxOf name - before.length = place + 1 := by omega
    rw [List.getElem?_append_right (Nat.le_of_lt late),
      List.getElem?_append_right (Nat.le_of_lt late), further]
    exact .same _

end Fields

section Readers

variable {α : Type} {value thinned : Json}

/-- Both values are read alike, if they are read at all. -/
def Agrees (reader : Json → Except ReadError α) (value thinned : Json) : Prop :=
  ∀ a, reader value = .ok a ↔ reader thinned = .ok a

theorem Agrees.to_option {reader : Json → Except ReadError α}
    (agrees : Agrees reader value thinned) :
    (reader value).toOption = (reader thinned).toOption := by
  cases read : reader value with
  | ok a => rw [(agrees a).mp read]
  | error e =>
      cases also : reader thinned with
      | ok a => cases read.symm.trans ((agrees a).mpr also)
      | error other => rfl

theorem field_agrees {names : List String} {name : String} {fields fewer : Fields} (default : α)
    {reader : Json → Except ReadError α} {P : Json → Json → Prop}
    (field : FieldThins names name value thinned (fields.values name) (fewer.values name))
    (absent : FieldDropped name value thinned → reader .null = .ok default)
    (inner : ∀ held other, Thins held other → Agrees reader held other ∨ P held other)
    (sound : ¬ InField names name P value thinned) (a : α) :
    fields.defaulted name default reader = .ok a ↔
      fewer.defaulted name default reader = .ok a := by
  have of_none : Fields.ReadAs reader (.ok default) a [] ↔ default = a := by
    simp [Fields.ReadAs]
  have of_one (held : Json) :
      Fields.ReadAs reader (.ok default) a [held] ↔ reader held = .ok a := by
    simp [Fields.ReadAs]
  rw [Fields.defaulted_eq_ok_iff, Fields.defaulted_eq_ok_iff]
  generalize fields.values name = held at field
  generalize fewer.values name = other at field
  cases field with
  | same held => rfl
  | dropped place => rw [of_none, of_one, absent place, Except.ok.injEq]
  | inside thins place =>
      rw [of_one, of_one]
      exact (inner _ _ thins).resolve_right (fun lost => sound (place P lost)) a

theorem in_no_field {names : List String} {name : String} :
    ¬ InField names name (fun _ _ => False) value thinned := by
  intro lost
  cases lost <;> assumption

private theorem others_sound_iff {names : List String} {members fewer : List (String × Json)}
    (thin : MembersThin members fewer) :
    (∀ member ∈ members, member.1 ∉ names → member.2.skipFault? = none) ↔
      ∀ member ∈ fewer, member.1 ∉ names → member.2.skipFault? = none := by
  cases thin with
  | dropped sole =>
      simp only [List.forall_mem_append, List.forall_mem_cons]
      exact and_congr_right fun _ => and_iff_right fun _ => rfl
  | inside sole thins =>
      simp only [List.forall_mem_append, List.forall_mem_cons, skip_fault_of_dropped thins.dropped]

theorem record_agrees {record : String} {names : List String} {build : Fields → Placed α}
    (thins : Thins value thinned)
    (alike : ∀ fields fewer : Fields,
      (∀ name, FieldThins names name value thinned (fields.values name) (fewer.values name)) →
        ∀ a, build fields = .ok a ↔ build fewer = .ok a) :
    Agrees (readRecord record names build) value thinned := by
  intro a
  rw [read_record_iff, read_record_iff]
  cases thins.shape with
  | @object members fewer thin =>
      have built := alike (.ofObject names members) (.ofObject names fewer)
        (members_field_thins names thin) a
      constructor
      · rintro ⟨_, given, read⟩
        cases given with
        | object sound => exact ⟨_, .object ((others_sound_iff thin).mp sound), built.mp read⟩
      · rintro ⟨_, given, read⟩
        cases given with
        | object sound => exact ⟨_, .object ((others_sound_iff thin).mpr sound), built.mpr read⟩
  | @array before after held other inside =>
      have built := alike (.ofArray record names (before ++ held :: after))
        (.ofArray record names (before ++ other :: after)) (items_field_thins names inside) a
      have lengths : (before ++ held :: after).length = (before ++ other :: after).length := by
        simp
      constructor
      · rintro ⟨_, given, read⟩
        cases given with
        | array short => exact ⟨_, .array (lengths ▸ short), built.mp read⟩
      · rintro ⟨_, given, read⟩
        cases given with
        | array short => exact ⟨_, .array (lengths ▸ short), built.mpr read⟩

theorem Thins.ne_null (thins : Thins value thinned) : value ≠ .null ∧ thinned ≠ .null := by
  cases thins.shape with
  | object thin => exact ⟨nofun, nofun⟩
  | array thins => exact ⟨nofun, nofun⟩

theorem text_agrees (thins : Thins value thinned) : Agrees readText value thinned := by
  intro a
  rw [read_text_iff, read_text_iff]
  cases thins.shape with
  | object thin => exact ⟨nofun, nofun⟩
  | array thins => exact ⟨nofun, nofun⟩

theorem word_agrees (thins : Thins value thinned) : Agrees readWord32 value thinned := by
  intro a
  cases thins.shape with
  | object thin => exact ⟨nofun, nofun⟩
  | array thins => exact ⟨nofun, nofun⟩

theorem nullable_agrees {reader : Json → Except ReadError α} (thins : Thins value thinned)
    (inner : Agrees reader value thinned) : Agrees (readNullable reader) value thinned := by
  intro held
  obtain ⟨present, still⟩ := thins.ne_null
  simp only [read_nullable_iff, present, still, false_and, false_or, inner _, ne_eq,
    not_false_eq_true]

theorem null_as_agrees {reader : Json → Except ReadError α} {default : α}
    (thins : Thins value thinned) (inner : Agrees reader value thinned) :
    Agrees (readNullAs default reader) value thinned := by
  intro a
  cases thins.shape with
  | object thin => exact inner a
  | array thins => exact inner a

theorem nullable_field_agrees {names : List String} {name : String} {fields fewer : Fields}
    {reader : Json → Except ReadError α} {P : Json → Json → Prop}
    (field : FieldThins names name value thinned (fields.values name) (fewer.values name))
    (inner : ∀ held other, Thins held other → Agrees reader held other ∨ P held other)
    (sound : ¬ InField names name P value thinned) (held : Option α) :
    fields.defaulted name none (readNullable reader) = .ok held ↔
      fewer.defaulted name none (readNullable reader) = .ok held := by
  have absent : FieldDropped name value thinned → readNullable reader .null = .ok none :=
    fun _ => rfl
  exact field_agrees _ field absent
    (fun held other thins => (inner held other thins).imp (nullable_agrees thins) id) sound held

theorem null_as_field_agrees {names : List String} {name : String} {fields fewer : Fields}
    (default : α) {reader : Json → Except ReadError α} {P : Json → Json → Prop}
    (field : FieldThins names name value thinned (fields.values name) (fewer.values name))
    (inner : ∀ held other, Thins held other → Agrees reader held other ∨ P held other)
    (sound : ¬ InField names name P value thinned) (a : α) :
    fields.defaulted name default (readNullAs default reader) = .ok a ↔
      fewer.defaulted name default (readNullAs default reader) = .ok a := by
  have absent : FieldDropped name value thinned → readNullAs default reader .null = .ok default :=
    fun _ => rfl
  exact field_agrees _ field absent
    (fun held other thins => (inner held other thins).imp (null_as_agrees thins) id) sound a

private theorem each_in_place_iff {β : Type} {R : Json → β → Prop} {before after : List Json}
    {held other : Json} {values : List β} (same : ∀ b, R held b ↔ R other b) :
    List.Forall₂ R (before ++ held :: after) values ↔
      List.Forall₂ R (before ++ other :: after) values := by
  induction before generalizing values with
  | nil => simp only [List.nil_append, List.forall₂_cons_left_iff, same]
  | cons first rest ih => simp only [List.cons_append, List.forall₂_cons_left_iff, ih]

theorem list_agrees {reader : Json → Except ReadError α} {P : Json → Json → Prop}
    (each : ∀ held other, Thins held other → Agrees reader held other ∨ P held other)
    (thins : Thins value thinned) :
    Agrees (readList reader) value thinned ∨ InItems P value thinned := by
  cases thins.shape with
  | object thin => exact .inl fun a => ⟨nofun, nofun⟩
  | @array before after held other inside =>
      rcases each _ _ inside with same | lost
      · refine .inl fun values => ?_
        change List.mapM reader _ = .ok values ↔ List.mapM reader _ = .ok values
        rw [map_m_eq_ok_iff, map_m_eq_ok_iff]
        exact each_in_place_iff same
      · exact .inr (.item before after lost)

theorem texts_agree (thins : Thins value thinned) :
    Agrees (readList readText) value thinned := by
  have nowhere : ¬ InItems (fun _ _ => False) value thinned := by
    intro lost
    cases lost
    assumption
  exact (list_agrees (fun _ _ thins => .inl (text_agrees thins)) thins).resolve_right nowhere

end Readers

section Refusals

variable {α : Type} {reader : Json → Except ReadError α} {P : Json → Json → Prop}
  {names : List String} {name : String} {value thinned : Json}

def Refuses (reader : Json → Except ReadError α) (value : Json) : Prop :=
  ∀ a, reader value ≠ .ok a

theorem Refuses.to_option (refuses : Refuses reader value) : (reader value).toOption = none := by
  cases read : reader value with
  | ok a => exact absurd read (refuses a)
  | error e => rfl

theorem field_refuses {record : String} {fields : Fields} {default : α}
    (lost : InField names name P value thinned) (given : Gives record names value fields)
    (refuses : ∀ held other, P held other → Refuses reader held) (a : α) :
    fields.defaulted name default reader ≠ .ok a := by
  rw [Ne, Fields.defaulted_eq_ok_iff]
  cases lost with
  | member before after holds =>
      cases given with
      | object sound =>
          rintro (⟨nothing, _⟩ | ⟨held, sole, read⟩)
          · rw [Fields.values, Fields.values_of_hole] at nothing
            cases (List.append_eq_nil_iff.mp nothing).2
          · obtain ⟨rfl, _⟩ := Fields.sole_in_hole sole .null
            exact refuses _ _ holds a read
  | item before after place holds =>
      cases given with
      | array short =>
          rw [Fields.values, place, List.getElem?_append_right (Nat.le_refl _), Nat.sub_self]
          rintro (⟨nothing, _⟩ | ⟨held, sole, read⟩)
          · cases nothing
          · cases sole
            exact refuses _ _ holds a read

theorem null_field_refuses {record : String} {fields : Fields} {default : α}
    (lost : FieldDropped name value thinned) (given : Gives record names value fields)
    (refuses : Refuses reader .null) (a : α) : fields.defaulted name default reader ≠ .ok a := by
  cases lost with
  | here before after =>
      have lost : InField names name (fun held _ => held = .null)
          (.object (before ++ (name, .null) :: after))
          (.object (before ++ (name, .null) :: after)) := .member before after rfl
      refine field_refuses lost given ?_ a
      rintro held other rfl
      exact refuses

theorem nullable_refuses (present : value ≠ .null) (refuses : Refuses reader value) :
    Refuses (readNullable reader) value := by
  intro held read
  rcases read_nullable_iff.mp read with ⟨null, _⟩ | ⟨_, a, read, _⟩
  · exact present null
  · exact refuses a read

theorem null_as_refuses {default : α} (present : value ≠ .null) (refuses : Refuses reader value) :
    Refuses (readNullAs default reader) value := by
  intro a
  rw [readNullAs]
  · exact refuses a
  · exact present

theorem list_refuses (lost : InItems P value thinned)
    (refuses : ∀ held other, P held other → Refuses reader held) :
    Refuses (readList reader) value := by
  cases lost with
  | @item before after held other holds =>
      intro values read
      obtain ⟨items, same, each⟩ := read_list_iff.mp read
      cases same
      induction before generalizing values with
      | nil =>
          cases each with
          | cons first rest => exact refuses _ _ holds _ first
      | cons item before ih =>
          cases each with
          | cons first rest => exact ih _ (read_list_iff.mpr ⟨_, rfl, rest⟩) rest

end Refusals

end StyleAudit.Json
