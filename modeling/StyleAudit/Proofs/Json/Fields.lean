import Mathlib.Data.List.Forall2
import StyleAudit.Proofs.Json.Record

/-!
# When a record is read

A record is read exactly if each of its fields is. A field stands for the values given for it: the
members of its name in an object, or the item at its place in an array. What is given twice is not
read, and what is given once is read as it would be alone. What stands beside the fields only has to
be well formed, and an array must end with them.
-/

namespace StyleAudit.Json

set_option autoImplicit false

variable {α β : Type}

section Values

variable {reader : Json → Except ReadError α} {json : Json}

theorem read_text_iff {s : String} : readText json = .ok s ↔ json = .text s := by
  constructor
  · intro read
    match json, read with
    | .text _, read => rw [Except.ok.inj read]
  · rintro rfl
    rfl

theorem read_nullable_iff {held : Option α} : readNullable reader json = .ok held ↔
    (json = .null ∧ held = none) ∨ json ≠ .null ∧ ∃ a, reader json = .ok a ∧ held = some a := by
  by_cases null : json = .null
  · subst null
    simp [readNullable, eq_comm]
  · rw [readNullable]
    · cases reader json with
      | ok a => simp [null, Except.map, eq_comm]
      | error e => simp [null, Except.map]
    · exact null

theorem map_m_eq_ok_iff {ε : Type} {reader : α → Except ε β} {items : List α} {values : List β} :
    items.mapM reader = .ok values ↔
      List.Forall₂ (fun item value => reader item = .ok value) items values := by
  induction items generalizing values with
  | nil =>
      rw [List.mapM_nil, List.forall₂_nil_left_iff]
      exact ⟨fun same => (Except.ok.inj same).symm, fun same => congrArg Except.ok same.symm⟩
  | cons item rest ih =>
      rw [List.mapM_cons, List.forall₂_cons_left_iff]
      constructor
      · intro mapped
        cases first : reader item with
        | error e =>
            rw [first] at mapped
            cases mapped
        | ok value =>
            cases others : rest.mapM reader with
            | error e =>
                rw [first, others] at mapped
                cases mapped
            | ok more =>
                rw [first, others] at mapped
                exact ⟨value, more, rfl, ih.mp others, (Except.ok.inj mapped).symm⟩
      · rintro ⟨value, more, first, others, rfl⟩
        rw [first, ih.mpr others]
        rfl

theorem read_list_iff {values : List α} : readList reader json = .ok values ↔
    ∃ items, json = .array items ∧
      List.Forall₂ (fun item value => reader item = .ok value) items values := by
  constructor
  · intro read
    match json, read with
    | .array items, read => exact ⟨items, rfl, map_m_eq_ok_iff.mp read⟩
  · rintro ⟨items, rfl, each⟩
    exact map_m_eq_ok_iff.mpr each

theorem read_mapping_iff {m : Keyed α} : readMapping reader json = .ok m ↔
    ∃ members entries, json = .object members ∧ m = Keyed.ofList entries ∧
      List.Forall₂ (fun member entry => reader member.2 = .ok entry.2 ∧ entry.1 = member.1)
        members entries := by
  have each (member : String × Json) (entry : String × α) :
      ((reader member.2).map fun a => (member.1, a)) = .ok entry ↔
        reader member.2 = .ok entry.2 ∧ entry.1 = member.1 := by
    cases reader member.2 with
    | error e => simp [Except.map]
    | ok a => simp [Except.map, Prod.ext_iff, and_comm, eq_comm]
  constructor
  · intro read
    match json, read with
    | .object members, read =>
      rw [readMapping] at read
      cases mapped : members.mapM fun member => (reader member.2).map fun a => (member.1, a) with
      | error e =>
          rw [mapped] at read
          cases read
      | ok entries =>
          rw [mapped] at read
          refine ⟨members, entries, rfl, (Except.ok.inj read).symm, ?_⟩
          exact (map_m_eq_ok_iff.mp mapped).imp fun member entry => (each member entry).mp
  · rintro ⟨members, entries, rfl, rfl, read⟩
    have mapped := map_m_eq_ok_iff.mpr (read.imp fun member entry => (each member entry).mpr)
    rw [readMapping, mapped]
    rfl

end Values

namespace Placed

variable {f : α → β} {parts : Placed (α → β)} {part : Placed α} {a : α} {b : β} {place : Nat}

theorem map_eq_ok_iff : f <$> part = .ok b ↔ ∃ a, part = .ok a ∧ f a = b := by
  cases part with
  | ok a =>
      constructor
      · intro mapped
        exact ⟨a, rfl, Except.ok.inj mapped⟩
      · rintro ⟨_, same, rfl⟩
        cases same
        rfl
  | error e =>
      constructor
      · intro mapped
        cases mapped
      · rintro ⟨_, same, _⟩
        cases same

theorem seq_eq_ok_iff :
    parts <*> part = .ok b ↔ ∃ f, parts = .ok f ∧ ∃ a, part = .ok a ∧ f a = b := by
  constructor
  · intro both
    cases parts with
    | ok f =>
        cases part with
        | ok a => exact ⟨f, rfl, a, rfl, Except.ok.inj both⟩
        | error e => cases both
    | error e =>
        cases part with
        | ok a => cases both
        | error e => cases both
  · rintro ⟨f, ofParts, a, ofPart, rfl⟩
    exact seq_ok ofParts ofPart

theorem get_eq_ok_iff : part.get = .ok a ↔ part = .ok a := by
  cases part with
  | ok other =>
      constructor
      · intro same
        cases same
        rfl
      · intro same
        cases same
        rfl
  | error e => exact ⟨nofun, nofun⟩

theorem at_place_eq_ok_iff {reading : Except ReadError α} :
    atPlace place reading = .ok a ↔ reading = .ok a := by
  cases reading with
  | ok other =>
      constructor
      · intro same
        cases same
        rfl
      · intro same
        cases same
        rfl
  | error e => exact ⟨nofun, nofun⟩

end Placed

namespace Fields

variable {fields : Fields} {names : List String} {members : List (String × Json)} {name : String}
  {reader : Json → Except ReadError α} {noMember noItem : Except ReadError α} {a default : α}

/-- The values given for a field. -/
def values (fields : Fields) (name : String) : List Json :=
  match fields with
  | ofObject _ members => valuesOf name members
  | ofArray _ names items => items[names.idxOf name]?.toList

/-- What a field is read as if nothing is given for it. -/
def unheld (fields : Fields) (noMember noItem : Except ReadError α) : Except ReadError α :=
  match fields with
  | ofObject _ _ => noMember
  | ofArray _ _ _ => noItem

/-- The values are read as the field: one value by the reader, none by what stands for it. -/
def ReadAs (reader : Json → Except ReadError α) (none : Except ReadError α) (a : α)
    (values : List Json) : Prop :=
  (values = [] ∧ none = .ok a) ∨ ∃ value, values = [value] ∧ reader value = .ok a

private theorem occurrences_read_iff (place : Nat) (found : List (Nat × Json)) :
    (match found with
      | [] => Placed.atPlace place noMember
      | [(place, value)] => Placed.atPlace place (reader value)
      | (place, value) :: (again, _) :: _ =>
        match reader value with
        | .ok _ => Placed.fail again (.mismatch (.duplicateField name))
        | .error e => Placed.fail place e) = Placed.ok a ↔
      ReadAs reader noMember a (found.map Prod.snd) := by
  match found with
  | [] => simp [Placed.at_place_eq_ok_iff, ReadAs]
  | [(place, value)] => simp [Placed.at_place_eq_ok_iff, ReadAs]
  | (place, value) :: (again, other) :: rest =>
    have failed : ¬ ReadAs reader noMember a
        (((place, value) :: (again, other) :: rest).map Prod.snd) := by
      simp [ReadAs]
    refine ⟨fun read => ?_, fun read => absurd read failed⟩
    dsimp only at read
    split at read
    · cases read
    · cases read

theorem read_eq_ok_iff : fields.read name reader noMember noItem = .ok a ↔
    ReadAs reader (fields.unheld noMember noItem) a (fields.values name) := by
  cases fields with
  | ofObject names members =>
      rw [values, ← occurrences_values, read]
      exact occurrences_read_iff _ _
  | ofArray record names items =>
      rw [values, unheld, read]
      cases held : items[names.idxOf name]? with
      | none => simp [Placed.at_place_eq_ok_iff, ReadAs]
      | some value => simp [Placed.at_place_eq_ok_iff, ReadAs]

theorem required_eq_ok_iff : fields.required name reader = .ok a ↔
    ∃ value, fields.values name = [value] ∧ reader value = .ok a := by
  rw [required, read_eq_ok_iff]
  cases fields with
  | ofObject names members => simp [ReadAs, unheld]
  | ofArray record names items => simp [ReadAs, unheld]

theorem defaulted_eq_ok_iff : fields.defaulted name default reader = .ok a ↔
    ReadAs reader (.ok default) a (fields.values name) := by
  rw [defaulted, read_eq_ok_iff]
  cases fields with
  | ofObject names members => rfl
  | ofArray record names items => rfl

theorem leftover_of_object_iff {memberFault? : Json → Option Fault} :
    (ofObject names members).leftover memberFault? = .ok () ↔
      ∀ member ∈ members, member.1 ∉ names → memberFault? member.2 = none := by
  have places : (members.zipIdx.filterMap fun entry =>
      if names.contains entry.1.1 then none
      else (memberFault? entry.1.2).map fun fault => (entry.2, fault)) = [] ↔
        ∀ member ∈ members, member.1 ∉ names → memberFault? member.2 = none := by
    rw [List.filterMap_eq_nil_iff]
    constructor
    · intro nothing member inside foreign
      rw [← List.zipIdx_map_fst 0 members] at inside
      obtain ⟨entry, there, rfl⟩ := List.mem_map.mp inside
      simpa [foreign] using nothing entry there
    · intro sound entry there
      by_cases own : entry.1.1 ∈ names
      · simp [own]
      · simp [sound entry.1 (List.fst_mem_of_mem_zipIdx there) own]
  rw [leftover, ← places]
  generalize (members.zipIdx.filterMap _) = faults
  cases faults with
  | nil => exact ⟨fun _ => rfl, fun _ => rfl⟩
  | cons fault rest =>
      constructor
      · intro fails
        cases fails
      · intro empty
        cases empty

theorem leftover_of_array_iff {record : String} {items : List Json}
    {memberFault? : Json → Option Fault} :
    (ofArray record names items).leftover memberFault? = .ok () ↔ items.length ≤ names.length := by
  rw [← List.drop_eq_nil_iff, leftover]
  cases items.drop names.length with
  | nil => exact ⟨fun _ => rfl, fun _ => rfl⟩
  | cons item rest =>
      constructor
      · intro fails
        cases fails
      · intro empty
        cases empty

section Hole

variable {other : String} {value : Json} {before after : List (String × Json)}

theorem values_beside_hole (apart : other ≠ name) :
    valuesOf name (before ++ (other, value) :: after) = valuesOf name (before ++ after) := by
  rw [values_append, values_cons, if_neg apart, values_append]

theorem values_of_hole :
    valuesOf name (before ++ (name, value) :: after) =
      valuesOf name before ++ value :: valuesOf name after := by
  rw [values_append, values_cons, if_pos rfl]

theorem sole_in_hole {held : Json}
    (sole : valuesOf name (before ++ (name, value) :: after) = [held])
    (replaced : Json) : held = value ∧
      valuesOf name (before ++ (name, replaced) :: after) = [replaced] := by
  rw [values_of_hole] at sole ⊢
  rcases List.append_eq_singleton_iff.mp sole with ⟨first, rest⟩ | ⟨first, rest⟩
  · obtain ⟨rfl, last⟩ := List.cons.inj rest
    exact ⟨rfl, by rw [first, last, List.nil_append]⟩
  · cases rest

end Hole

end Fields

/-- The value has the fields of a record: as members of an object, beside which all is well formed,
or as the items of an array, behind which there is nothing. -/
inductive Gives (record : String) (names : List String) : Json → Fields → Prop where
  | object {members : List (String × Json)}
      (sound : ∀ member ∈ members, member.1 ∉ names → member.2.skipFault? = none) :
      Gives record names (.object members) (.ofObject names members)
  | array {items : List Json} (short : items.length ≤ names.length) :
      Gives record names (.array items) (.ofArray record names items)

section Records

variable {record : String} {names : List String} {build : Fields → Placed α} {json : Json}
  {members : List (String × Json)} {a : α}

private theorem built_beside_iff {part : Placed α} {leftover : Placed Unit} :
    ((fun a _ => a) <$> part <*> leftover).get = .ok a ↔ part = .ok a ∧ leftover = .ok () := by
  rw [Placed.get_eq_ok_iff, Placed.seq_eq_ok_iff]
  constructor
  · rintro ⟨f, mapped, beside, nothing, rfl⟩
    obtain ⟨a, built, rfl⟩ := Placed.map_eq_ok_iff.mp mapped
    exact ⟨built, nothing⟩
  · rintro ⟨built, nothing⟩
    exact ⟨_, Placed.map_ok built, (), nothing, rfl⟩

theorem read_record_iff : readRecord record names build json = .ok a ↔
    ∃ fields, Gives record names json fields ∧ build fields = .ok a := by
  constructor
  · intro read
    match json, read with
    | .object members, read =>
      obtain ⟨built, nothing⟩ := built_beside_iff.mp read
      exact ⟨_, .object (Fields.leftover_of_object_iff.mp nothing), built⟩
    | .array items, read =>
      obtain ⟨built, nothing⟩ := built_beside_iff.mp read
      exact ⟨_, .array (Fields.leftover_of_array_iff.mp nothing), built⟩
  · rintro ⟨fields, given, built⟩
    cases given with
    | object sound =>
        exact built_beside_iff.mpr ⟨built, Fields.leftover_of_object_iff.mpr sound⟩
    | array short =>
        exact built_beside_iff.mpr ⟨built, Fields.leftover_of_array_iff.mpr short⟩

theorem read_spread_record_iff : readSpreadRecord record names build json = .ok a ↔
    ∃ members, json = .object members ∧
      (∀ member ∈ members, member.1 ∉ names → member.2.fault? = none) ∧
        build (.ofObject names members) = .ok a := by
  constructor
  · intro read
    match json, read with
    | .object members, read =>
      obtain ⟨built, nothing⟩ := built_beside_iff.mp read
      exact ⟨members, rfl, Fields.leftover_of_object_iff.mp nothing, built⟩
  · rintro ⟨members, rfl, sound, built⟩
    exact built_beside_iff.mpr ⟨built, Fields.leftover_of_object_iff.mpr sound⟩

/-- The last field of a record is filled anew, and the other fields do not look at it. -/
theorem read_record_refilled {name : String} {reader : Json → Except ReadError α}
    {before after : List (String × Json)} {value : Json} {b : β}
    (parts : Fields → Placed (α → β)) (own : name ∈ names)
    (apart : ∀ (held replaced : Json) f,
      parts (.ofObject names (before ++ (name, held) :: after)) = .ok f →
        parts (.ofObject names (before ++ (name, replaced) :: after)) = .ok f)
    (read : readRecord record names (fun fields => parts fields <*> fields.required name reader)
      (.object (before ++ (name, value) :: after)) = .ok b) :
    ∃ f a, parts (.ofObject names (before ++ (name, value) :: after)) = .ok f ∧
      reader value = .ok a ∧ b = f a ∧ ∀ replaced other, reader replaced = .ok other →
        readRecord record names (fun fields => parts fields <*> fields.required name reader)
          (.object (before ++ (name, replaced) :: after)) = .ok (f other) := by
  obtain ⟨fields, given, built⟩ := read_record_iff.mp read
  cases given with
  | object sound =>
      obtain ⟨f, others, a, required, rfl⟩ := Placed.seq_eq_ok_iff.mp built
      obtain ⟨held, sole, readHeld⟩ := Fields.required_eq_ok_iff.mp required
      obtain ⟨rfl, _⟩ := Fields.sole_in_hole sole .null
      refine ⟨f, a, others, readHeld, rfl, fun replaced other readReplaced => ?_⟩
      refine read_record_iff.mpr ⟨_, .object ?_, Placed.seq_eq_ok_iff.mpr ⟨f, apart _ _ f others,
        other, Fields.required_eq_ok_iff.mpr ⟨replaced, (Fields.sole_in_hole sole replaced).2,
          readReplaced⟩, rfl⟩⟩
      intro member inside foreign
      rcases List.mem_append.mp inside with first | rest
      · exact sound member (List.mem_append_left _ first) foreign
      · rcases List.mem_cons.mp rest with rfl | last
        · exact absurd own foreign
        · exact sound member (List.mem_append_right _ (List.mem_cons_of_mem _ last)) foreign

end Records

end StyleAudit.Json
