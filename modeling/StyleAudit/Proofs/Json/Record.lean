import StyleAudit.Json.Record
import StyleAudit.Proofs.Json.Reading
import StyleAudit.Proofs.Keyed

/-!
# Reading known shapes

When a reader succeeds. What a field of an object is read as depends on nothing but the values of
the members of its name, so a record is read back as soon as each field stands there once, or not
at all where it may be lacking.
-/

namespace StyleAudit.Json

set_option autoImplicit false

variable {α : Type}

theorem read_word_of_nat (word : UInt32) :
    readWord32 (.number (.natural word.toNat)) = .ok word := by
  have fits : word.toNat < 4294967296 := word.toNat_lt
  rw [readWord32, if_pos fits, UInt32.ofNat_toNat]

theorem read_nullable_of_value {reader : Json → Except ReadError α} {json : Json} {a : α}
    (present : json ≠ .null) (reads : reader json = .ok a) :
    readNullable reader json = .ok (some a) := by
  rw [readNullable, reads]
  · rfl
  · exact present

private theorem map_m_written {ε β : Type} (write : α → β) (reader : β → Except ε α)
    (values : List α) (reads : ∀ a ∈ values, reader (write a) = .ok a) :
    (values.map write).mapM reader = .ok values := by
  induction values with
  | nil => rfl
  | cons a rest ih =>
      rw [List.map_cons, List.mapM_cons, reads a (by simp),
        ih fun other member => reads other (List.mem_cons_of_mem a member)]
      rfl

theorem read_list_of_items (write : α → Json) (reader : Json → Except ReadError α)
    (values : List α) (reads : ∀ a ∈ values, reader (write a) = .ok a) :
    readList reader (.array (values.map write)) = .ok values :=
  map_m_written write reader values reads

theorem read_mapping_of_entries (write : α → Json) (reader : Json → Except ReadError α)
    (m : Keyed α) (reads : ∀ entry ∈ m.entries, reader (write entry.2) = .ok entry.2) :
    readMapping reader (.object (m.entries.map fun entry => (entry.1, write entry.2))) =
      .ok m := by
  have entries := map_m_written (fun entry : String × α => (entry.1, write entry.2))
    (fun member => (reader member.2).map fun a => (member.1, a)) m.entries (by
      intro entry member
      dsimp only
      rw [reads entry member]
      rfl)
  rw [readMapping, entries]
  exact congrArg Except.ok m.of_list_entries

namespace Placed

variable {β : Type}

theorem map_ok {f : α → β} {part : Placed α} {a : α} (read : part = .ok a) :
    f <$> part = .ok (f a) := by
  rw [read]
  rfl

theorem seq_ok {parts : Placed (α → β)} {part : Placed α} {f : α → β} {a : α}
    (before : parts = .ok f) (read : part = .ok a) : parts <*> part = .ok (f a) := by
  rw [before, read]
  rfl

def Fails (part : Placed α) : Prop :=
  ∃ place error, part = fail place error

theorem seq_fails_before {parts : Placed (α → β)} (before : parts.Fails) (part : Placed α) :
    (parts <*> part).Fails := by
  obtain ⟨place, error, rfl⟩ := before
  cases part with
  | ok a => exact ⟨place, error, rfl⟩
  | error other => exact ⟨_, _, rfl⟩

theorem seq_fails {part : Placed α} (fails : part.Fails) (parts : Placed (α → β)) :
    (parts <*> part).Fails := by
  obtain ⟨place, error, rfl⟩ := fails
  cases parts with
  | ok f => exact ⟨place, error, rfl⟩
  | error other => exact ⟨_, _, rfl⟩

end Placed

/-- The values of the members of a name, in order. -/
def valuesOf (name : String) (members : List (String × Json)) : List Json :=
  (members.filter fun member => member.1 == name).map Prod.snd

@[simp]
theorem values_nil (name : String) : valuesOf name [] = [] :=
  rfl

@[simp]
theorem values_append (name : String) (first second : List (String × Json)) :
    valuesOf name (first ++ second) = valuesOf name first ++ valuesOf name second := by
  simp [valuesOf]

@[simp]
theorem values_cons (name : String) (member : String × Json) (rest : List (String × Json)) :
    valuesOf name (member :: rest) =
      if member.1 = name then member.2 :: valuesOf name rest else valuesOf name rest := by
  by_cases same : member.1 = name <;> simp [valuesOf, same]

theorem occurrences_values (name : String) (members : List (String × Json)) :
    (occurrences name members).map Prod.snd = valuesOf name members := by
  have from_any_place : ∀ start : Nat,
      ((members.zipIdx start).filterMap fun entry =>
        if entry.1.1 == name then some (entry.2, entry.1.2) else none).map Prod.snd =
          valuesOf name members := by
    induction members with
    | nil => exact fun _ => rfl
    | cons member rest ih =>
        intro start
        rw [List.zipIdx_cons, List.filterMap_cons, values_cons]
        by_cases same : member.1 = name
        · simp only [same, BEq.rfl, if_true, List.map_cons, ih]
        · have unequal : (member.1 == name) = false := by simp [same]
          simp only [unequal, Bool.false_eq_true, if_false, same, ih]
  exact from_any_place 0

namespace Fields

variable {names : List String} {members : List (String × Json)} {name : String}
  {reader : Json → Except ReadError α} {noMember noItem : Except ReadError α}

theorem read_held (value : Json) {a : α} (held : valuesOf name members = [value])
    (reads : reader value = .ok a) :
    (ofObject names members).read name reader noMember noItem = .ok a := by
  rw [← occurrences_values, List.map_eq_singleton_iff] at held
  obtain ⟨⟨place, found⟩, sole, rfl⟩ := held
  rw [read, sole]
  dsimp only at reads ⊢
  rw [reads]
  rfl

theorem read_lacking (lacking : valuesOf name members = []) :
    (ofObject names members).read name reader noMember noItem =
      Placed.atPlace (members.length + names.idxOf name) noMember := by
  rw [← occurrences_values, List.map_eq_nil_iff] at lacking
  rw [read, lacking]

theorem required_lacking (lacking : valuesOf name members = []) :
    ((ofObject names members).required name reader).Fails :=
  ⟨_, _, read_lacking lacking⟩

theorem read_nullable (write : α → Json) {held : Option α} {noValue : Except ReadError (Option α)}
    (values : valuesOf name members = (held.map write).toList)
    (reads : ∀ a, reader (write a) = .ok a) (present : ∀ a, write a ≠ .null) :
    (ofObject names members).read name (readNullable reader) (.ok none) noValue = .ok held := by
  cases held with
  | none => rw [read_lacking values]; rfl
  | some a => exact read_held _ values (read_nullable_of_value (present a) (reads a))

theorem values_others (foreign : name ∉ names) :
    valuesOf name (ofObject names members).others = valuesOf name members := by
  rw [others, valuesOf, valuesOf, List.filter_filter]
  congr 1
  apply List.filter_congr
  intro member _
  by_cases same : member.1 = name
  · simp [same, foreign]
  · simp [same]

theorem leftover_sound (names : List String) {memberFault? : Json → Option Fault}
    (sound : ∀ member ∈ members, memberFault? member.2 = none) :
    (ofObject names members).leftover memberFault? = .ok () := by
  have none_found : (members.zipIdx.filterMap fun entry =>
      if names.contains entry.1.1 then none
      else (memberFault? entry.1.2).map fun fault => (entry.2, fault)) = [] := by
    rw [List.filterMap_eq_nil_iff]
    intro entry member
    simp [sound entry.1 (List.fst_mem_of_mem_zipIdx member)]
  rw [leftover]
  simp only [none_found]

end Fields

section Records

variable {record : String} {names : List String} {build : Fields → Placed α}
  {members : List (String × Json)} {room : Nat} {a : α}

theorem read_record (built : build (.ofObject names members) = .ok a)
    (fits : Fits room (.object members)) :
    readRecord record names build (.object members) = .ok a := by
  cases fits with
  | object each =>
      have nothing_left := Fields.leftover_sound names fun member found =>
        no_skip_fault (each member found)
      rw [readRecord]
      simp only [built, nothing_left]
      rfl

theorem read_spread_record (built : build (.ofObject names members) = .ok a)
    (fits : Fits room (.object members)) :
    readSpreadRecord record names build (.object members) = .ok a := by
  cases fits with
  | object each =>
      have nothing_left := Fields.leftover_sound names fun member found =>
        no_fault (each member found)
      rw [readSpreadRecord]
      simp only [built, nothing_left]
      rfl

end Records

end StyleAudit.Json
