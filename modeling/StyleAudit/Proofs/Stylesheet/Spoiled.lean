import StyleAudit.Proofs.Json.Nulls
import StyleAudit.Stylesheet.Reader

/-!
# Nulls in the records of stylesheets

A member that is null stands for no member in a position, a declaration or a block. The numbers of
a location alone may be lacking but not null: a record is refused with such a null in it, at any
depth.
-/

namespace StyleAudit

set_option autoImplicit false

open Json (Agrees FieldDropped InField InItems Placed Refuses Thins field_agrees field_refuses
  in_no_field list_agrees list_refuses null_as_field_agrees null_as_refuses null_field_refuses
  nullable_field_agrees nullable_refuses readNullable record_agrees text_agrees texts_agree
  word_agrees)

variable {value thinned : Json}

inductive Location.Spoils (value thinned : Json) : Prop where
  | line (lost : FieldDropped "line" value thinned)
  | column (lost : FieldDropped "column" value thinned)

inductive Position.Spoils (value thinned : Json) : Prop where
  | start (lost : InField ["start", "end", "source"] "start" Location.Spoils value thinned)
  | finish (lost : InField ["start", "end", "source"] "end" Location.Spoils value thinned)

inductive Declaration.Spoils (value thinned : Json) : Prop where
  | position
      (lost : InField ["property", "value", "position"] "position" Position.Spoils value thinned)

inductive Block.Spoils (value thinned : Json) : Prop where
  | declaration (lost : InField ["selectors", "declarations", "position"] "declarations"
      (InItems Declaration.Spoils) value thinned)
  | position (lost : InField ["selectors", "declarations", "position"] "position"
      Position.Spoils value thinned)

theorem Location.agrees (thins : Thins value thinned) :
    Agrees Location.read value thinned ∨ Location.Spoils value thinned := by
  by_cases spoils : Location.Spoils value thinned
  · exact .inr spoils
  · refine .inl (record_agrees thins fun fields fewer each a => ?_)
    have line := field_agrees 0 (each "line") (fun lost => absurd (.line lost) spoils)
      (fun _ _ thins => .inl (word_agrees thins)) in_no_field
    have column := field_agrees 0 (each "column") (fun lost => absurd (.column lost) spoils)
      (fun _ _ thins => .inl (word_agrees thins)) in_no_field
    simp only [Placed.seq_eq_ok_iff, Placed.map_eq_ok_iff, line, column]

theorem Position.agrees (thins : Thins value thinned) :
    Agrees Position.read value thinned ∨ Position.Spoils value thinned := by
  by_cases spoils : Position.Spoils value thinned
  · exact .inr spoils
  · refine .inl (record_agrees thins fun fields fewer each a => ?_)
    have start := nullable_field_agrees (each "start") (fun _ _ => Location.agrees)
      fun lost => spoils (.start lost)
    have finish := nullable_field_agrees (each "end") (fun _ _ => Location.agrees)
      fun lost => spoils (.finish lost)
    have source := nullable_field_agrees (each "source")
      (fun _ _ thins => .inl (text_agrees thins)) in_no_field
    simp only [Placed.seq_eq_ok_iff, Placed.map_eq_ok_iff, start, finish, source]

theorem Declaration.agrees (thins : Thins value thinned) :
    Agrees Declaration.read value thinned ∨ Declaration.Spoils value thinned := by
  by_cases spoils : Declaration.Spoils value thinned
  · exact .inr spoils
  · refine .inl (record_agrees thins fun fields fewer each a => ?_)
    have property := null_as_field_agrees "" (each "property")
      (fun _ _ thins => .inl (text_agrees thins)) in_no_field
    have value := null_as_field_agrees "" (each "value")
      (fun _ _ thins => .inl (text_agrees thins)) in_no_field
    have position := nullable_field_agrees (each "position") (fun _ _ => Position.agrees)
      fun lost => spoils (.position lost)
    simp only [Placed.seq_eq_ok_iff, Placed.map_eq_ok_iff, property, value, position]

theorem Block.agrees (kind : BlockKind) (thins : Thins value thinned) :
    Agrees (Block.read kind) value thinned ∨ Block.Spoils value thinned := by
  by_cases spoils : Block.Spoils value thinned
  · exact .inr spoils
  · refine .inl (record_agrees thins fun fields fewer each a => ?_)
    have selectors := null_as_field_agrees [] (each "selectors")
      (fun _ _ thins => .inl (texts_agree thins)) in_no_field
    have declarations := null_as_field_agrees [] (each "declarations")
      (fun _ _ => list_agrees fun _ _ => Declaration.agrees) fun lost => spoils (.declaration lost)
    have position := nullable_field_agrees (each "position") (fun _ _ => Position.agrees)
      fun lost => spoils (.position lost)
    simp only [Placed.seq_eq_ok_iff, Placed.map_eq_ok_iff, selectors, declarations, position]

theorem Location.refused (lost : Location.Spoils value thinned) :
    value ≠ .null ∧ Refuses Location.read value := by
  have refuses : Refuses Json.readWord32 .null := nofun
  constructor
  · rintro rfl
    cases lost with
    | line lost => cases lost
    | column lost => cases lost
  · intro location read
    obtain ⟨fields, given, built⟩ := Json.read_record_iff.mp read
    simp only [Placed.seq_eq_ok_iff, Placed.map_eq_ok_iff] at built
    obtain ⟨_, ⟨_, line, _⟩, _, column, _⟩ := built
    cases lost with
    | line lost => exact null_field_refuses lost given refuses _ line
    | column lost => exact null_field_refuses lost given refuses _ column

theorem Position.refused (lost : Position.Spoils value thinned) :
    value ≠ .null ∧ Refuses Position.read value := by
  have refuses (held other : Json) (lost : Location.Spoils held other) :
      Refuses (readNullable Location.read) held :=
    have ⟨present, refuses⟩ := Location.refused lost
    nullable_refuses present refuses
  constructor
  · rintro rfl
    cases lost with
    | start lost => cases lost
    | finish lost => cases lost
  · intro position read
    obtain ⟨fields, given, built⟩ := Json.read_record_iff.mp read
    simp only [Placed.seq_eq_ok_iff, Placed.map_eq_ok_iff] at built
    obtain ⟨_, ⟨_, ⟨_, start, _⟩, _, finish, _⟩, _⟩ := built
    cases lost with
    | start lost => exact field_refuses lost given refuses _ start
    | finish lost => exact field_refuses lost given refuses _ finish

theorem Position.nullable_refused (held other : Json) (lost : Position.Spoils held other) :
    Refuses (readNullable Position.read) held :=
  have ⟨present, refuses⟩ := Position.refused lost
  nullable_refuses present refuses

theorem Declaration.refused (held other : Json) (lost : Declaration.Spoils held other) :
    Refuses Declaration.read held := by
  intro declaration read
  obtain ⟨fields, given, built⟩ := Json.read_record_iff.mp read
  simp only [Placed.seq_eq_ok_iff, Placed.map_eq_ok_iff] at built
  obtain ⟨_, _, _, position, _⟩ := built
  cases lost with
  | position lost => exact field_refuses lost given Position.nullable_refused _ position

theorem Block.refused {kind : BlockKind} (lost : Block.Spoils value thinned) :
    Refuses (Block.read kind) value := by
  have refuses (held other : Json) (lost : InItems Declaration.Spoils held other) :
      Refuses (Json.readNullAs [] (Json.readList Declaration.read)) held := by
    refine null_as_refuses ?_ (list_refuses lost Declaration.refused)
    rintro rfl
    cases lost
  intro block read
  obtain ⟨fields, given, built⟩ := Json.read_record_iff.mp read
  simp only [Placed.seq_eq_ok_iff, Placed.map_eq_ok_iff] at built
  obtain ⟨_, ⟨_, _, _, declarations, _⟩, _, position, _⟩ := built
  cases lost with
  | declaration lost => exact field_refuses lost given refuses _ declarations
  | position lost => exact field_refuses lost given Position.nullable_refused _ position

end StyleAudit
