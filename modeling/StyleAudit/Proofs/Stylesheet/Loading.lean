import StyleAudit.Proofs.Json.Enclosed
import StyleAudit.Proofs.Json.Fields
import StyleAudit.Stylesheet.Reader

/-!
# Files of one stylesheet and of many

A file may hold one stylesheet or an array of them. The array is read item by item, so it gives what
its items give as files of their own. Since a record may be given as an array too, an array that is
no list of stylesheets might still be one stylesheet; an array of objects never is. Whether an
object is a stylesheet depends on its file, its content and the source text in it, and not on the
syntax tree.
-/

namespace StyleAudit

set_option autoImplicit false

open Json (Fields Gives IsText ReadError Placed arrayText deepestNesting readList readNullable
  readRecord readText valuesOf)

/-- Given at most once, and then as a text. -/
def GivenAsText (values : List Json) : Prop :=
  values = [] ∨ ∃ s, values = [.text s]

/-- The content of a stylesheet, as an object or as the array of its fields. What stands for the
syntax tree only has to stand there once. -/
inductive FitsContent : Json → Prop where
  | null : FitsContent .null
  | object {members : List (String × Json)} (plain : GivenAsText (valuesOf "plain" members))
      (once : (valuesOf "parsed" members).length ≤ 1) : FitsContent (.object members)
  | listed {items : List Json} (plain : GivenAsText items[0]?.toList)
      (short : items.length ≤ 2) : FitsContent (.array items)

structure FitsSheet (members : List (String × Json)) : Prop where
  file : GivenAsText (valuesOf "file" members)
  content : valuesOf "content" members = [] ∨
    ∃ value, valuesOf "content" members = [value] ∧ FitsContent value

section Reading

variable {α β γ : Type} {record name : String} {names : List String} {fields : Fields}
  {json : Json} {members : List (String × Json)}

theorem text_field_reads_iff :
    (∃ s, fields.defaulted name "" readText = .ok s) ↔ GivenAsText (fields.values name) := by
  simp only [Fields.defaulted_eq_ok_iff, Fields.ReadAs, Json.read_text_iff]
  constructor
  · rintro ⟨s, ⟨nothing, _⟩ | ⟨value, sole, rfl⟩⟩
    · exact .inl nothing
    · exact .inr ⟨s, sole⟩
  · rintro (nothing | ⟨s, sole⟩)
    · exact ⟨"", .inl ⟨nothing, rfl⟩⟩
    · exact ⟨s, .inr ⟨_, sole, rfl⟩⟩

theorem nullable_field_reads_iff {reader : Json → Except ReadError α} :
    (∃ held, fields.defaulted name none (readNullable reader) = .ok held) ↔
      fields.values name = [] ∨
        ∃ value, fields.values name = [value] ∧ ∃ held, readNullable reader value = .ok held := by
  simp only [Fields.defaulted_eq_ok_iff, Fields.ReadAs]
  constructor
  · rintro ⟨held, ⟨nothing, _⟩ | ⟨value, sole, read⟩⟩
    · exact .inl nothing
    · exact .inr ⟨value, sole, held, read⟩
  · rintro (nothing | ⟨value, sole, held, read⟩)
    · exact ⟨none, .inl ⟨nothing, rfl⟩⟩
    · exact ⟨held, .inr ⟨value, sole, read⟩⟩

theorem two_fields_read_iff {build : α → β → γ} {first : Fields → Placed α}
    {second : Fields → Placed β} :
    (∃ c, readRecord record names (fun fields => build <$> first fields <*> second fields) json =
        .ok c) ↔
      ∃ fields, Gives record names json fields ∧ (∃ a, first fields = .ok a) ∧
        ∃ b, second fields = .ok b := by
  simp only [Json.read_record_iff, Placed.seq_eq_ok_iff, Placed.map_eq_ok_iff]
  constructor
  · rintro ⟨_, fields, given, _, ⟨a, ofFirst, rfl⟩, b, ofSecond, rfl⟩
    exact ⟨fields, given, ⟨a, ofFirst⟩, b, ofSecond⟩
  · rintro ⟨fields, given, ⟨a, ofFirst⟩, b, ofSecond⟩
    exact ⟨_, fields, given, _, ⟨a, ofFirst, rfl⟩, b, ofSecond, rfl⟩

end Reading

theorem tree_field_reads_iff {fields : Fields} :
    (∃ tree, fields.defaulted "parsed" none
        (readNullable fun json => .ok (Node.ofJson json)) = .ok tree) ↔
      (fields.values "parsed").length ≤ 1 := by
  have every (value : Json) :
      ∃ tree, readNullable (fun json => .ok (Node.ofJson json)) value = .ok tree := by
    by_cases null : value = .null
    · exact ⟨none, Json.read_nullable_iff.mpr (.inl ⟨null, rfl⟩)⟩
    · exact ⟨_, Json.read_nullable_iff.mpr (.inr ⟨null, _, rfl, rfl⟩)⟩
  rw [nullable_field_reads_iff]
  constructor
  · rintro (nothing | ⟨value, sole, _⟩)
    · rw [nothing]
      exact Nat.zero_le 1
    · rw [sole]
      exact Nat.le_refl 1
  · intro few
    match shape : fields.values "parsed", few with
    | [], _ => exact .inl rfl
    | [value], _ => exact .inr ⟨value, rfl, every value⟩

/-- A record is given by an object of which nothing is at fault, or by an array of no more items
than it has fields. -/
theorem given_iff {record : String} {names : List String} {json : Json} {P : Fields → Prop}
    (held : json.fault? = none) :
    (∃ fields, Gives record names json fields ∧ P fields) ↔
      (∃ members, json = .object members ∧ P (.ofObject names members)) ∨
        ∃ items, json = .array items ∧ items.length ≤ names.length ∧
          P (.ofArray record names items) := by
  constructor
  · rintro ⟨_, given, holds⟩
    cases given with
    | object sound => exact .inl ⟨_, rfl, holds⟩
    | array short => exact .inr ⟨_, rfl, short, holds⟩
  · rintro (⟨members, rfl, holds⟩ | ⟨items, rfl, short, holds⟩)
    · have sound := Json.fault_of_object.mp held
      exact ⟨_, .object fun member inside _ => Json.skip_fault_of_fault _ (sound member inside),
        holds⟩
    · exact ⟨_, .array short, holds⟩

theorem nullable_reads_iff {α : Type} {reader : Json → Except ReadError α} {json : Json} :
    (∃ held, readNullable reader json = .ok held) ↔ json = .null ∨ ∃ a, reader json = .ok a := by
  simp only [Json.read_nullable_iff]
  constructor
  · rintro ⟨held, ⟨null, _⟩ | ⟨_, a, read, _⟩⟩
    · exact .inl null
    · exact .inr ⟨a, read⟩
  · intro reads
    by_cases null : json = .null
    · exact ⟨none, .inl ⟨null, rfl⟩⟩
    · obtain ⟨a, read⟩ := reads.resolve_left null
      exact ⟨some a, .inr ⟨null, a, read, rfl⟩⟩

theorem content_reads_iff {json : Json} (held : json.fault? = none) :
    (∃ content, readNullable SheetContent.read json = .ok content) ↔ FitsContent json := by
  rw [nullable_reads_iff, SheetContent.read, two_fields_read_iff]
  simp only [text_field_reads_iff, tree_field_reads_iff]
  rw [given_iff held]
  constructor
  · rintro (rfl | ⟨members, rfl, plain, once⟩ | ⟨items, rfl, short, plain, _⟩)
    · exact .null
    · exact .object plain once
    · exact .listed plain short
  · rintro (_ | ⟨plain, once⟩ | ⟨plain, short⟩)
    · exact .inl rfl
    · exact .inr (.inl ⟨_, rfl, plain, once⟩)
    · exact .inr (.inr ⟨_, rfl, short, plain, Option.length_toList_le⟩)

theorem sheet_reads_iff {members : List (String × Json)}
    (held : (Json.object members).fault? = none) :
    (∃ sheet, Stylesheet.read (.object members) = .ok sheet) ↔ FitsSheet members := by
  have inside (value : Json) (sole : valuesOf "content" members = [value]) :
      value.fault? = none := by
    have own : value ∈ valuesOf "content" members := by
      rw [sole]
      exact List.mem_singleton.mpr rfl
    obtain ⟨member, among, rfl⟩ := List.mem_map.mp own
    exact Json.fault_of_object.mp held member (List.mem_of_mem_filter among)
  rw [Stylesheet.read, two_fields_read_iff]
  simp only [text_field_reads_iff, nullable_field_reads_iff]
  rw [given_iff held]
  constructor
  · rintro (⟨_, same, file, content⟩ | ⟨_, other, _⟩)
    · cases same
      refine ⟨file, content.imp id ?_⟩
      rintro ⟨value, sole, reads⟩
      exact ⟨value, sole, (content_reads_iff (inside value sole)).mp reads⟩
    · cases other
  · rintro ⟨file, content⟩
    refine .inl ⟨members, rfl, file, content.imp id ?_⟩
    rintro ⟨value, sole, fits⟩
    exact ⟨value, sole, (content_reads_iff (inside value sole)).mpr fits⟩

theorem objects_are_no_sheet {object : List (String × Json)} {items : List Json}
    {sheet : Stylesheet} : Stylesheet.read (.array (.object object :: items)) ≠ .ok sheet := by
  intro read
  rw [Stylesheet.read, Json.read_record_iff] at read
  obtain ⟨_, given, built⟩ := read
  cases given with
  | array short =>
      obtain ⟨_, ofFile, _⟩ := Placed.seq_eq_ok_iff.mp built
      obtain ⟨file, field, _⟩ := Placed.map_eq_ok_iff.mp ofFile
      rcases text_field_reads_iff.mp ⟨file, field⟩ with nothing | ⟨s, sole⟩
      · cases nothing
      · cases sole

/-- The members differ only in what stands for the syntax tree. -/
inductive TreeReplaced : List (String × Json) → List (String × Json) → Prop where
  | object (before after inner more : List (String × Json)) (tree other : Json) :
      TreeReplaced (before ++ ("content", .object (inner ++ ("parsed", tree) :: more)) :: after)
        (before ++ ("content", .object (inner ++ ("parsed", other) :: more)) :: after)
  | listed (before after : List (String × Json)) (plain tree other : Json) :
      TreeReplaced (before ++ ("content", .array [plain, tree]) :: after)
        (before ++ ("content", .array [plain, other]) :: after)

theorem TreeReplaced.symm {members others : List (String × Json)}
    (replaced : TreeReplaced members others) : TreeReplaced others members := by
  cases replaced with
  | object before after inner more tree other => exact .object before after inner more other tree
  | listed before after plain tree other => exact .listed before after plain other tree

private theorem fits_content_replaced {before after : List (String × Json)} {content other : Json}
    (fits : FitsSheet (before ++ ("content", content) :: after))
    (replaced : FitsContent content → FitsContent other) :
    FitsSheet (before ++ ("content", other) :: after) := by
  have apart : "content" ≠ "file" := by decide
  refine ⟨?_, .inr ⟨other, ?_⟩⟩
  · rw [Fields.values_beside_hole apart, ← Fields.values_beside_hole apart]
    exact fits.file
  · rcases fits.content with nothing | ⟨value, sole, own⟩
    · rw [Fields.values_of_hole] at nothing
      cases (List.append_eq_nil_iff.mp nothing).2
    · obtain ⟨rfl, now⟩ := Fields.sole_in_hole sole other
      exact ⟨now, replaced own⟩

theorem fits_of_replaced {members others : List (String × Json)}
    (replaced : TreeReplaced members others) (fits : FitsSheet members) : FitsSheet others := by
  cases replaced with
  | object before after inner more tree other =>
      refine fits_content_replaced fits fun own => ?_
      cases own with
      | object plain once =>
          have apart : "parsed" ≠ "plain" := by decide
          refine .object ?_ ?_
          · rw [Fields.values_beside_hole apart] at plain ⊢
            exact plain
          · rw [Fields.values_of_hole] at once ⊢
            simpa using once
  | listed before after plain tree other =>
      refine fits_content_replaced fits fun own => ?_
      cases own with
      | listed plain short => exact .listed plain short

namespace Stylesheet

variable {source : String} {value : Json} {members : List (String × Json)}
  {objects : List (List (String × Json))} {sheets : List Stylesheet}

theorem load_of_text (text : IsText source value) (held : value.fault? = none) :
    load source = readAll value := by
  rw [load, text]
  simp only [held]
  cases readAll value with
  | ok sheets => rfl
  | error e => rfl

theorem read_all_of_object :
    readAll (.object members) = .ok sheets ↔
      ∃ sheet, Stylesheet.read (.object members) = .ok sheet ∧ sheets = [sheet] := by
  have unlisted : readList Stylesheet.read (.object members) =
      .error (Json.refuse .list (.object members)) := rfl
  rw [readAll, unlisted]
  cases Stylesheet.read (.object members) with
  | ok sheet => simp [eq_comm]
  | error e => simp

theorem read_all_of_objects : readAll (.array (objects.map .object)) = .ok sheets ↔
    List.Forall₂ (fun members sheet => Stylesheet.read (.object members) = .ok sheet)
      objects sheets := by
  have listed : readList Stylesheet.read (.array (objects.map .object)) = .ok sheets ↔
      List.Forall₂ (fun members sheet => Stylesheet.read (.object members) = .ok sheet)
        objects sheets := by
    rw [readList, Json.map_m_eq_ok_iff, List.forall₂_map_left_iff]
  rw [← listed, readAll]
  cases objects with
  | nil => rfl
  | cons first others =>
      cases readList Stylesheet.read (.array ((first :: others).map .object)) with
      | ok sheets => rfl
      | error e =>
          cases read : Stylesheet.read (.array ((first :: others).map .object)) with
          | ok sheet => exact absurd read objects_are_no_sheet
          | error e => simp

theorem read_all_refusal {e : ReadError} (refused : readAll value = .error e) :
    e = .mismatch (.noAlternative "StylesheetFile") := by
  unfold readAll at refused
  split at refused
  · cases refused
  · split at refused
    · cases refused
    · exact (Except.error.inj refused).symm

/-- One stylesheet alone and the array of it are not told apart. -/
theorem read_all_of_one : readAll (.array [.object members]) = readAll (.object members) := by
  cases listed : readAll (.array [.object members]) with
  | ok sheets =>
      have each : readAll (.array ([members].map .object)) = .ok sheets := listed
      cases read_all_of_objects.mp each with
      | cons read rest =>
          cases rest
          exact (read_all_of_object.mpr ⟨_, read, rfl⟩).symm
  | error e =>
      cases alone : readAll (.object members) with
      | ok sheets =>
          obtain ⟨sheet, read, rfl⟩ := read_all_of_object.mp alone
          have each : readAll (.array ([members].map .object)) = .ok [sheet] :=
            read_all_of_objects.mpr (.cons read .nil)
          cases listed.symm.trans each
      | error other => rw [read_all_refusal listed, read_all_refusal alone]

end Stylesheet

/-- A well-formed text with the members of the object that it gives. -/
structure ObjectText where
  source : String
  members : List (String × Json)
  text : IsText source (.object members)
  sound : (Json.object members).fault? = none

namespace ObjectText

def value (file : ObjectText) : Json :=
  .object file.members

def load (file : ObjectText) : Except ReadError (List Stylesheet) :=
  Stylesheet.load file.source

variable {file : ObjectText} {files : List ObjectText} {sheets : List Stylesheet}
  {sheet : Stylesheet} {all : String}

theorem load_iff : file.load = .ok sheets ↔
    ∃ sheet, Stylesheet.read file.value = .ok sheet ∧ sheets = [sheet] := by
  rw [load, Stylesheet.load_of_text file.text file.sound, Stylesheet.read_all_of_object]
  rfl

theorem load_one_iff : file.load = .ok [sheet] ↔ Stylesheet.read file.value = .ok sheet := by
  rw [load_iff]
  constructor
  · rintro ⟨_, read, same⟩
    cases same
    exact read
  · exact fun read => ⟨sheet, read, rfl⟩

theorem loads_one_iff : (∃ own, file.load = .ok own) ↔ ∃ sheet, file.load = .ok [sheet] := by
  constructor
  · rintro ⟨own, loaded⟩
    obtain ⟨sheet, _, rfl⟩ := load_iff.mp loaded
    exact ⟨sheet, loaded⟩
  · exact fun ⟨sheet, loaded⟩ => ⟨_, loaded⟩

theorem loads_iff_fits : (∃ own, file.load = .ok own) ↔ FitsSheet file.members := by
  rw [loads_one_iff, ← sheet_reads_iff file.sound]
  exact exists_congr fun sheet => load_one_iff

theorem sound_array : (Json.array (files.map value)).fault? = none := by
  rw [Json.fault_of_array, List.forall_mem_map]
  exact fun file _ => file.sound

theorem load_listed_iff (text : IsText all (.array (files.map value))) :
    Stylesheet.load all = .ok sheets ↔
      List.Forall₂ (fun file sheet => file.load = .ok [sheet]) files sheets := by
  have objects : files.map value = (files.map members).map .object := by
    rw [List.map_map]
    rfl
  simp only [load_one_iff]
  rw [Stylesheet.load_of_text text sound_array, objects, Stylesheet.read_all_of_objects,
    List.forall₂_map_left_iff]
  rfl

private theorem each_iff {α β : Type} {R : α → β → Prop} {as : List α} :
    (∃ bs, List.Forall₂ R as bs) ↔ ∀ a ∈ as, ∃ b, R a b := by
  induction as with
  | nil => exact ⟨fun _ => nofun, fun _ => ⟨[], .nil⟩⟩
  | cons a rest ih =>
      rw [List.forall_mem_cons, ← ih]
      constructor
      · rintro ⟨_, _ | ⟨first, others⟩⟩
        exact ⟨⟨_, first⟩, _, others⟩
      · rintro ⟨⟨b, first⟩, bs, others⟩
        exact ⟨b :: bs, .cons first others⟩

theorem loads_listed_iff (text : IsText all (.array (files.map value))) :
    (∃ sheets, Stylesheet.load all = .ok sheets) ↔ ∀ file ∈ files, ∃ own, file.load = .ok own := by
  simp only [load_listed_iff text, loads_one_iff]
  exact each_iff

theorem texts_listed (held : Json.Held deepestNesting (.array (files.map value))) :
    IsText (arrayText (files.map source)) (.array (files.map value)) := by
  refine Json.array_text_is_text ?_ held
  rw [List.forall₂_map_left_iff, List.forall₂_map_right_iff, List.forall₂_same]
  exact fun file _ => file.text

theorem load_listed_alone (held : Json.Held deepestNesting (.array [file.value])) :
    Stylesheet.load (arrayText [file.source]) = file.load := by
  have listed : IsText (arrayText [file.source]) (.array [file.value]) :=
    Json.array_text_is_text (.cons file.text .nil) held
  have sound : (Json.array [file.value]).fault? = none := Json.fault_of_held held
  rw [load, Stylesheet.load_of_text listed sound, Stylesheet.load_of_text file.text file.sound]
  exact Stylesheet.read_all_of_one

end ObjectText

/-- Well-formed objects, whatever syntax trees they hold, are loaded from the text of the array of
them as from texts of their own: all of them or none, in order, and one alone like the array of it.
Whether an object is loaded is told without a look at its syntax tree. -/
theorem objects_load_listed_as_alone (files : List ObjectText)
    (held : Json.Held deepestNesting (.array (files.map ObjectText.value))) :
    IsText (arrayText (files.map ObjectText.source)) (.array (files.map ObjectText.value)) ∧
      (∀ all, IsText all (.array (files.map ObjectText.value)) →
        (∀ sheets, Stylesheet.load all = .ok sheets ↔
          List.Forall₂ (fun file sheet => Stylesheet.load file.source = .ok [sheet])
            files sheets) ∧
        ((∃ sheets, Stylesheet.load all = .ok sheets) ↔
          ∀ file ∈ files, ∃ own, Stylesheet.load file.source = .ok own)) ∧
      (∀ file ∈ files,
        Stylesheet.load (arrayText [file.source]) = Stylesheet.load file.source ∧
          ((∃ own, Stylesheet.load file.source = .ok own) ↔ FitsSheet file.members)) ∧
      ∀ members others, TreeReplaced members others → (FitsSheet members ↔ FitsSheet others) := by
  refine ⟨ObjectText.texts_listed held, fun all text => ⟨fun sheets =>
    ObjectText.load_listed_iff text, ObjectText.loads_listed_iff text⟩, fun file inside => ?_,
    fun _ _ replaced => ⟨fits_of_replaced replaced, fits_of_replaced replaced.symm⟩⟩
  refine ⟨ObjectText.load_listed_alone ?_, ObjectText.loads_iff_fits⟩
  cases held with
  | array each =>
      refine .array fun item alone => ?_
      obtain rfl := List.mem_singleton.mp alone
      exact each _ (List.mem_map_of_mem inside)

def brokenTree : ObjectText where
  source := "\x7b\"file\": \"a.css\", \"content\": \x7b\"parsed\": [[7]], \"plain\": \"p\"\x7d\x7d"
  members := [("file", .text "a.css"),
    ("content", .object [("parsed", .array [.array [.number (.natural 7)]]), ("plain", .text "p")])]
  text := rfl
  sound := rfl

def listedContent : ObjectText where
  source := " \x7b\"content\": [\"q\", null]\x7d\n"
  members := [("content", .array [.text "q", .null])]
  text := rfl
  sound := rfl

private theorem broken_tree_held {room : Nat} : brokenTree.value.Held (room + 4) := by
  refine .object ?_
  simp only [brokenTree, List.forall_mem_cons]
  refine ⟨.text _, .object ?_, nofun⟩
  simp only [List.forall_mem_cons]
  refine ⟨.array ?_, .text _, nofun⟩
  rw [List.forall_mem_singleton]
  refine .array ?_
  rw [List.forall_mem_singleton]
  exact .number _

private theorem listed_content_held {room : Nat} : listedContent.value.Held (room + 2) := by
  refine .object ?_
  simp only [listedContent, List.forall_mem_singleton]
  refine .array ?_
  simp only [List.forall_mem_cons]
  exact ⟨.text _, .null, nofun⟩

theorem broken_tree_loads_listed :
    Json.Held deepestNesting (.array ([brokenTree, listedContent].map ObjectText.value)) ∧
      (∃ sheets, Stylesheet.load (arrayText [brokenTree.source, listedContent.source]) =
        .ok sheets) ∧
      Stylesheet.load (arrayText [brokenTree.source]) = Stylesheet.load brokenTree.source := by
  have held : Json.Held deepestNesting
      (.array ([brokenTree, listedContent].map ObjectText.value)) := by
    refine .array ?_
    simp only [List.map_cons, List.map_nil, List.forall_mem_cons]
    exact ⟨broken_tree_held, listed_content_held, nofun⟩
  obtain ⟨text, listed, alone, _⟩ := objects_load_listed_as_alone [brokenTree, listedContent] held
  obtain ⟨same, first⟩ := alone brokenTree (by simp)
  obtain ⟨_, second⟩ := alone listedContent (by simp)
  have firstFits : FitsSheet brokenTree.members :=
    ⟨.inr ⟨"a.css", rfl⟩, .inr ⟨_, rfl, .object (.inr ⟨"p", rfl⟩) (by decide)⟩⟩
  have secondFits : FitsSheet listedContent.members :=
    ⟨.inl rfl, .inr ⟨_, rfl, .listed (.inr ⟨"q", rfl⟩) (by decide)⟩⟩
  refine ⟨held, (listed _ text).2.mpr ?_, same⟩
  simp only [List.forall_mem_cons]
  exact ⟨first.mpr firstFits, second.mpr secondFits, nofun⟩

end StyleAudit
