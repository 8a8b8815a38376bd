import StyleAudit.Proofs.Catalog.View
import StyleAudit.Proofs.Selection.Spelling

/-!
# Techniques that are found by their names

The names in a selection are brought to normal spelling, those of the techniques are not. So a name
finds a technique in each of its spellings just if the normal one is among the names of the
technique. Every built-in technique can be selected by its own names. One whose names are written
in small letters cannot.
-/

namespace StyleAudit

set_option autoImplicit false

/-- The name is listed among the techniques, in one spelling or another. -/
def Selection.Lists (s : Selection) (name : String) : Prop :=
  ∃ listed ∈ s.techniques, Text.Respells name listed

/-- The normal spelling of the name is one of the technique's own names as they stand. -/
def Descriptor.AnswersTo (d : Descriptor) (name : String) : Prop :=
  ¬ Text.IsBlankText name ∧ d.IsNamed [Text.upper (Text.trim name)]

instance (d : Descriptor) (name : String) : Decidable (d.AnswersTo name) :=
  inferInstanceAs (Decidable (¬ Text.IsBlankText name ∧
    (d.code ∈ [Text.upper (Text.trim name)] ∨ d.mapping ∈ [Text.upper (Text.trim name)])))

namespace Descriptor

variable {d : Descriptor} {name listed : String}

theorem answers_to_iff : d.AnswersTo name ↔ Text.trim name ≠ "" ∧
    (Text.upper (Text.trim name) = d.code ∨ Text.upper (Text.trim name) = d.mapping) := by
  simp only [AnswersTo, IsNamed, List.mem_singleton, ← Text.trim_eq_empty_iff, ne_eq, eq_comm]

theorem answers_in_every_spelling (spelled : Text.Respells name listed) :
    d.AnswersTo listed ↔ d.AnswersTo name := by
  rw [answers_to_iff, answers_to_iff, spelled.mapped Text.upper_ignores_case, ne_eq, ne_eq,
    spelled.blank_iff]

theorem named_iff_answers (entries : List String) :
    d.IsNamed (Selection.normalizeList Text.upper entries) ↔
      ∃ entry ∈ entries, d.AnswersTo entry := by
  simp only [IsNamed, Selection.mem_normalize_list_iff, answers_to_iff]
  grind

theorem exists_foreign_name (d : Descriptor) :
    ∃ other, ¬ Text.IsBlankText other ∧ ¬ d.AnswersTo other := by
  by_contra none
  have named (other : String) (written : ¬ Text.IsBlankText other)
      (normal : Text.upper (Text.trim other) = other) : other = d.code ∨ other = d.mapping := by
    by_contra foreign
    refine none ⟨other, written, fun answers => foreign ?_⟩
    rw [← normal]
    exact (answers_to_iff.mp answers).2
  have a := named "A" (by decide) (by decide)
  have b := named "B" (by decide) (by decide)
  have c := named "C" (by decide) (by decide)
  grind

end Descriptor

namespace Selection

variable {d : Descriptor} {name : String}

theorem Wants.of_named {s : Selection} (named : d.IsNamed s.techniques) : s.Wants d := by
  by_cases ungiven : s.principles = [] ∧ s.levels = []
  · exact .inl ⟨ungiven.1, ungiven.2, .inr named⟩
  · exact .inr ⟨Classical.not_and_iff_not_or_not.mp ungiven, .inr named⟩

theorem wants_of_lists {s : Selection} (lists : s.Lists name) (answers : d.AnswersTo name) :
    s.normalized.Wants d := by
  obtain ⟨listed, inside, spelled⟩ := lists
  have answersListed := (Descriptor.answers_in_every_spelling spelled).mpr answers
  exact .of_named ((Descriptor.named_iff_answers _).mpr ⟨listed, inside, answersListed⟩)

theorem answers_of_wants {other : String} (written : ¬ Text.IsBlankText other)
    (foreign : ¬ d.AnswersTo other) (wants : (normalized ⟨[], [], [name, other]⟩).Wants d) :
    d.AnswersTo name := by
  rcases wants with ⟨_, _, nothing | named⟩ | ⟨given, _⟩
  · have blank := (normalize_list_eq_nil_iff _ _).mp nothing other (by simp)
    exact absurd (Text.trim_eq_empty_iff other |>.mp blank) written
  · obtain ⟨entry, listed, answers⟩ := (Descriptor.named_iff_answers _).mp named
    rcases List.mem_pair.mp listed with rfl | rfl
    · exact answers
    · exact absurd answers foreign
  · rcases given with some | some <;> exact absurd rfl some

end Selection

theorem catalog_answers {t : Technique} (member : t ∈ catalog) :
    t.descriptor.AnswersTo t.descriptor.code ∧ t.descriptor.AnswersTo t.descriptor.mapping := by
  cases t, member using built_in_cases <;> decide

namespace Roster

/-- The technique at a place is enabled under the selection. -/
def Enables (r : Roster) (s : Selection) (place : Nat) : Prop :=
  ∃ e, (r.configure s).entries[place]? = some e ∧ e.enabled = true

theorem enables_iff {r : Roster} {place : Nat} {e : Entry} (stands : r.entries[place]? = some e)
    (s : Selection) : r.Enables s place ↔ s.normalized.Wants e.descriptor := by
  rw [Enables, configure, List.getElem?_map, stands, ← Selection.selects_iff_wants]
  simp only [Option.map_some, Option.some.injEq, exists_eq_left']

/-- A name enables a technique in every selection that lists it in some spelling, with principles
and levels or without, just if the technique answers to it. The built-in techniques answer to their
own names. -/
theorem name_enables_iff_answered (r : Roster) (place : Nat) (e : Entry)
    (stands : r.entries[place]? = some e) (name : String) :
    ((∀ s : Selection, s.principles = [] → s.levels = [] → s.Lists name → r.Enables s place) ↔
      e.descriptor.AnswersTo name) ∧
    ((∀ s : Selection, s.Lists name → r.Enables s place) ↔ e.descriptor.AnswersTo name) ∧
    ∀ t ∈ catalog, t.descriptor.AnswersTo t.descriptor.code ∧
      t.descriptor.AnswersTo t.descriptor.mapping := by
  have enabled (answers : e.descriptor.AnswersTo name) (s : Selection) (lists : s.Lists name) :
      r.Enables s place := (enables_iff stands s).mpr (Selection.wants_of_lists lists answers)
  have answers (alone : ∀ s : Selection, s.principles = [] → s.levels = [] → s.Lists name →
      r.Enables s place) : e.descriptor.AnswersTo name := by
    obtain ⟨other, written, foreign⟩ := e.descriptor.exists_foreign_name
    have lists : Selection.Lists ⟨[], [], [name, other]⟩ name :=
      ⟨name, List.mem_cons_self, Text.respells_self name⟩
    exact Selection.answers_of_wants written foreign
      ((enables_iff stands _).mp (alone _ rfl rfl lists))
  refine ⟨⟨answers, fun known s _ _ => enabled known s⟩, ⟨?_, enabled⟩, fun _ => catalog_answers⟩
  intro always
  exact answers fun s _ _ => always s

theorem spelled_mapping_enables :
    let s : Selection := ⟨["Operable"], [], ["\tf24 "]⟩
    builtIn.entries[6]? = some ⟨.start ColorPairs.technique, true⟩ ∧
      ColorPairs.descriptor.AnswersTo "F24" ∧ s.Lists "F24" ∧ builtIn.Enables s 6 ∧
      (builtIn.configure s).enabledCodes = ["QW-CSS-T6", "QW-CSS-T7"] := by
  intro s
  have stands : builtIn.entries[6]? = some ⟨.start ColorPairs.technique, true⟩ := rfl
  have answers : ColorPairs.descriptor.AnswersTo "F24" := by decide
  have lists : s.Lists "F24" := ⟨"\tf24 ", List.mem_cons_self, "\t", "f24", " ", by decide⟩
  obtain ⟨_, always, _⟩ := name_enables_iff_answered builtIn 6 _ stands "F24"
  exact ⟨stands, answers, lists, always.mpr answers s lists, by decide⟩

/-- A technique whose names are not all in capital letters. -/
def ownTechnique : Technique :=
  .scripted ⟨"Own", "Own-1", "own", "", ⟨"*", []⟩, [], [], none⟩ [] .completed

/-- Neither name finds the technique as it stands, alone or beside a principle. -/
theorem own_names_find_nothing :
    let r := ofTechniques [ownTechnique]
    let alone : Selection := ⟨[], [], ["Own-1", "own"]⟩
    let beside : Selection := ⟨["Operable"], [], ["Own-1", "own"]⟩
    r.entries[0]? = some ⟨.start ownTechnique, true⟩ ∧
      alone.Lists ownTechnique.descriptor.code ∧ alone.Lists ownTechnique.descriptor.mapping ∧
      ¬ r.Enables alone 0 ∧ ¬ r.Enables beside 0 := by
  intro r alone beside
  have stands : r.entries[0]? = some ⟨.start ownTechnique, true⟩ := rfl
  refine ⟨stands, ⟨"Own-1", by decide, Text.respells_self _⟩,
    ⟨"own", by decide, Text.respells_self _⟩, ?_, ?_⟩
  · rw [enables_iff stands, ← Selection.selects_iff_wants]
    decide
  · rw [enables_iff stands, ← Selection.selects_iff_wants]
    decide

end Roster

end StyleAudit
