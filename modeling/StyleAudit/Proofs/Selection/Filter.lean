import Mathlib.Data.List.Forall2
import StyleAudit.Proofs.History

/-!
# What a selection selects

Every flag is decided by the selection that was applied last. Principles and levels ask for one
criterion that meets both. Names restrict the techniques when they stand alone; beside principles
or levels they only add to them. Nothing is left of the flags there were before.
-/

namespace StyleAudit

set_option autoImplicit false

/-- Some single criterion has one of the principles and one of the levels, where an empty list asks
for nothing. -/
def Descriptor.Serves (d : Descriptor) (principles levels : List String) : Prop :=
  ∃ c ∈ d.criteria, (principles = [] ∨ c.principle.name ∈ principles) ∧
    (levels = [] ∨ c.level.name ∈ levels)

def Descriptor.IsNamed (d : Descriptor) (names : List String) : Prop :=
  d.code ∈ names ∨ d.mapping ∈ names

namespace Selection

/-- A selection in normal spelling wants a technique. -/
def Wants (s : Selection) (d : Descriptor) : Prop :=
  (s.principles = [] ∧ s.levels = [] ∧ (s.techniques = [] ∨ d.IsNamed s.techniques)) ∨
    ((s.principles ≠ [] ∨ s.levels ≠ []) ∧
      (d.Serves s.principles s.levels ∨ d.IsNamed s.techniques))

theorem normalize_list_eq_nil_iff (spelling : String → String) (entries : List String) :
    normalizeList spelling entries = [] ↔ ∀ entry ∈ entries, Text.trim entry = "" := by
  simp only [normalizeList, List.map_eq_nil_iff, List.filter_eq_nil_iff, List.forall_mem_map,
    bne_iff_ne, ne_eq, Classical.not_not]

private theorem mem_given_or_all_iff {given all : List String} {name : String}
    (known : name ∈ all) : (if given.isEmpty then all else given).contains name = true ↔
      given = [] ∨ name ∈ given := by
  cases given with
  | nil => simp [known]
  | cons first rest => simp

private theorem principle_known (p : Principle) : p.name ∈ Principle.all.map Principle.name := by
  cases p <;> decide

private theorem level_known (l : Level) : l.name ∈ Level.all.map Level.name := by
  cases l <;> decide

theorem meets_iff_serves (d : Descriptor) (principles levels : List String) :
    d.meets (if principles.isEmpty then Principle.all.map Principle.name else principles)
      (if levels.isEmpty then Level.all.map Level.name else levels) = true ↔
      d.Serves principles levels := by
  simp only [Descriptor.meets, List.any_eq_true, Bool.and_eq_true, Descriptor.Serves,
    mem_given_or_all_iff (principle_known _), mem_given_or_all_iff (level_known _)]

theorem called_iff_named (d : Descriptor) (names : List String) :
    names.any d.isCalled = true ↔ d.IsNamed names := by
  simp only [List.any_eq_true, Descriptor.isCalled, Bool.or_eq_true, beq_iff_eq,
    Descriptor.IsNamed]
  constructor
  · rintro ⟨_, member, rfl | rfl⟩
    · exact .inl member
    · exact .inr member
  · rintro (member | member)
    · exact ⟨_, member, .inl rfl⟩
    · exact ⟨_, member, .inr rfl⟩

theorem selects_iff_wants (s : Selection) (d : Descriptor) : s.selects d = true ↔ s.Wants d := by
  rw [selects]
  by_cases ungiven : s.principles = [] ∧ s.levels = []
  · obtain ⟨principles, levels⟩ := ungiven
    simp only [principles, levels, List.isEmpty_nil, Bool.and_self, if_true, Bool.or_eq_true,
      List.isEmpty_iff, called_iff_named, Wants, true_and, ne_eq, not_true_eq_false, or_self,
      false_and, or_false]
  · have closed : (s.principles.isEmpty && s.levels.isEmpty) = false := by
      rw [Bool.eq_false_iff, ne_eq, Bool.and_eq_true, List.isEmpty_iff, List.isEmpty_iff]
      exact ungiven
    have given : s.principles ≠ [] ∨ s.levels ≠ [] := Classical.not_and_iff_not_or_not.mp ungiven
    rw [closed, if_neg Bool.false_ne_true, Bool.or_eq_true, meets_iff_serves, called_iff_named,
      Wants, ← and_assoc]
    simp only [ungiven, false_and, false_or, given, true_and]

/-- Beside principles or levels, names add techniques and take none away. -/
theorem Wants.of_unnamed {s : Selection} {d : Descriptor} (names : List String)
    (given : s.principles ≠ [] ∨ s.levels ≠ []) (wanted : Wants { s with techniques := [] } d) :
    Wants { s with techniques := names } d := by
  rcases wanted with ⟨principles, levels, _⟩ | ⟨_, served | named⟩
  · exact absurd ⟨principles, levels⟩ (Classical.not_and_iff_not_or_not.mpr given)
  · exact .inr ⟨given, .inl served⟩
  · rcases named with none | none <;> cases none

end Selection

namespace Roster

theorem configured_flags (r : Roster) (s : Selection) :
    (r.configure s).entries.map Entry.enabled =
      (r.entries.map fun e => e.member.technique).map fun t =>
        s.normalized.selects t.descriptor := by
  rw [configure, List.map_map, List.map_map]
  rfl

/-- Whatever calls came before, a selection enables exactly the techniques that it wants in normal
spelling, where a list of blanks is no list. It never adds to earlier selections, and beside
principles or levels a list of names takes no technique away. -/
theorem selection_decides_after_any_history (r : Roster) (calls : List Call) (s : Selection) :
    let used := calls.foldl call r
    List.Forall₂ (fun before after => after.member.technique = before.member.technique ∧
        (after.enabled = true ↔ s.normalized.Wants before.descriptor))
      r.entries (used.configure s).entries ∧
    (s.normalized.principles = [] ↔ ∀ entry ∈ s.principles, Text.trim entry = "") ∧
    (s.normalized.levels = [] ↔ ∀ entry ∈ s.levels, Text.trim entry = "") ∧
    (s.normalized.techniques = [] ↔ ∀ entry ∈ s.techniques, Text.trim entry = "") ∧
    (used.configure s).entries.map Entry.enabled = (r.configure s).entries.map Entry.enabled ∧
    (s.normalized.principles ≠ [] ∨ s.normalized.levels ≠ [] → ∀ names,
      List.Forall₂ (fun alone beside => alone.enabled = true → beside.enabled = true)
        (used.configure { s with techniques := [] }).entries
        (used.configure { s with techniques := names }).entries) := by
  intro used
  have techniques := calls_techniques r calls
  refine ⟨?_, Selection.normalize_list_eq_nil_iff _ _, Selection.normalize_list_eq_nil_iff _ _,
    Selection.normalize_list_eq_nil_iff _ _, ?_, ?_⟩
  · rw [configure, List.forall₂_map_right_iff]
    rw [← List.forall₂_eq_eq_eq, List.forall₂_map_left_iff,
      List.forall₂_map_right_iff] at techniques
    refine List.Forall₂.imp ?_ techniques.flip
    intro before after same
    have described : after.descriptor = before.descriptor := congrArg Technique.descriptor same
    refine ⟨same, ?_⟩
    rw [← described]
    exact Selection.selects_iff_wants s.normalized after.descriptor
  · rw [configured_flags, configured_flags, techniques]
  · intro given names
    rw [configure, configure, List.forall₂_map_left_iff, List.forall₂_map_right_iff,
      List.forall₂_same]
    intro e _ alone
    rw [Selection.selects_iff_wants] at alone ⊢
    exact Selection.Wants.of_unnamed (s := s.normalized) _ given alone

end Roster

end StyleAudit
