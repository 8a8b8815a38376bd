import Mathlib.Logic.Relation
import StyleAudit.Proofs.Selection.Filter
import StyleAudit.Proofs.Text.Spelling

/-!
# Noise in a selection

Letters in another case, blanks around an entry, blank entries, entries written twice and entries
in another order are noise. A list in normal spelling holds the same names with noise and without,
and what a selection selects hangs only on which names its lists hold.
-/

namespace StyleAudit

set_option autoImplicit false

/-- One piece of noise in a list of entries. -/
inductive Noise : List String → List String → Prop where
  | respelled (before after : List String) {entry spelled : String}
      (same : Text.Respells entry spelled) :
      Noise (before ++ entry :: after) (before ++ spelled :: after)
  | blank (before after : List String) {entry : String} (blank : Text.IsBlankText entry) :
      Noise (before ++ after) (before ++ entry :: after)
  | repeated (before after : List String) {entry : String} (listed : entry ∈ before ++ after) :
      Noise (before ++ after) (before ++ entry :: after)
  | reordered {entries others : List String} (permuted : entries.Perm others) :
      Noise entries others

/-- The lists are the same up to noise that was brought in or taken out. -/
abbrev SameUpToNoise : List String → List String → Prop :=
  Relation.EqvGen Noise

namespace Selection

variable {spelling : String → String} {entries others : List String}

theorem mem_normalize_list_iff {name : String} : name ∈ normalizeList spelling entries ↔
    ∃ entry ∈ entries, Text.trim entry ≠ "" ∧ spelling (Text.trim entry) = name := by
  simp only [normalizeList, List.mem_map, List.mem_filter, bne_iff_ne]
  constructor
  · rintro ⟨_, ⟨⟨entry, listed, rfl⟩, written⟩, same⟩
    exact ⟨entry, listed, written, same⟩
  · rintro ⟨entry, listed, written, same⟩
    exact ⟨_, ⟨⟨entry, listed, rfl⟩, written⟩, same⟩

/-- The two lists hold the same names. -/
def SameNames (names others : List String) : Prop :=
  ∀ name, name ∈ names ↔ name ∈ others

theorem normalized_of_noise (ignores : Text.IgnoresCase spelling) (noise : Noise entries others) :
    SameNames (normalizeList spelling entries) (normalizeList spelling others) := by
  intro name
  cases noise with
  | respelled before after same =>
      simp only [mem_normalize_list_iff, List.mem_append, List.mem_cons, or_and_right, exists_or,
        exists_eq_left, same.mapped ignores, ne_eq, same.blank_iff]
  | blank before after blank =>
      simp only [mem_normalize_list_iff, List.mem_append, List.mem_cons, or_and_right, exists_or,
        exists_eq_left, (Text.trim_eq_empty_iff _).mpr blank, ne_eq, not_true_eq_false, false_and,
        false_or]
  | @repeated before after entry listed =>
      have same (other : String) : other ∈ before ++ entry :: after ↔ other ∈ before ++ after := by
        rw [List.mem_append, List.mem_cons, or_left_comm, ← List.mem_append, or_iff_right_iff_imp]
        rintro rfl
        exact listed
      simp only [mem_normalize_list_iff, same]
  | reordered permuted =>
      simp only [mem_normalize_list_iff, permuted.mem_iff]

theorem normalized_up_to_noise (ignores : Text.IgnoresCase spelling)
    (alike : SameUpToNoise entries others) :
    SameNames (normalizeList spelling entries) (normalizeList spelling others) := by
  induction alike with
  | rel _ _ noise => exact normalized_of_noise ignores noise
  | refl => exact fun _ => Iff.rfl
  | symm _ _ _ ih => exact fun name => (ih name).symm
  | trans _ _ _ _ _ first second => exact fun name => (first name).trans (second name)

theorem SameNames.nil_iff {names others : List String} (same : SameNames names others) :
    names = [] ↔ others = [] := by
  rw [List.eq_nil_iff_forall_not_mem, List.eq_nil_iff_forall_not_mem]
  exact forall_congr' fun name => not_congr (same name)

theorem selects_of_same_names {s t : Selection} (principles : SameNames s.principles t.principles)
    (levels : SameNames s.levels t.levels) (techniques : SameNames s.techniques t.techniques)
    (d : Descriptor) : s.selects d = t.selects d := by
  rw [Bool.eq_iff_iff, selects_iff_wants, selects_iff_wants]
  simp only [Wants, Descriptor.Serves, Descriptor.IsNamed, principles _, levels _, techniques _,
    principles.nil_iff, levels.nil_iff, techniques.nil_iff, ne_eq]

/-- Each of the three lists is the same up to noise. -/
structure Alike (s t : Selection) : Prop where
  principles : SameUpToNoise s.principles t.principles
  levels : SameUpToNoise s.levels t.levels
  techniques : SameUpToNoise s.techniques t.techniques

theorem Alike.selects {s t : Selection} (alike : s.Alike t) (d : Descriptor) :
    s.normalized.selects d = t.normalized.selects d :=
  selects_of_same_names (normalized_up_to_noise Text.title_ignores_case alike.principles)
    (normalized_up_to_noise Text.upper_ignores_case alike.levels)
    (normalized_up_to_noise Text.upper_ignores_case alike.techniques) d

end Selection

namespace Roster

/-- Selections that are the same up to noise enable the same techniques in every roster, whatever
was enabled before. -/
theorem noise_does_not_select (r : Roster) {s t : Selection} (alike : s.Alike t) :
    r.configure s = r.configure t := by
  rw [configure, configure]
  congr 1
  refine List.map_congr_left fun e _ => ?_
  rw [alike.selects]

def plainSelection : Selection :=
  ⟨["Perceivable"], ["A"], ["F4", "été"]⟩

def noisySelection : Selection :=
  ⟨["\t", "perCEIVABLE "], ["A", " a"], [" éTé", "f4"]⟩

theorem noisy_selection_selects_the_same :
    noisySelection.Alike plainSelection ∧
      builtIn.configure noisySelection = builtIn.configure plainSelection ∧
      (builtIn.configure noisySelection).enabledCodes = ["QW-CSS-T4", "QW-CSS-T6"] := by
  have respelled {name listed : String} (before after : List String)
      (same : Text.Respells name listed) :
      SameUpToNoise (before ++ name :: after) (before ++ listed :: after) :=
    .rel _ _ (.respelled before after same)
  have loud : SameUpToNoise ["Perceivable"] ["perCEIVABLE "] :=
    respelled [] [] ⟨"", "perCEIVABLE", " ", by decide⟩
  have blank : SameUpToNoise ["perCEIVABLE "] ["\t", "perCEIVABLE "] :=
    .rel _ _ (.blank [] ["perCEIVABLE "] (by decide))
  have repeated : SameUpToNoise ["A"] ["A", "A"] :=
    .rel _ _ (.repeated ["A"] [] (by decide))
  have soft : SameUpToNoise ["A", "A"] ["A", " a"] :=
    respelled ["A"] [] ⟨" ", "a", "", by decide⟩
  have mapping : SameUpToNoise ["F4", "été"] ["f4", "été"] :=
    respelled [] ["été"] ⟨"", "f4", "", by decide⟩
  have accented : SameUpToNoise ["f4", "été"] ["f4", " éTé"] :=
    respelled ["f4"] [] ⟨" ", "éTé", "", by decide⟩
  have swapped : SameUpToNoise ["f4", " éTé"] [" éTé", "f4"] :=
    .rel _ _ (.reordered (.swap _ _ []))
  have alike : noisySelection.Alike plainSelection :=
    ⟨(loud.trans _ _ _ blank).symm _ _, (repeated.trans _ _ _ soft).symm _ _,
      (mapping.trans _ _ _ (accented.trans _ _ _ swapped)).symm _ _⟩
  exact ⟨alike, noise_does_not_select builtIn alike, by decide⟩

end Roster

end StyleAudit
