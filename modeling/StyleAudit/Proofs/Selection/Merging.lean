import StyleAudit.Proofs.Selection.Spelling

/-!
# Blanks in an overriding selection

A list that is given replaces the one it overrides, even if all its entries are blank and nothing
is left of it in normal spelling. So it makes no difference whether blanks are dropped before two
selections are merged or afterwards, unless a list of blanks replaces one that has an entry.
-/

namespace StyleAudit

set_option autoImplicit false

namespace Selection

/-- There are entries, and all of them are blank. -/
def IsBlankList (entries : List String) : Prop :=
  entries ≠ [] ∧ ∀ entry ∈ entries, Text.IsBlankText entry

/-- A list of blanks replaces a list that has an entry. -/
def Erases (base overriding : List String) : Prop :=
  IsBlankList overriding ∧ ∃ entry ∈ base, ¬ Text.IsBlankText entry

instance (base overriding : List String) : Decidable (Erases base overriding) :=
  inferInstanceAs (Decidable ((overriding ≠ [] ∧ ∀ entry ∈ overriding, Text.IsBlankText entry) ∧
    ∃ entry ∈ base, ¬ Text.IsBlankText entry))

def lists : List (Selection → List String) :=
  [principles, levels, techniques]

/-- Some list of the selection is lost to blanks. -/
def IsErasedBy (base overriding : Selection) : Prop :=
  ∃ list ∈ lists, Erases (list base) (list overriding)

instance (base overriding : Selection) : Decidable (base.IsErasedBy overriding) :=
  inferInstanceAs (Decidable (∃ list ∈ lists, Erases (list base) (list overriding)))

def dropBlanks (entries : List String) : List String :=
  entries.filter fun entry => ¬ Text.IsBlankText entry

/-- The selection in its own spelling, less the blank entries. -/
def withoutBlanks (s : Selection) : Selection where
  principles := dropBlanks s.principles
  levels := dropBlanks s.levels
  techniques := dropBlanks s.techniques

variable {spelling : String → String} {base overriding : List String}

theorem normalized_nil_iff :
    normalizeList spelling base = [] ↔ ∀ entry ∈ base, Text.IsBlankText entry := by
  simp only [normalize_list_eq_nil_iff, Text.trim_eq_empty_iff]

theorem drop_blanks_nil_iff : dropBlanks base = [] ↔ ∀ entry ∈ base, Text.IsBlankText entry := by
  simp only [dropBlanks, List.filter_eq_nil_iff, decide_eq_true_iff, Classical.not_not]

theorem normalize_drop_blanks (spelling : String → String) (entries : List String) :
    normalizeList spelling (dropBlanks entries) = normalizeList spelling entries := by
  rw [normalizeList, normalizeList, dropBlanks, List.filter_map, List.filter_map,
    List.filter_filter]
  congr 2
  refine List.filter_congr fun entry _ => ?_
  rw [Bool.eq_iff_iff, Bool.and_eq_true, decide_eq_true_iff, Function.comp_apply, bne_iff_ne,
    ne_eq, Text.trim_eq_empty_iff, and_self_iff]

theorem override_nil (base : List String) : overrideList base [] = base := rfl

theorem override_given (given : overriding ≠ []) : overrideList base overriding = overriding := by
  rw [overrideList, List.isEmpty_eq_false_iff.mpr given]
  rfl

/-- Dropping the blanks of both lists first, no list of blanks is left to replace another one. -/
theorem normalize_override_dropped :
    normalizeList spelling (overrideList (dropBlanks base) (dropBlanks overriding)) =
      overrideList (normalizeList spelling base) (normalizeList spelling overriding) := by
  by_cases blank : ∀ entry ∈ overriding, Text.IsBlankText entry
  · rw [drop_blanks_nil_iff.mpr blank, normalized_nil_iff.mpr blank, override_nil, override_nil,
      normalize_drop_blanks]
  · rw [override_given (mt drop_blanks_nil_iff.mp blank),
      override_given (mt normalized_nil_iff.mp blank), normalize_drop_blanks]

theorem normalize_override_iff :
    normalizeList spelling (overrideList base overriding) =
      overrideList (normalizeList spelling base) (normalizeList spelling overriding) ↔
        ¬ Erases base overriding := by
  by_cases blanks : IsBlankList overriding
  · rw [override_given blanks.1, normalized_nil_iff.mpr blanks.2, override_nil, eq_comm,
      normalized_nil_iff, Erases, and_iff_right blanks]
    simp only [not_exists, not_and, Classical.not_not]
  · have kept : ¬ Erases base overriding := fun erased => blanks erased.1
    rw [iff_true_right kept]
    by_cases ungiven : overriding = []
    · rw [ungiven]
      rfl
    · have entry : ¬ ∀ entry ∈ overriding, Text.IsBlankText entry :=
        fun all => blanks ⟨ungiven, all⟩
      rw [override_given ungiven, override_given (mt normalized_nil_iff.mp entry)]

theorem normalize_erased (spelling : String → String) (erased : Erases base overriding) :
    normalizeList spelling (overrideList base overriding) = [] ∧
      normalizeList spelling overriding = [] ∧ normalizeList spelling base ≠ [] := by
  obtain ⟨⟨given, blank⟩, entry, listed, written⟩ := erased
  have nothing : normalizeList spelling overriding = [] := normalized_nil_iff.mpr blank
  refine ⟨?_, nothing, ?_⟩
  · rw [override_given given, nothing]
  · intro empty
    exact written (normalized_nil_iff.mp empty entry listed)

theorem each_list {list : Selection → List String} (member : list ∈ lists) :
    ∃ spelling, (∀ s, list s.normalized = normalizeList spelling (list s)) ∧
      ∀ s t, list (s.merge t) = overrideList (list s) (list t) := by
  simp only [lists, List.mem_cons, List.not_mem_nil, or_false] at member
  rcases member with rfl | rfl | rfl
  · exact ⟨Text.title, fun _ => rfl, fun _ _ => rfl⟩
  · exact ⟨Text.upper, fun _ => rfl, fun _ _ => rfl⟩
  · exact ⟨Text.upper, fun _ => rfl, fun _ _ => rfl⟩

theorem normalized_merge_dropped (base overriding : Selection) :
    (base.withoutBlanks.merge overriding.withoutBlanks).normalized =
      base.normalized.merge overriding.normalized := by
  rw [normalized, merge, normalized, normalized]
  simp only [withoutBlanks, normalize_override_dropped]
  rfl

theorem normalized_merge_iff (base overriding : Selection) :
    (base.merge overriding).normalized = base.normalized.merge overriding.normalized ↔
      ¬ base.IsErasedBy overriding := by
  simp only [normalized, merge, mk.injEq, normalize_override_iff, IsErasedBy, lists,
    List.mem_cons, List.not_mem_nil, or_false, exists_eq_or_imp, exists_eq_left, not_or]

end Selection

namespace Roster

/-- To merge two selections and to bring them to normal spelling may be done in either order just if
no list is lost to blanks. Then a roster is configured alike, whether the blanks are dropped before
the merge or come along. A list that is lost to blanks counts as not given. -/
theorem merging_normalizes_unless_erased (base overriding : Selection) :
    let merged := base.merge overriding
    (merged.normalized = base.normalized.merge overriding.normalized ↔
      ¬ base.IsErasedBy overriding) ∧
    (¬ base.IsErasedBy overriding → ∀ r : Roster,
      r.configure merged = r.configure (base.withoutBlanks.merge overriding.withoutBlanks)) ∧
    ∀ list ∈ Selection.lists, Selection.Erases (list base) (list overriding) →
      list merged.normalized = [] ∧
        list (base.normalized.merge overriding.normalized) = list base.normalized ∧
        list base.normalized ≠ [] := by
  intro merged
  have same := Selection.normalized_merge_iff base overriding
  refine ⟨same, ?_, ?_⟩
  · intro kept r
    rw [configure, configure, same.mpr kept, Selection.normalized_merge_dropped]
  · intro list member erased
    obtain ⟨spelling, normal, merge⟩ := Selection.each_list member
    obtain ⟨nothing, blanks, entry⟩ := Selection.normalize_erased spelling erased
    rw [normal, merge, merge, normal, normal, blanks, Selection.override_nil]
    exact ⟨nothing, rfl, entry⟩

def namingOne : Selection :=
  ⟨[], [], ["QW-CSS-T1"]⟩

theorem blanks_beside_entries_erase_nothing :
    let overriding : Selection := ⟨[" "], [], ["", " f4"]⟩
    let merged := namingOne.merge overriding
    ¬ namingOne.IsErasedBy overriding ∧
      merged.normalized = namingOne.normalized.merge overriding.normalized ∧
      builtIn.configure merged =
        builtIn.configure (namingOne.withoutBlanks.merge overriding.withoutBlanks) ∧
      (builtIn.configure merged).enabledCodes = ["QW-CSS-T6"] := by
  intro overriding merged
  have kept : ¬ namingOne.IsErasedBy overriding := by decide
  obtain ⟨same, configured, _⟩ := merging_normalizes_unless_erased namingOne overriding
  exact ⟨kept, same.mpr kept, configured kept builtIn, by decide⟩

/-- One blank in place of a name enables every technique. -/
theorem blank_name_erases_the_named :
    let overriding : Selection := ⟨[], [], [" "]⟩
    let merged := namingOne.merge overriding
    let normalizedFirst := namingOne.normalized.merge overriding.normalized
    merged.normalized ≠ normalizedFirst ∧
      (builtIn.configure merged).enabledCodes.length = 8 ∧
      (builtIn.configure normalizedFirst).enabledCodes = ["QW-CSS-T1"] := by
  decide

end Roster

end StyleAudit
