import Mathlib.Data.List.TakeWhile
import StyleAudit.Text.Blank
import StyleAudit.Text.Casing

/-!
# Spellings of a name

A name may be written with its letters A to Z in either case and with blanks around it. A case
mapping that does not tell the two cases of a letter apart maps all these spellings, once they are
trimmed, to the same text.
-/

namespace StyleAudit.Text

set_option autoImplicit false

def IsBlankText (s : String) : Prop :=
  ∀ c ∈ s.toList, isBlank c = true

instance (s : String) : Decidable (IsBlankText s) :=
  List.decidableBAll (fun c => isBlank c = true) s.toList

/-- The second text is the first one in other cases of the letters A to Z, with blanks around. -/
def Respells (name listed : String) : Prop :=
  ∃ left word right, listed = left ++ word ++ right ∧ IsBlankText left ∧ IsBlankText right ∧
    asciiLower word = asciiLower name

/-- The mapping does not tell the two cases of a letter A to Z apart. -/
def IgnoresCase (mapping : String → String) : Prop :=
  ∀ s, mapping (asciiLower s) = mapping s

theorem to_lower_beyond_ascii {c : Char} (beyond : 0x80 ≤ c.toNat) : c.toLower = c := by
  have noCapital : ¬ (c.val ≥ 'A'.val ∧ c.val ≤ 'Z'.val) := by
    rintro ⟨_, upToZ⟩
    have last : c.toNat ≤ 'Z'.toNat := UInt32.le_iff_toNat_le.mp upToZ
    exact absurd (Nat.le_trans beyond last) (by decide)
  exact dif_neg noCapital

/-- What is the same for each of the first 128 characters and its lower case is so for all
characters, as the others have no ASCII lower case. -/
theorem same_in_lower_case {α : Type} (f : Char → α)
    (inAscii : ∀ n < 0x80, f (Char.ofNat n).toLower = f (Char.ofNat n)) (c : Char) :
    f c.toLower = f c := by
  by_cases beyond : 0x80 ≤ c.toNat
  · rw [to_lower_beyond_ascii beyond]
  · have held := inAscii c.toNat (Nat.lt_of_not_le beyond)
    rwa [Char.ofNat_toNat] at held

theorem upper_char_to_lower (c : Char) : upperChar c.toLower = upperChar c :=
  same_in_lower_case upperChar (by decide) c

theorem lower_char_to_lower (c : Char) : lowerChar c.toLower = lowerChar c :=
  same_in_lower_case lowerChar (by decide) c

theorem is_blank_to_lower (c : Char) : isBlank c.toLower = isBlank c :=
  same_in_lower_case isBlank (by decide) c

theorem upper_ignores_case : IgnoresCase upper := by
  intro s
  rw [upper, upper, asciiLower, String.toList_ofList, List.flatMap_map]
  simp only [upper_char_to_lower]

theorem title_chars_to_lower (cs : List Char) :
    titleChars (cs.map Char.toLower) = titleChars cs := by
  cases cs with
  | nil => rfl
  | cons c rest =>
      rw [List.map_cons, titleChars, titleChars, upper_char_to_lower, List.flatMap_map]
      simp only [lower_char_to_lower]

theorem title_ignores_case : IgnoresCase title := by
  intro s
  rw [title, title, asciiLower, String.toList_ofList, title_chars_to_lower]

theorem trim_ascii_lower (s : String) : trim (asciiLower s) = asciiLower (trim s) := by
  have blanks : isBlank ∘ Char.toLower = isBlank := funext is_blank_to_lower
  simp only [trim, asciiLower, String.toList_ofList, trimChars, List.dropWhile_map, blanks,
    ← List.map_reverse]

theorem trim_chars_padded {drop : Char → Bool} {left right : List Char}
    (before : ∀ c ∈ left, drop c = true) (after : ∀ c ∈ right, drop c = true) (word : List Char) :
    trimChars drop (left ++ word ++ right) = trimChars drop word := by
  have lastDropped : ∀ c ∈ right.reverse, drop c = true := by
    intro c inside
    exact after c (List.mem_reverse.mp inside)
  rw [trimChars, trimChars, List.append_assoc, List.dropWhile_append_of_pos before,
    List.dropWhile_append]
  split
  · rename_i nothing
    -- Nothing of the word is left, so nothing of the right end is left behind it.
    rw [List.isEmpty_iff.mp nothing, List.dropWhile_eq_nil_iff.mpr after]
  · rw [List.reverse_append, List.dropWhile_append_of_pos lastDropped]

theorem trim_padded {left right : String} (before : IsBlankText left) (after : IsBlankText right)
    (word : String) : trim (left ++ word ++ right) = trim word := by
  rw [trim, trim, String.toList_append, String.toList_append, trim_chars_padded before after]

theorem dropped_or_kept {drop : Char → Bool} {c : Char} {cs : List Char} (inside : c ∈ cs) :
    drop c = true ∨ c ∈ cs.dropWhile drop := by
  rw [← List.takeWhile_append_dropWhile (p := drop) (l := cs), List.mem_append] at inside
  exact inside.imp List.mem_takeWhile_imp id

theorem trimmed_or_kept {drop : Char → Bool} {c : Char} {cs : List Char} (inside : c ∈ cs) :
    drop c = true ∨ c ∈ trimChars drop cs := by
  rcases dropped_or_kept inside with dropped | kept
  · exact .inl dropped
  · rw [trimChars, List.mem_reverse]
    exact dropped_or_kept (List.mem_reverse.mpr kept)

theorem trim_chars_eq_nil_iff (drop : Char → Bool) (cs : List Char) :
    trimChars drop cs = [] ↔ ∀ c ∈ cs, drop c = true := by
  rw [trimChars, List.reverse_eq_nil_iff, List.dropWhile_eq_nil_iff]
  constructor
  · intro rest c inside
    rw [← List.takeWhile_append_dropWhile (p := drop) (l := cs), List.mem_append] at inside
    rcases inside with dropped | left
    · exact List.mem_takeWhile_imp dropped
    · exact rest c (List.mem_reverse.mpr left)
  · intro all c inside
    exact all c ((List.dropWhile_sublist drop).subset (List.mem_reverse.mp inside))

theorem trim_eq_empty_iff (s : String) : trim s = "" ↔ IsBlankText s := by
  rw [IsBlankText, ← trim_chars_eq_nil_iff, trim, ← String.toList_inj, String.toList_ofList]
  rfl

theorem ascii_lower_eq_empty_iff (s : String) : asciiLower s = "" ↔ s = "" := by
  rw [asciiLower, ← String.toList_inj, String.toList_ofList, ← String.toList_inj]
  exact List.map_eq_nil_iff

theorem respells_self (name : String) : Respells name name :=
  ⟨"", name, "", by simp, by decide, by decide, rfl⟩

namespace Respells

variable {name listed : String}

theorem trimmed (spelled : Respells name listed) :
    asciiLower (trim listed) = asciiLower (trim name) := by
  obtain ⟨left, word, right, rfl, before, after, letters⟩ := spelled
  rw [trim_padded before after, ← trim_ascii_lower, letters, trim_ascii_lower]

theorem mapped (spelled : Respells name listed) {mapping : String → String}
    (ignores : IgnoresCase mapping) : mapping (trim listed) = mapping (trim name) := by
  rw [← ignores, spelled.trimmed, ignores]

theorem blank_iff (spelled : Respells name listed) : trim listed = "" ↔ trim name = "" := by
  rw [← ascii_lower_eq_empty_iff, spelled.trimmed, ascii_lower_eq_empty_iff]

end Respells

end StyleAudit.Text
