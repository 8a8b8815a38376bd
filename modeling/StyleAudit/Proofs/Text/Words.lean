import Mathlib.Data.List.Induction
import StyleAudit.Text.Blank

/-!
# Words of a text

The pieces of a text are exactly its parts without a separator that stand between separators or the
ends of the text. The words are those of them that are not empty.
-/

namespace StyleAudit.Text

set_option autoImplicit false

/-- The word holds no separator and stands in the text between separators or its ends. -/
def StandsIn (separates : Char → Bool) (word text : List Char) : Prop :=
  (∀ c ∈ word, separates c = false) ∧ ∃ before after, text = before ++ word ++ after ∧
    (∀ c ∈ before.getLast?, separates c = true) ∧ ∀ c ∈ after.head?, separates c = true

variable {separates : Char → Bool} {word : List Char}

theorem pieces_append_cons {separator : Char} (apart : separates separator = true)
    (first rest : List Char) :
    pieces separates (first ++ separator :: rest) =
      pieces separates first ++ pieces separates rest := by
  induction first with
  | nil =>
      cases divided : pieces separates rest with
      | nil => exact absurd divided (pieces_ne_nil separates rest)
      | cons piece others => simp [pieces, divided, apart]
  | cons c first ih =>
      rw [List.cons_append, pieces, pieces, ih]
      cases divided : pieces separates first with
      | nil => exact absurd divided (pieces_ne_nil separates first)
      | cons piece others =>
          dsimp only [List.cons_append]
          split <;> rfl

theorem pieces_of_plain (plain : ∀ c ∈ word, separates c = false) :
    pieces separates word = [word] := by
  induction word with
  | nil => rfl
  | cons c rest ih =>
      obtain ⟨here, later⟩ := List.forall_mem_cons.mp plain
      simp [pieces, ih later, here]

/-- Of parts that each end in a separator, and what stands behind them, the pieces are these. -/
theorem pieces_of_closed {separator : Char} (apart : separates separator = true)
    {parts : List (List Char)} {last : List Char}
    (plain : ∀ part ∈ parts, ∀ c ∈ part, separates c = false)
    (plainLast : ∀ c ∈ last, separates c = false) :
    pieces separates (parts.flatMap (· ++ [separator]) ++ last) = parts ++ [last] := by
  induction parts with
  | nil => exact pieces_of_plain plainLast
  | cons part rest ih =>
      obtain ⟨first, others⟩ := List.forall_mem_cons.mp plain
      rw [List.flatMap_cons, List.append_assoc, List.append_assoc, List.singleton_append,
        pieces_append_cons apart, pieces_of_plain first, ih others]
      rfl

theorem plain_or_divided (separates : Char → Bool) (text : List Char) :
    (∀ c ∈ text, separates c = false) ∨ ∃ first separator rest,
      text = first ++ separator :: rest ∧ (∀ c ∈ first, separates c = false) ∧
        separates separator = true := by
  cases found : text.find? separates with
  | none => exact .inl (by simpa using List.find?_eq_none.mp found)
  | some separator =>
      obtain ⟨apart, first, rest, divided, before⟩ := List.find?_eq_some_iff_append.mp found
      exact .inr ⟨first, separator, rest, divided, by simpa using before, apart⟩

namespace StandsIn

theorem alone (plain : ∀ c ∈ word, separates c = false) : StandsIn separates word word :=
  ⟨plain, [], [], by simp⟩

theorem first {separator : Char} (plain : ∀ c ∈ word, separates c = false)
    (apart : separates separator = true) (rest : List Char) :
    StandsIn separates word (word ++ separator :: rest) :=
  ⟨plain, [], separator :: rest, by simp [apart]⟩

theorem behind {separator : Char} {rest : List Char} (stands : StandsIn separates word rest)
    (apart : separates separator = true) (first : List Char) :
    StandsIn separates word (first ++ separator :: rest) := by
  obtain ⟨plain, before, after, rfl, begins, ends⟩ := stands
  refine ⟨plain, first ++ separator :: before, after, by simp, ?_, ends⟩
  cases before with
  | nil => simp [apart]
  | cons c before => simpa using begins

end StandsIn

theorem stands_of_mem_pieces (text : List Char) (inside : word ∈ pieces separates text) :
    StandsIn separates word text := by
  rcases plain_or_divided separates text with plain | ⟨first, separator, rest, rfl, plain, apart⟩
  · rw [pieces_of_plain plain, List.mem_singleton] at inside
    rw [inside]
    exact .alone plain
  · rw [pieces_append_cons apart, pieces_of_plain plain, List.singleton_append,
      List.mem_cons] at inside
    rcases inside with rfl | later
    · exact .first plain apart rest
    · have shorter : rest.length < (first ++ separator :: rest).length := by
        rw [List.length_append, List.length_cons]
        omega
      exact (stands_of_mem_pieces rest later).behind apart first
termination_by text.length

theorem mem_pieces_of_stands {text : List Char} (stands : StandsIn separates word text) :
    word ∈ pieces separates text := by
  obtain ⟨plain, before, after, rfl, begins, ends⟩ := stands
  have opens : word ∈ pieces separates (word ++ after) := by
    cases after with
    | nil => rw [List.append_nil, pieces_of_plain plain, List.mem_singleton]
    | cons separator rest =>
        rw [pieces_append_cons (ends separator rfl), pieces_of_plain plain]
        exact List.mem_append_left _ List.mem_cons_self
  rcases List.eq_nil_or_concat before with rfl | ⟨init, separator, rfl⟩
  · exact opens
  · have apart : separates separator = true := begins separator (by simp)
    rw [List.concat_eq_append, List.append_assoc, List.append_assoc, List.singleton_append,
      pieces_append_cons apart]
    exact List.mem_append_right _ opens

theorem mem_pieces_iff (text : List Char) :
    word ∈ pieces separates text ↔ StandsIn separates word text :=
  ⟨stands_of_mem_pieces text, mem_pieces_of_stands⟩

theorem mem_words_iff (text : List Char) :
    word ∈ words text ↔ word ≠ [] ∧ StandsIn isBlank word text := by
  simp only [words, wordsBy, List.mem_filter, mem_pieces_iff, Bool.not_eq_true', ne_eq,
    List.isEmpty_eq_false_iff, and_comm]

end StyleAudit.Text
