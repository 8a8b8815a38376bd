import StyleAudit.Html.Reference
import StyleAudit.Page.Markup

/-!
# Escaped values

A value that was escaped for a place between double quotes is read back as it was. The escaped
value holds no character that is neither the value's own nor part of a reference.
-/

namespace StyleAudit.Html

set_option autoImplicit false

open Page (escapeChar)

theorem escaped_char_decoded (c : Char) (fuel : Nat) (rest : List Char) :
    decodeFrom true (fuel + 1) (escapeChar c ++ rest) = c :: decodeFrom true fuel rest := by
  unfold escapeChar
  split
  · rfl
  · rfl
  · rfl
  · rename_i no_ampersand _ _
    rw [List.singleton_append, decodeFrom]
    exact no_ampersand

theorem escaped_chars_decoded (cs : List Char) (fuel : Nat) (enough : cs.length ≤ fuel) :
    decodeFrom true fuel (cs.flatMap escapeChar) = cs := by
  induction cs generalizing fuel with
  | nil => cases fuel <;> rfl
  | cons c cs ih =>
      obtain ⟨fuel, rfl⟩ : ∃ rest, fuel = rest + 1 := ⟨fuel - 1, by simp at enough; omega⟩
      rw [List.flatMap_cons, escaped_char_decoded, ih fuel (by simpa using enough)]

theorem escaped_char_ne_nil (c : Char) : escapeChar c ≠ [] := by
  unfold escapeChar
  split <;> simp

theorem length_escaped_chars (cs : List Char) : cs.length ≤ (cs.flatMap escapeChar).length := by
  induction cs with
  | nil => exact Nat.le_refl 0
  | cons c cs ih =>
      have one := List.length_pos_iff.mpr (escaped_char_ne_nil c)
      rw [List.flatMap_cons, List.length_append, List.length_cons]
      omega

theorem decode_escaped (cs : List Char) : decode true (cs.flatMap escapeChar) = cs := by
  have long := length_escaped_chars cs
  exact escaped_chars_decoded cs _ (by omega)

def referenceChars : List Char :=
  "&ampquotlt;".toList

theorem escaped_char_subset (c : Char) : escapeChar c ⊆ c :: referenceChars := by
  unfold escapeChar
  split
  · decide
  · decide
  · decide
  · rw [List.cons_subset]
    exact ⟨List.mem_cons_self, List.nil_subset _⟩

theorem mem_of_mem_escaped {c : Char} {cs : List Char} (foreign : c ∉ referenceChars)
    (member : c ∈ cs.flatMap escapeChar) : c ∈ cs := by
  obtain ⟨own, listed, inside⟩ := List.mem_flatMap.mp member
  rcases List.mem_cons.mp (escaped_char_subset own inside) with rfl | known
  · exact listed
  · exact absurd known foreign

end StyleAudit.Html
