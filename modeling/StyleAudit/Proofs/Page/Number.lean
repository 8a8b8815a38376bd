import StyleAudit.Page.Mapping
import StyleAudit.Proofs.Json.Numeral

/-!
# Numbers as ids

The id of a number stands for that number as long as it fits in 64 bits, so ids of such numbers are
in document order exactly if their numbers increase, however many digits they have.
-/

namespace StyleAudit.Page

set_option autoImplicit false

theorem number_id_to_list (n : Nat) : (numberId n).toList = Nat.toDigits 10 n := by
  rw [numberId, Nat.toString_eq_ofList_toDigits, String.toList_ofList]

theorem number_id_injective {m n : Nat} (same : numberId m = numberId n) : m = n := by
  have digits : Nat.toDigits 10 m = Nat.toDigits 10 n := by
    rw [← number_id_to_list, ← number_id_to_list, same]
  have value := congrArg (fun digits => Nat.ofDigitChars 10 digits 0) digits
  simpa only [Nat.ofDigitChars_ten_toDigits] using value

private theorem digits_unsigned (n : Nat) (rest : List Char) : Nat.toDigits 10 n ≠ '+' :: rest := by
  intro signed
  have digit := Json.digits_are_digits (n := n) '+' (by rw [signed]; exact List.mem_cons_self)
  exact absurd digit (by decide)

theorem natural_of_digits (n : Nat) : Binary64.natural? (Nat.toDigits 10 n) = some n := by
  have some_digit : (Nat.toDigits 10 n).isEmpty = false :=
    List.isEmpty_eq_false_iff.mpr Nat.toDigits_ne_nil
  have all_digits : (Nat.toDigits 10 n).all Char.isDigit = true :=
    List.all_eq_true.mpr Json.digits_are_digits
  have value : Binary64.digitsValue (Nat.toDigits 10 n) = n := Nat.ofDigitChars_ten_toDigits
  rw [Binary64.natural?, some_digit, all_digits, value]
  rfl

theorem position_of_number_id_eq (n : Nat) :
    position? (numberId n) = if n ≤ largestPosition then some n else none := by
  unfold position?
  rw [number_id_to_list]
  dsimp only
  split
  next signed => exact absurd signed (digits_unsigned n _)
  next =>
    rw [natural_of_digits, Option.filter_some]
    simp only [decide_eq_true_eq]

theorem position_of_number_id {n : Nat} (fits : n ≤ largestPosition) :
    position? (numberId n) = some n := by
  rw [position_of_number_id_eq, if_pos fits]

theorem number_ids_not_after {m n : Nat} (first : m ≤ largestPosition)
    (second : n ≤ largestPosition) : notAfter (numberId m) (numberId n) = decide (m ≤ n) := by
  rw [notAfter, position_of_number_id first, position_of_number_id second]

theorem in_document_order_of_numbers {ids : List String} {numbers : List Nat}
    (perm : ids.Perm (numbers.map numberId)) (increasing : numbers.Pairwise (· < ·))
    (fits : ∀ n ∈ numbers, n ≤ largestPosition) :
    inDocumentOrder ids = numbers.map numberId := by
  have listed : (inDocumentOrder ids).Perm (numbers.map numberId) :=
    (List.mergeSort_perm ids notAfter).trans perm
  have sorted : (inDocumentOrder ids).Pairwise fun a b => notAfter a b = true :=
    List.pairwise_mergeSort notAfter_trans notAfter_total ids
  have target : (numbers.map numberId).Pairwise fun a b => notAfter a b = true := by
    rw [List.pairwise_map]
    refine increasing.imp_of_mem ?_
    intro m n memberM memberN below
    rw [number_ids_not_after (fits m memberM) (fits n memberN), decide_eq_true_iff]
    exact Nat.le_of_lt below
  refine listed.eq_of_pairwise ?_ sorted target
  intro a b memberA memberB before after
  obtain ⟨m, memberM, rfl⟩ := List.mem_map.mp (listed.mem_iff.mp memberA)
  obtain ⟨n, memberN, rfl⟩ := List.mem_map.mp memberB
  rw [number_ids_not_after (fits m memberM) (fits n memberN), decide_eq_true_iff] at before
  rw [number_ids_not_after (fits n memberN) (fits m memberM), decide_eq_true_iff] at after
  rw [Nat.le_antisymm before after]

end StyleAudit.Page
