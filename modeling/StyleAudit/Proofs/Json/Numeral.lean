import StyleAudit.Json.Token
import Mathlib.Data.List.TakeWhile

/-!
# Numerals

The decimal digits of a whole number that fits in 64 bits are read back as that number. Digits are
taken up only while the significand still fits, so the bound on the number has to be carried down
to every beginning of its digits.
-/

namespace StyleAudit.Json

set_option autoImplicit false

private theorem le_of_digit_chars (digits : List Char) (start : Nat) :
    start ≤ Nat.ofDigitChars 10 digits start := by
  induction digits generalizing start with
  | nil => simp
  | cons digit rest ih =>
      rw [Nat.ofDigitChars_cons]
      have further := ih (10 * start + (digit.toNat - '0'.toNat))
      omega

theorem accumulate_fitting (digits : List Char) (start : Nat)
    (fits : Nat.ofDigitChars 10 digits start ≤ largestWord) :
    accumulate start digits = (Nat.ofDigitChars 10 digits start, []) := by
  induction digits generalizing start with
  | nil => rfl
  | cons digit rest ih =>
      rw [Nat.ofDigitChars_cons] at fits ⊢
      have within := Nat.le_trans (le_of_digit_chars rest _) fits
      rw [accumulate]
      rw [if_neg (Nat.not_lt.2 within)]
      exact ih _ fits

theorem digits_are_digits {n : Nat} : ∀ digit ∈ Nat.toDigits 10 n, digit.isDigit = true := by
  intro digit member
  exact Nat.isDigit_of_mem_toDigits (by decide) (by decide) member

theorem leading_zero_alone {n : Nat} {rest : List Char}
    (digits : Nat.toDigits 10 n = '0' :: rest) : rest = [] := by
  induction n using Nat.strongRecOn generalizing rest with
  | ind n smaller =>
      by_cases single : n < 10
      · rw [Nat.toDigits_of_lt_base single] at digits
        exact (List.cons.inj digits).2.symm
      · rw [Nat.toDigits_of_base_le (by decide) (by omega)] at digits
        rcases List.append_eq_cons_iff.1 digits with ⟨none, _⟩ | ⟨more, begun, _⟩
        · exact absurd none Nat.toDigits_ne_nil
        · have alone := smaller (n / 10) (by omega) begun
          have quotient : n / 10 = 0 := by
            rw [← Nat.ofDigitChars_ten_toDigits (n := n / 10), begun, alone]
            rfl
          omega

theorem number_of_digits {n : Nat} (fits : n ≤ largestWord) :
    numberOfLiteral (Nat.toDigits 10 n) = some (.natural n) := by
  have whole : (Nat.toDigits 10 n).takeWhile Char.isDigit = Nat.toDigits 10 n := by
    rw [List.takeWhile_eq_self_iff]
    exact digits_are_digits
  have past : (Nat.toDigits 10 n).dropWhile Char.isDigit = [] := by
    rw [List.dropWhile_eq_nil_iff]
    exact digits_are_digits
  have value : accumulate 0 (Nat.toDigits 10 n) = (n, []) := by
    rw [accumulate_fitting _ _ (by rw [Nat.ofDigitChars_ten_toDigits]; exact fits),
      Nat.ofDigitChars_ten_toDigits]
  have unsigned : ∀ rest, Nat.toDigits 10 n ≠ '-' :: rest := by
    intro rest same
    have digit := digits_are_digits (n := n) '-' (by rw [same]; simp)
    exact absurd digit (by decide)
  unfold numberOfLiteral
  split
  next negative rest sign =>
    split at sign
    next minus => exact absurd minus (unsigned _)
    next =>
      obtain ⟨rfl, rfl⟩ := Prod.mk.inj sign
      simp only [whole, past, value, accumulate, List.isEmpty_nil, Bool.and_self, if_true,
        Bool.not_false]

end StyleAudit.Json
