import Mathlib.Data.List.TakeWhile
import StyleAudit.Binary64.Literal

/-!
# Words, lengths and literals

A word of letters and hyphens is a literal only if it names infinity or not-a-number, with a hyphen
in front or none. A decimal number with letters behind it is no literal at all: those that begin
like an exponent lack its digits.
-/

namespace StyleAudit.Binary64

set_option autoImplicit false

def IsWord (cs : List Char) : Prop :=
  ∀ c ∈ cs, c.isAlpha = true ∨ c = '-'

instance : DecidablePred IsWord :=
  List.decidableBAll fun c : Char => c.isAlpha = true ∨ c = '-'

/-- Digits with an optional fraction, or a fraction alone. -/
inductive IsDecimal : List Char → Prop where
  | whole {digits : List Char} (given : digits ≠ [])
      (each : ∀ c ∈ digits, c.isDigit = true) : IsDecimal digits
  | divided {digits fraction : List Char} (each : ∀ c ∈ digits, c.isDigit = true)
      (given : fraction ≠ []) (eachBehind : ∀ c ∈ fraction, c.isDigit = true) :
      IsDecimal (digits ++ '.' :: fraction)

structure IsUnit (cs : List Char) : Prop where
  given : cs ≠ []
  letters : ∀ c ∈ cs, c.isAlpha = true

/-- A decimal number with a unit behind it and at most one sign in front. -/
structure IsLength (sign cs : List Char) : Prop where
  signed : sign = [] ∨ sign = ['+'] ∨ sign = ['-']
  spelled : ∃ number unit, cs = sign ++ (number ++ unit) ∧ IsDecimal number ∧ IsUnit unit

def numberWords : List (List Char) :=
  ["inf".toList, "infinity".toList, "nan".toList]

/-- One of these words in any case of its letters, with a hyphen in front or none. -/
def SpellsNumber (cs : List Char) : Prop :=
  ∃ word, (cs = word ∨ cs = '-' :: word) ∧ word.map Char.toLower ∈ numberWords

variable {c : Char}

theorem digit_up_to_nine (digit : c.isDigit = true) : c.toNat ≤ '9'.toNat :=
  UInt32.le_iff_toNat_le.mp (of_decide_eq_true (Bool.and_eq_true_iff.mp digit).2)

theorem letter_from_a (letter : c.isAlpha = true) : 'A'.toNat ≤ c.toNat := by
  rcases (Bool.or_eq_true _ _).mp letter with capital | small
  · exact UInt32.le_iff_toNat_le.mp (of_decide_eq_true capital).1
  · have behind : 'a'.toNat ≤ c.toNat :=
      UInt32.le_iff_toNat_le.mp (of_decide_eq_true (Bool.and_eq_true_iff.mp small).1)
    exact Nat.le_trans (by decide) behind

theorem letter_apart (letter : c.isAlpha = true) :
    c.isDigit = false ∧ c ≠ '.' ∧ c ≠ '%' ∧ c ≠ '+' ∧ c ≠ '-' := by
  have digit : c.isDigit = false := by
    rw [Bool.eq_false_iff]
    intro digit
    have both := Nat.le_trans (letter_from_a letter) (digit_up_to_nine digit)
    exact absurd both (by decide)
  refine ⟨digit, ?_, ?_, ?_, ?_⟩ <;>
  · rintro rfl
    exact absurd letter (by decide)

theorem digit_to_lower (digit : c.isDigit = true) : c.toLower = c := by
  have noCapital : ¬ (c.val ≥ 'A'.val ∧ c.val ≤ 'Z'.val) := by
    rintro ⟨fromA, _⟩
    have first : 'A'.toNat ≤ c.toNat := UInt32.le_iff_toNat_le.mp fromA
    exact absurd (Nat.le_trans first (digit_up_to_nine digit)) (by decide)
  exact dif_neg noCapital

theorem split_sign_unsigned {cs : List Char} (unsigned : ∀ c ∈ cs.head?, c ≠ '+' ∧ c ≠ '-') :
    splitSign cs = (false, cs) := by
  cases cs with
  | nil => rfl
  | cons c rest =>
      obtain ⟨plus, minus⟩ := unsigned c rfl
      unfold splitSign
      split
      next signed => exact absurd (List.cons.inj signed).1 minus
      next signed => exact absurd (List.cons.inj signed).1 plus
      next => rfl

theorem literal_of_number_word {cs rest : List Char} {negative : Bool}
    (split : splitSign cs = (negative, rest)) (named : rest.map Char.toLower ∈ numberWords) :
    ∃ value, literal? cs = some value ∧ ∀ low high den, value.isBetween low high den = false := by
  unfold literal?
  rw [split]
  dsimp only
  simp only [numberWords, List.mem_cons, List.not_mem_nil, or_false] at named
  rcases named with same | same | same
  · rw [same, if_pos (by decide)]
    exact ⟨_, rfl, fun _ _ _ => rfl⟩
  · rw [same, if_pos (by decide)]
    exact ⟨_, rfl, fun _ _ _ => rfl⟩
  · rw [same, if_neg (by decide), if_pos (by decide)]
    exact ⟨_, rfl, fun _ _ _ => rfl⟩

theorem literal_of_other {cs rest : List Char} {negative : Bool}
    (split : splitSign cs = (negative, rest)) (other : rest.map Char.toLower ∉ numberWords) :
    literal? cs = unsigned? negative rest := by
  have differs {word : String} (listed : word.toList ∈ numberWords) :
      String.ofList (rest.map Char.toLower) ≠ word := by
    rintro rfl
    rw [String.toList_ofList] at listed
    exact other listed
  have finite : ¬ (decide (String.ofList (rest.map Char.toLower) = "inf") ||
      decide (String.ofList (rest.map Char.toLower) = "infinity")) = true := by
    rw [Bool.or_eq_true, decide_eq_true_iff, decide_eq_true_iff]
    exact not_or.mpr ⟨differs (by decide), differs (by decide)⟩
  unfold literal?
  rw [split]
  dsimp only
  rw [if_neg finite, if_neg (differs (by decide))]

theorem unsigned_needs_digit (negative : Bool) {cs : List Char}
    (plain : ∀ c ∈ cs.head?, c.isDigit = false ∧ c ≠ '.') : unsigned? negative cs = none := by
  cases cs with
  | nil => rfl
  | cons c rest =>
      obtain ⟨digit, point⟩ := plain c rfl
      have unpointed : splitFraction (c :: rest) = ([], c :: rest) := by
        unfold splitFraction
        split
        next pointed => exact absurd (List.cons.inj pointed).1 point
        next => rfl
      have noDigit : ¬ c.isDigit = true := by simp [digit]
      rw [unsigned?, List.takeWhile_cons_of_neg noDigit, List.dropWhile_cons_of_neg noDigit,
        unpointed]
      rfl

theorem IsWord.tail {cs : List Char} (word : IsWord (c :: cs)) : IsWord cs :=
  fun d member => word d (List.mem_cons_of_mem c member)

theorem IsWord.unsigned_none {cs : List Char} (word : IsWord cs) (negative : Bool) :
    unsigned? negative cs = none := by
  apply unsigned_needs_digit
  intro c first
  rcases word c (List.mem_of_mem_head? first) with letter | rfl
  · have apart := letter_apart letter
    exact ⟨apart.1, apart.2.1⟩
  · decide

theorem IsWord.split_sign {cs : List Char} (word : IsWord cs) :
    (∃ rest, cs = '-' :: rest ∧ splitSign cs = (true, rest)) ∨ splitSign cs = (false, cs) := by
  cases cs with
  | nil => exact .inr rfl
  | cons c rest =>
      rcases word c List.mem_cons_self with letter | rfl
      · right
        apply split_sign_unsigned
        intro first same
        obtain rfl := Option.some.inj same
        exact (letter_apart letter).2.2.2
      · exact .inl ⟨rest, rfl, rfl⟩

theorem IsWord.spells_iff {cs rest : List Char} {negative : Bool} (word : IsWord cs)
    (split : splitSign cs = (negative, rest)) :
    SpellsNumber cs ↔ rest.map Char.toLower ∈ numberWords := by
  have unhyphened : ∀ cs : List Char, ('-' :: cs).map Char.toLower ∉ numberWords := by
    intro cs listed
    simp [numberWords] at listed
  rcases word.split_sign with ⟨behind, rfl, whole⟩ | whole
  · rw [split] at whole
    obtain ⟨rfl, rfl⟩ := Prod.mk.inj whole
    constructor
    · rintro ⟨_, rfl | same, named⟩
      · exact absurd named (unhyphened _)
      · rwa [(List.cons.inj same).2]
    · exact fun named => ⟨_, .inr rfl, named⟩
  · rw [split] at whole
    obtain ⟨rfl, rfl⟩ := Prod.mk.inj whole
    constructor
    · rintro ⟨_, rfl | rfl, named⟩
      · exact named
      · cases split
    · exact fun named => ⟨_, .inl rfl, named⟩

theorem IsWord.literal {cs : List Char} (word : IsWord cs) :
    (SpellsNumber cs → ∃ value, literal? cs = some value ∧
      ∀ low high den, value.isBetween low high den = false) ∧
    (¬ SpellsNumber cs → literal? cs = none) := by
  obtain ⟨negative, rest, split⟩ : ∃ negative rest, splitSign cs = (negative, rest) := ⟨_, _, rfl⟩
  have remaining : IsWord rest := by
    rcases word.split_sign with ⟨behind, rfl, whole⟩ | whole
    · rw [split] at whole
      obtain ⟨_, rfl⟩ := Prod.mk.inj whole
      exact word.tail
    · rw [split] at whole
      obtain ⟨_, rfl⟩ := Prod.mk.inj whole
      exact word
  rw [word.spells_iff split]
  refine ⟨literal_of_number_word split, ?_⟩
  intro other
  rw [literal_of_other split other, remaining.unsigned_none]

theorem IsUnit.cases {cs : List Char} (unit : IsUnit cs) :
    ∃ c rest, cs = c :: rest ∧ c.isAlpha = true ∧ ∀ d ∈ rest, d.isAlpha = true := by
  cases cs with
  | nil => exact absurd rfl unit.given
  | cons c rest =>
      obtain ⟨first, others⟩ := List.forall_mem_cons.mp unit.letters
      exact ⟨c, rest, rfl, first, others⟩

theorem natural_of_letters {cs : List Char} (letters : ∀ c ∈ cs, c.isAlpha = true) :
    natural? cs = none := by
  cases cs with
  | nil => rfl
  | cons c rest =>
      have digit := (letter_apart (letters c List.mem_cons_self)).1
      simp [natural?, digit]

theorem IsUnit.no_exponent {cs : List Char} (unit : IsUnit cs) : exponent? cs = none := by
  obtain ⟨c, rest, rfl, _, letters⟩ := unit.cases
  have unsigned : splitSign rest = (false, rest) := by
    apply split_sign_unsigned
    intro d first
    exact (letter_apart (letters d (List.mem_of_mem_head? first))).2.2.2
  rw [exponent?, unsigned]
  dsimp only
  rw [natural_of_letters letters]
  exact ite_self none

theorem digits_before {digits rest : List Char} (each : ∀ c ∈ digits, c.isDigit = true)
    (ends : ∀ c ∈ rest.head?, c.isDigit = false) :
    (digits ++ rest).takeWhile Char.isDigit = digits ∧
      (digits ++ rest).dropWhile Char.isDigit = rest := by
  rw [List.takeWhile_append_of_pos each, List.dropWhile_append_of_pos each]
  cases rest with
  | nil => exact ⟨List.append_nil _, rfl⟩
  | cons c rest =>
      have stop : ¬ c.isDigit = true := by simp [ends c rfl]
      rw [List.takeWhile_cons_of_neg stop, List.dropWhile_cons_of_neg stop, List.append_nil]
      exact ⟨rfl, rfl⟩

theorem IsUnit.ends_digits {cs : List Char} (unit : IsUnit cs) :
    ∀ c ∈ cs.head?, c.isDigit = false :=
  fun c first => (letter_apart (unit.letters c (List.mem_of_mem_head? first))).1

theorem IsDecimal.read {number unit : List Char} (decimal : IsDecimal number) (is : IsUnit unit) :
    (splitFraction ((number ++ unit).dropWhile Char.isDigit)).2 = unit := by
  cases decimal with
  | whole given each =>
      rw [(digits_before each is.ends_digits).2]
      obtain ⟨c, rest, rfl, letter, _⟩ := is.cases
      unfold splitFraction
      split
      next pointed =>
        obtain ⟨rfl, _⟩ := List.cons.inj pointed
        exact absurd letter (by decide)
      next => rfl
  | @divided digits fraction each given eachBehind =>
      have point : ∀ c ∈ ('.' :: (fraction ++ unit)).head?, c.isDigit = false := by
        intro c same
        obtain rfl := Option.some.inj same
        decide
      rw [List.append_assoc, List.cons_append, (digits_before each point).2, splitFraction]
      exact (digits_before eachBehind is.ends_digits).2

theorem IsDecimal.unsigned_none {number unit : List Char} (decimal : IsDecimal number)
    (is : IsUnit unit) (negative : Bool) : unsigned? negative (number ++ unit) = none := by
  obtain ⟨fraction, rest, same⟩ : ∃ fraction rest,
      splitFraction ((number ++ unit).dropWhile Char.isDigit) = (fraction, rest) := ⟨_, _, rfl⟩
  have left : rest = unit := by
    rw [← decimal.read is, same]
  rw [unsigned?, same]
  dsimp only
  rw [left, is.no_exponent, Option.map_none, ite_self]

theorem IsDecimal.begins {number : List Char} (decimal : IsDecimal number) :
    ∃ c rest, number = c :: rest ∧ (c.isDigit = true ∨ c = '.') := by
  cases decimal with
  | whole given each =>
      obtain ⟨c, rest, rfl⟩ := List.exists_cons_of_ne_nil given
      exact ⟨c, rest, rfl, .inl (each c List.mem_cons_self)⟩
  | @divided digits fraction each given eachBehind =>
      cases digits with
      | nil => exact ⟨'.', fraction, rfl, .inr rfl⟩
      | cons c rest => exact ⟨c, _, rfl, .inl (each c List.mem_cons_self)⟩

theorem IsLength.literal_none {sign cs : List Char} (length : IsLength sign cs) :
    literal? cs = none := by
  obtain ⟨signed, number, unit, rfl, decimal, is⟩ := length
  obtain ⟨c, rest, begins, first⟩ := decimal.begins
  -- A word begins with a letter, the number with a digit or a point.
  have unworded : (number ++ unit).map Char.toLower ∉ numberWords := by
    have kept : c.toLower = c := by
      rcases first with digit | rfl
      · exact digit_to_lower digit
      · rfl
    rw [begins, List.cons_append, List.map_cons, kept]
    intro listed
    rcases first with digit | rfl
    · simp only [numberWords, List.mem_cons, List.not_mem_nil, or_false] at listed
      rcases listed with same | same | same <;>
      · obtain ⟨rfl, _⟩ := List.cons.inj same
        exact absurd digit (by decide)
    · simp [numberWords] at listed
  have split : ∃ negative, splitSign (sign ++ (number ++ unit)) = (negative, number ++ unit) := by
    rcases signed with rfl | rfl | rfl
    · refine ⟨false, split_sign_unsigned ?_⟩
      intro d same
      rw [begins] at same
      obtain rfl := Option.some.inj same
      rcases first with digit | rfl
      · constructor <;>
        · rintro rfl
          exact absurd digit (by decide)
      · decide
    · exact ⟨false, rfl⟩
    · exact ⟨true, rfl⟩
  obtain ⟨negative, split⟩ := split
  rw [literal_of_other split unworded, decimal.unsigned_none is]

end StyleAudit.Binary64
