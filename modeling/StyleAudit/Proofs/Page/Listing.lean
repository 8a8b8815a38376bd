import Mathlib.Data.List.Dedup
import Mathlib.Data.List.Induction
import Mathlib.Data.Nat.Digits.Defs
import StyleAudit.Page.Basic
import StyleAudit.Proofs.Page.Order

/-!
# The listing of a page

Ids that are numbers are compared by value and all others by text. The comparison is a preorder on
all texts and no more than that, since one number has many spellings. What it leaves open the order
of keys in the map decides, so the listing of a page is settled by the ids alone, whichever way they
came into the map.
-/

namespace StyleAudit

set_option autoImplicit false

namespace Page

def digitOf (c : Char) : Nat :=
  c.toNat - '0'.toNat

/-- The id is written with decimal digits, with at most one plus sign before them, and their value
fits in 64 bits. Zeros may stand in front. -/
structure IsNumber (id : String) (n : Nat) : Prop where
  spelled : ∃ sign digits, id.toList = sign ++ digits ∧ (sign = [] ∨ sign = ['+']) ∧
    digits ≠ [] ∧ (∀ c ∈ digits, c.isDigit = true) ∧
    Nat.ofDigits 10 (digits.reverse.map digitOf) = n
  fits : n < 2 ^ 64

theorem digits_value_eq (digits : List Char) :
    Binary64.digitsValue digits = Nat.ofDigits 10 (digits.reverse.map digitOf) := by
  induction digits using List.reverseRecOn with
  | nil => rfl
  | append_singleton digits last ih =>
      rw [Binary64.digitsValue] at ih ⊢
      rw [List.foldl_append, ih, List.reverse_concat, List.map_cons, Nat.ofDigits_cons]
      exact Nat.add_comm _ _

theorem natural_eq_some_iff {digits : List Char} {n : Nat} :
    Binary64.natural? digits = some n ↔ digits ≠ [] ∧ (∀ c ∈ digits, c.isDigit = true) ∧
      Nat.ofDigits 10 (digits.reverse.map digitOf) = n := by
  rw [Binary64.natural?, ← digits_value_eq]
  by_cases some_digit : digits = []
  · simp [some_digit]
  · by_cases all_digits : ∀ c ∈ digits, c.isDigit = true
    · simp [some_digit, List.all_eq_true.mpr all_digits]
      exact fun _ => all_digits
    · have other : digits.all Char.isDigit = false := by
        rw [← Bool.not_eq_true, List.all_eq_true]
        exact all_digits
      simp [all_digits, other]

private theorem fits_iff {n : Nat} : n ≤ largestPosition ↔ n < 2 ^ 64 := by
  rw [largestPosition]
  omega

theorem position_eq_some_iff {id : String} {n : Nat} : position? id = some n ↔ IsNumber id n := by
  have reads (digits : List Char) :
      (Binary64.natural? digits).filter (fun m => decide (m ≤ largestPosition)) = some n ↔
        (digits ≠ [] ∧ (∀ c ∈ digits, c.isDigit = true) ∧
          Nat.ofDigits 10 (digits.reverse.map digitOf) = n) ∧ n < 2 ^ 64 := by
    rw [Option.filter_eq_some_iff, natural_eq_some_iff, decide_eq_true_iff, fits_iff]
  unfold position?
  dsimp only
  split
  · rename_i digits signed
    rw [reads]
    constructor
    · rintro ⟨spelled, fits⟩
      exact ⟨⟨['+'], digits, signed, .inr rfl, spelled⟩, fits⟩
    · rintro ⟨⟨sign, others, shape, rfl | rfl, some_digit, all_digits, value⟩, fits⟩
      · rw [signed] at shape
        obtain rfl : '+' :: digits = others := shape
        have digit := all_digits '+' List.mem_cons_self
        exact absurd digit (by decide)
      · rw [signed] at shape
        obtain rfl : digits = others := (List.cons.inj shape).2
        exact ⟨⟨some_digit, all_digits, value⟩, fits⟩
  · rename_i unsigned
    rw [reads]
    constructor
    · rintro ⟨spelled, fits⟩
      exact ⟨⟨[], id.toList, rfl, .inl rfl, spelled⟩, fits⟩
    · rintro ⟨⟨sign, digits, shape, rfl | rfl, some_digit, all_digits, value⟩, fits⟩
      · obtain rfl : id.toList = digits := shape
        exact ⟨⟨some_digit, all_digits, value⟩, fits⟩
      · exact absurd shape (unsigned digits)

theorem position_eq_none_iff {id : String} : position? id = none ↔ ∀ n, ¬ IsNumber id n := by
  rw [Option.eq_none_iff_forall_ne_some]
  exact forall_congr' fun n => not_congr position_eq_some_iff

/-- Numbers come before all other ids. They are compared by value, the others by text. -/
def documentOrder (a b : String) : Ordering :=
  match position? a, position? b with
  | some m, some n => compare m n
  | some _, none => .lt
  | none, some _ => .gt
  | none, none => compare a b

private theorem text_is_le_iff {a b : String} : (compare a b).isLE = true ↔ a ≤ b :=
  isLE_compareOfLessAndEq String.le_antisymm String.not_le String.le_total

theorem not_after_eq_is_le (a b : String) : notAfter a b = (documentOrder a b).isLE := by
  rw [notAfter, documentOrder]
  cases position? a with
  | none =>
      cases position? b with
      | none => rw [Bool.eq_iff_iff, decide_eq_true_iff, text_is_le_iff]
      | some n => rfl
  | some m =>
      cases position? b with
      | none => rfl
      | some n => rw [Bool.eq_iff_iff, decide_eq_true_iff, Std.isLE_compare]

theorem document_order_swap (a b : String) : documentOrder a b = (documentOrder b a).swap := by
  rw [documentOrder, documentOrder]
  cases position? a with
  | none =>
      cases position? b with
      | none => exact Std.OrientedOrd.eq_swap
      | some n => rfl
  | some m =>
      cases position? b with
      | none => rfl
      | some n => exact Std.OrientedOrd.eq_swap

instance : Std.OrientedCmp documentOrder where
  eq_swap := document_order_swap _ _

instance : Std.TransCmp documentOrder where
  isLE_trans := by
    intro a b c first second
    rw [← not_after_eq_is_le] at first second ⊢
    exact notAfter_trans a b c first second

theorem document_order_eq_iff {a b : String} :
    documentOrder a b = .eq ↔ a = b ∨ ∃ n, IsNumber a n ∧ IsNumber b n := by
  simp only [← position_eq_some_iff]
  rw [documentOrder]
  cases first : position? a with
  | none =>
      cases second : position? b with
      | none => simp
      | some n =>
          have apart : a ≠ b := by
            apply ne_of_apply_ne position?
            rw [first, second]
            nofun
          simp [apart]
  | some m =>
      cases second : position? b with
      | none =>
          have apart : a ≠ b := by
            apply ne_of_apply_ne position?
            rw [first, second]
            nofun
          simp [apart]
      | some n =>
          have same : a = b → m = n := by
            rintro rfl
            rw [first] at second
            exact Option.some.inj second
          simp only [Std.compare_eq_iff_eq, Option.some.injEq, exists_eq_left']
          constructor
          · intro equal
            exact .inr equal.symm
          · rintro (equal | equal)
            · exact same equal
            · exact equal.symm

example : documentOrder "+007" "7" = .eq ∧ documentOrder "10" "9" = .gt ∧
    documentOrder "18446744073709551615" "18446744073709551616" = .lt ∧
    documentOrder "99999999999999999999" "-1" = .gt := by
  decide

/-- How two ids of a listing stand to each other. -/
inductive Precedes (a b : String) : Prop where
  | byValue {m n : Nat} (first : IsNumber a m) (second : IsNumber b n) (below : m < n)
  | bySpelling {n : Nat} (first : IsNumber a n) (second : IsNumber b n) (below : a < b)
  | numberFirst {m : Nat} (first : IsNumber a m) (second : ∀ n, ¬ IsNumber b n)
  | byText (first : ∀ n, ¬ IsNumber a n) (second : ∀ n, ¬ IsNumber b n) (below : a < b)

theorem precedes_iff {a b : String} :
    Precedes a b ↔ notAfter a b = true ∧ (notAfter b a = true → a < b) := by
  rw [notAfter, notAfter]
  constructor
  · intro before
    cases before with
    | byValue first second below =>
        rw [position_eq_some_iff.mpr first, position_eq_some_iff.mpr second]
        exact ⟨decide_eq_true (Nat.le_of_lt below),
          fun back => absurd below (Nat.not_lt.mpr (of_decide_eq_true back))⟩
    | bySpelling first second below =>
        rw [position_eq_some_iff.mpr first, position_eq_some_iff.mpr second]
        exact ⟨decide_eq_true (Nat.le_refl _), fun _ => below⟩
    | numberFirst first second =>
        rw [position_eq_some_iff.mpr first, position_eq_none_iff.mpr second]
        exact ⟨rfl, nofun⟩
    | byText first second below =>
        rw [position_eq_none_iff.mpr first, position_eq_none_iff.mpr second]
        exact ⟨decide_eq_true (String.not_lt.mp (String.lt_asymm below)), fun _ => below⟩
  · rintro ⟨order, ties⟩
    cases first : position? a with
    | none =>
        cases second : position? b with
        | none =>
            rw [first, second] at ties
            apply Precedes.byText (position_eq_none_iff.mp first) (position_eq_none_iff.mp second)
            apply Classical.byContradiction
            intro other
            exact other (ties (decide_eq_true (String.not_lt.mp other)))
        | some n =>
            rw [first, second] at order
            cases order
    | some m =>
        cases second : position? b with
        | none =>
            exact .numberFirst (position_eq_some_iff.mp first) (position_eq_none_iff.mp second)
        | some n =>
            rw [first, second] at order ties
            have numberA := position_eq_some_iff.mp first
            have numberB := position_eq_some_iff.mp second
            rcases Nat.lt_or_eq_of_le (of_decide_eq_true order) with below | rfl
            · exact .byValue numberA numberB below
            · exact .bySpelling numberA numberB (ties (decide_eq_true (Nat.le_refl m)))

theorem Precedes.asymm {a b : String} (before : Precedes a b) : ¬ Precedes b a := by
  intro after
  have first := precedes_iff.mp before
  have second := precedes_iff.mp after
  exact String.lt_asymm (first.2 second.1) (second.2 first.1)

/-- Sorting does not move ids of one position past each other. -/
theorem level_ids_kept (ids : List String) (n : Nat) :
    ((inDocumentOrder ids).filter fun id => position? id == some n) =
      ids.filter fun id => position? id == some n := by
  rw [← in_document_order_filter, inDocumentOrder]
  apply List.mergeSort_of_pairwise
  apply List.pairwise_of_forall_mem_list
  intro a memberA b memberB
  have first := beq_iff_eq.mp (List.mem_filter.mp memberA).2
  have second := beq_iff_eq.mp (List.mem_filter.mp memberB).2
  rw [notAfter, first, second, decide_eq_true_iff]

theorem spellings_increasing {ids : List String} (increasing : ids.Pairwise (· < ·)) (n : Nat) :
    ((inDocumentOrder ids).filter fun id => position? id == some n).Pairwise (· < ·) := by
  rw [level_ids_kept]
  exact increasing.filter _

theorem in_document_order_precedes {ids : List String} (increasing : ids.Pairwise (· < ·)) :
    (inDocumentOrder ids).Pairwise Precedes := by
  have sorted : (inDocumentOrder ids).Pairwise fun a b => notAfter a b = true :=
    List.pairwise_mergeSort notAfter_trans notAfter_total ids
  have distinct : (inDocumentOrder ids).Nodup := by
    apply (List.mergeSort_perm ids notAfter).nodup_iff.mpr
    apply increasing.imp
    intro a b below same
    exact String.lt_irrefl b (same ▸ below)
  apply List.pairwise_iff_forall_sublist.mpr
  intro a b inside
  have order : notAfter a b = true := List.pairwise_iff_forall_sublist.mp sorted inside
  apply precedes_iff.mpr
  refine ⟨order, ?_⟩
  intro back
  rw [not_after_eq_is_le] at order back
  rcases document_order_eq_iff.mp (Std.OrientedCmp.isLE_antisymm order back) with
    same | ⟨n, first, second⟩
  · exact absurd same (List.pairwise_iff_forall_sublist.mp distinct inside)
  · -- The sort was stable, and the ids came to it in the order of their texts.
    have both := inside.filter fun id => position? id == some n
    have kept : [a, b].filter (fun id => position? id == some n) = [a, b] := by
      simp [position_eq_some_iff.mpr first, position_eq_some_iff.mpr second]
    rw [kept] at both
    exact List.pairwise_iff_forall_sublist.mp (spellings_increasing increasing n) both

end Page

theorem ElementMap.ids_precede (map : ElementMap) : map.ids.Pairwise Page.Precedes :=
  Page.in_document_order_precedes map.elements.keys_increasing

theorem ElementMap.ids_eq_iff {map other : ElementMap} :
    map.ids = other.ids ↔ ∀ id, map.contains id = other.contains id := by
  constructor
  · intro same id
    rw [Bool.eq_iff_iff, ← mem_ids_iff, ← mem_ids_iff, same]
  · intro same
    have perm : map.ids.Perm other.ids := by
      apply (List.perm_ext_iff_of_nodup map.ids_nodup other.ids_nodup).mpr
      intro id
      rw [mem_ids_iff, mem_ids_iff, same]
    apply perm.eq_of_pairwise _ map.ids_precede other.ids_precede
    intro a b _ _ before after
    exact absurd after before.asymm

namespace Page

/-- A page after elements were put into it in order. -/
def insertAll (page : Page) (inserts : List (String × Element)) : Page :=
  inserts.foldl (fun page entry => page.insert entry.1 entry.2) page

theorem mem_keys_insert_all (page : Page) (inserts : List (String × Element)) (id : String) :
    id ∈ (page.insertAll inserts).map.elements.keys ↔
      id ∈ page.map.elements.keys ∨ id ∈ inserts.map Prod.fst := by
  induction inserts generalizing page with
  | nil => simp [insertAll]
  | cons entry rest ih =>
      have step : (page.insertAll (entry :: rest)) =
          (page.insert entry.1 entry.2).insertAll rest := rfl
      have keys : id ∈ (page.insert entry.1 entry.2).map.elements.keys ↔
          id = entry.1 ∨ id ∈ page.map.elements.keys :=
        Keyed.mem_keys_insert page.map.elements entry.1 id entry.2
      rw [step, ih, keys, List.map_cons, List.mem_cons]
      rw [or_assoc, or_left_comm]

/-- Ids are compared by a preorder in which only spellings of one number are level with each other.
However elements are put into a page, its listing names each id once, does not run against that
preorder, has the numbers first by value, the other ids behind them by text and the spellings of a
number by text, and is the same for all pages with the same ids. -/
theorem listing_is_settled_by_the_ids :
    Std.TransCmp documentOrder ∧ (∀ a b, notAfter a b = (documentOrder a b).isLE) ∧
    (∀ a b, documentOrder a b = .eq ↔ a = b ∨ ∃ n, IsNumber a n ∧ IsNumber b n) ∧
    ∀ (page : Page) (inserts : List (String × Element)),
      let listed := (page.insertAll inserts).map.ids
      listed.Perm (page.map.elements.keys ++ inserts.map Prod.fst).dedup ∧
      (listed.Pairwise fun a b => (documentOrder a b).isLE = true) ∧
      listed.Pairwise Precedes ∧
      ∀ (other : Page) (others : List (String × Element)),
        listed = (other.insertAll others).map.ids ↔
          ∀ id, (page.insertAll inserts).map.contains id =
            (other.insertAll others).map.contains id := by
  refine ⟨inferInstance, not_after_eq_is_le, fun a b => document_order_eq_iff, ?_⟩
  intro page inserts listed
  refine ⟨?_, ?_, ElementMap.ids_precede _, fun other others => ElementMap.ids_eq_iff⟩
  · apply (List.perm_ext_iff_of_nodup (ElementMap.ids_nodup _) (List.nodup_dedup _)).mpr
    intro id
    rw [ElementMap.mem_ids_iff, ElementMap.contains_iff_key, mem_keys_insert_all, List.mem_dedup,
      List.mem_append]
  · simp only [← not_after_eq_is_le]
    exact List.pairwise_mergeSort notAfter_trans notAfter_total _

end Page

end StyleAudit
