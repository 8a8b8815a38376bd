import StyleAudit.Proofs.Html.Reading

/-!
# Line breaks that are read twice

The text of a numbered tree without line breaks is read as that tree, and each line break makes what
is read larger by one element, which bears no number.
-/

namespace StyleAudit.Html

set_option autoImplicit false

open Page (Tree)

mutual

def lineBreaks : Tree → Nat
  | .element tag _ children =>
    (if Text.asciiLower tag = "br" then 1 else 0) + lineBreaksAmong children
  | .text _ => 0

def lineBreaksAmong : List Tree → Nat
  | [] => 0
  | tree :: rest => lineBreaks tree + lineBreaksAmong rest

end

theorem echo_size (tag : String) :
    Tree.sizeOfAll (echo tag) = if tag = "br" then 1 else 0 := by
  unfold echo
  split <;> rfl

theorem size_of_all_append (trees others : List Tree) :
    Tree.sizeOfAll (trees ++ others) = Tree.sizeOfAll trees + Tree.sizeOfAll others := by
  induction trees with
  | nil => rw [List.nil_append, Tree.sizeOfAll, Nat.zero_add]
  | cons tree rest ih =>
      rw [List.cons_append, Tree.sizeOfAll, Tree.sizeOfAll, ih, Nat.add_assoc]

mutual

theorem reread_size (tree : Tree) (first : Nat) :
    (reread (tree.marked first)).size + Tree.sizeOfAll (echo (tree.marked first).tag) =
      tree.size + lineBreaks tree :=
  match tree with
  | .text _ => rfl
  | .element tag attributes children => by
    rw [Tree.marked, reread, Tree.size, Tree.size, Tree.tag, reread_all_size, echo_size,
      lineBreaks]
    omega

theorem reread_all_size (trees : List Tree) (first : Nat) :
    Tree.sizeOfAll (rereadAll (Page.markedAll first trees)) =
      Tree.sizeOfAll trees + lineBreaksAmong trees :=
  match trees with
  | [] => rfl
  | tree :: rest => by
    have here := reread_size tree first
    rw [Page.markedAll, rereadAll, Tree.sizeOfAll, Tree.sizeOfAll, lineBreaksAmong,
      size_of_all_append, reread_all_size]
    omega

end

theorem no_echo {tree : Tree} (first : Nat) (unbroken : lineBreaks tree = 0) :
    echo (tree.marked first).tag = [] := by
  cases tree with
  | text content => rfl
  | element tag attributes children =>
      have other : Text.asciiLower tag ≠ "br" := by
        intro is
        rw [lineBreaks, if_pos is] at unbroken
        omega
      exact if_neg other

mutual

theorem reread_unbroken (tree : Tree) (first : Nat) (unbroken : lineBreaks tree = 0) :
    reread (tree.marked first) = tree.marked first :=
  match tree with
  | .text _ => rfl
  | .element tag attributes children => by
    rw [lineBreaks] at unbroken
    have inside := Nat.eq_zero_of_add_eq_zero_left unbroken
    rw [Tree.marked, reread, reread_all_unbroken children _ inside]

theorem reread_all_unbroken (trees : List Tree) (first : Nat)
    (unbroken : lineBreaksAmong trees = 0) :
    rereadAll (Page.markedAll first trees) = Page.markedAll first trees :=
  match trees with
  | [] => rfl
  | tree :: rest => by
    rw [lineBreaksAmong] at unbroken
    have here := Nat.eq_zero_of_add_eq_zero_right unbroken
    have later := Nat.eq_zero_of_add_eq_zero_left unbroken
    rw [Page.markedAll, rereadAll, reread_unbroken tree first here, no_echo first here,
      reread_all_unbroken rest _ later]
    rfl

end

end StyleAudit.Html
