import StyleAudit.Proofs.Html.Opening

/-!
# Closing elements

The end tag of the innermost open element closes that element, whatever else of its kind is open
around it, and takes its own formatting out of force. The surroundings are as they were before the
element was opened, with the element added to them.
-/

namespace StyleAudit.Html.Builder

set_option autoImplicit false

open Page (Tree idAttribute numberId)

variable {b : Builder} {around : List String} {first : Nat} {tag : String}

/-- The builder with trees added to the innermost element and some keys used up. -/
def grown (trees : List Tree) (key : Nat) (b : Builder) : Builder :=
  { b with stack := trees.foldl (fun stack tree => addTree tree stack) b.stack, nextKey := key }

theorem add_trees_innermost (trees : List Tree) (f : Frame) (rest : List Frame) :
    trees.foldl (fun stack tree => addTree tree stack) (f :: rest) =
      { f with content := trees.reverse ++ f.content } :: rest := by
  induction trees generalizing f with
  | nil => rfl
  | cons tree trees ih =>
    rw [List.foldl_cons, addTree, ih, Frame.add, List.reverse_cons, List.append_assoc]
    rfl

theorem tree_of_reversed (key : Nat) (tag : String) (attributes : List (String × String))
    (children : List Tree) :
    Frame.tree ⟨key, tag, attributes, children.reverse⟩ = .element tag attributes children := by
  rw [Frame.tree, List.reverse_reverse]

theorem grown_entered_stack (tag : String) (attributes : List (String × String))
    (children : List Tree) (key : Nat) :
    ((b.entered tag attributes).grown children key).stack =
      ⟨b.nextKey, tag, attributes, children.reverse⟩ :: b.stack := by
  have innermost := add_trees_innermost children ⟨b.nextKey, tag, attributes, []⟩ b.stack
  rwa [List.append_nil] at innermost

def left (b before : Builder) : Builder :=
  { b with
    stack := closeInnermost b.stack
    formatting := before.formatting
    form := before.form }

theorem left_grown_entered (ready : Ready b around first) (tag : String)
    (attributes : List (String × String)) (children : List Tree) (key : Nat) :
    ((b.entered tag attributes).grown children key).left b =
      b.grown [.element tag attributes children] key := by
  have inside : b.stack ≠ [] := by
    intro none
    exact ready.inside (by rw [← ready.tags, none]; rfl)
  obtain ⟨outer, rest, shape⟩ := List.exists_cons_of_ne_nil inside
  have closed : closeInnermost ((b.entered tag attributes).grown children key).stack =
      addTree (.element tag attributes children) b.stack := by
    rw [grown_entered_stack, shape, closeInnermost, tree_of_reversed, addTree]
  rw [left, closed]
  rfl

section Leaving

variable {inner : Builder} {f : Frame} {rest : List Frame}

theorem close_through_innermost (f : Frame) (rest : List Frame) {tags : List String}
    (named : f.tag ∈ tags) : closeThrough tags (f :: rest) = closeInnermost (f :: rest) := by
  rw [closeThrough, List.findIdx?_cons, List.contains_iff_mem.mpr named, if_pos rfl]
  rfl

theorem in_scope_innermost (shape : inner.stack = f :: rest) (boundaries : List String)
    {tags : List String} (named : f.tag ∈ tags) : inScope boundaries tags inner.stack = true := by
  rw [shape, inScope, List.contains_iff_mem.mpr named, Bool.true_or]

theorem end_scoped_innermost (shape : inner.stack = f :: rest) (boundaries : List String)
    {tags : List String} (named : f.tag ∈ tags) :
    inner.endScoped boundaries tags = inner.onStack closeInnermost := by
  rw [endScoped, if_pos (in_scope_innermost shape boundaries named), onStack, onStack, shape,
    close_through_innermost f rest named]

theorem end_ordinary_innermost (shape : inner.stack = f :: rest) :
    inner.endOrdinary f.tag = inner.onStack closeInnermost := by
  have found : inner.stack.findIdx? (fun other => other.tag == f.tag || other.isSpecial) =
      some 0 := by
    rw [shape, List.findIdx?_cons, beq_self_eq_true, Bool.true_or, if_pos rfl]
  have innermost : inner.stack[0]? = some f := by rw [shape]; rfl
  rw [endOrdinary, found]
  dsimp only
  rw [innermost]
  dsimp only
  rw [if_pos (beq_self_eq_true _)]
  rfl

theorem left_ordinary (formatting : inner.formatting = b.formatting) (form : inner.form = b.form) :
    inner.onStack closeInnermost = inner.left b := by
  rw [left, ← formatting, ← form]
  rfl

theorem end_formatting_innermost (shape : inner.stack = f :: rest)
    (attributes : List (String × String))
    (formatting : inner.formatting = some ⟨f.key, f.tag, attributes⟩ :: b.formatting)
    (form : inner.form = b.form) (fresh : ∀ e, some e ∈ b.formatting → e.key ≠ f.key) :
    inner.endFormattingTag f.tag = inner.left b := by
  have current : inner.currentFormatting = ⟨f.key, f.tag, attributes⟩ :: b.currentFormatting := by
    rw [currentFormatting, formatting]
    rfl
  have inForce : (inner.currentFormatting.any fun e => e.key == f.key) = true := by
    rw [current, List.any_cons, beq_self_eq_true, Bool.true_or]
  have entry : (inner.currentFormatting.find? fun e => e.tag == f.tag) =
      some ⟨f.key, f.tag, attributes⟩ := by
    rw [current, List.find?_cons]
    simp
  have place : (inner.stack.findIdx? fun other => other.key == f.key) = some 0 := by
    rw [shape, List.findIdx?_cons, beq_self_eq_true, if_pos rfl]
  have inside : inScope scopeTags [f.tag] inner.stack = true :=
    in_scope_innermost shape scopeTags List.mem_cons_self
  have dropped : (inner.formatting.filter fun e => e.map Formatting.key != some f.key) =
      b.formatting := by
    rw [formatting, List.filter_cons_of_neg (by simp), List.filter_eq_self]
    intro entry member
    cases entry with
    | none => rfl
    | some e => simpa using fresh e member
  -- Nothing stands open inside the element, so nothing has to be moved out of it.
  rw [endFormattingTag, shape]
  dsimp only
  rw [inForce, Bool.not_true, Bool.and_false, if_neg Bool.false_ne_true, endFormatting, entry]
  dsimp only
  rw [place]
  dsimp only
  rw [inside, Bool.not_true, if_neg Bool.false_ne_true, List.take_zero, List.reverse_nil,
    List.findIdx?_nil]
  dsimp only
  rw [left, ← form, ← dropped]
  rfl

theorem end_boundary_innermost (shape : inner.stack = f :: rest)
    (formatting : inner.formatting = none :: b.formatting) (form : inner.form = b.form) :
    inner.endBoundary f.tag = inner.left b := by
  have inside : inScope scopeTags [f.tag] inner.stack = true :=
    in_scope_innermost shape scopeTags List.mem_cons_self
  have dropped : (inner.formatting.dropWhile Option.isSome).drop 1 = b.formatting := by
    rw [formatting]
    rfl
  rw [endBoundary, if_pos inside, dropped, left, ← form, onStack, shape,
    close_through_innermost f rest List.mem_cons_self]

end Leaving

theorem end_closes (ordinary : IsOrdinary tag) (settles : Settles around tag)
    (filled : tag ∉ emptyTags) {inner : Builder} {f : Frame} {rest : List Frame}
    (shape : inner.stack = f :: rest) (named : f.tag = tag) :
    inner.endInBody tag = inner.onStack closeInnermost := by
  subst named
  obtain ⟨_, no_html, no_body, _⟩ := settles.not_structural
  have no_break : f.tag ≠ "br" := by
    intro is
    exact absurd (is ▸ filled) (by decide)
  obtain ⟨unformatted, unbounded, no_form⟩ := ordinary
  rw [endInBody, if_neg (by simp [no_html, no_body])]
  by_cases isParagraph : (f.tag == "p") = true
  · have isP := List.mem_singleton.mpr (beq_iff_eq.mp isParagraph)
    have inside := in_scope_innermost shape buttonScopeTags isP
    have ended := end_scoped_innermost shape buttonScopeTags isP
    rw [endScoped, if_pos inside] at ended
    rw [if_pos isParagraph, if_pos inside, ended]
  rw [if_neg isParagraph, if_neg (by simpa using no_break)]
  by_cases isItem : (f.tag == "li") = true
  · have isLi := List.mem_singleton.mpr (beq_iff_eq.mp isItem)
    rw [if_pos isItem, end_scoped_innermost shape itemScopeTags isLi]
  rw [if_neg isItem]
  by_cases isHeading : headingTags.contains f.tag = true
  · rw [if_pos isHeading,
      end_scoped_innermost shape scopeTags (List.contains_iff_mem.mp isHeading)]
  rw [if_neg isHeading, if_neg (by simpa using no_form), if_neg (by rwa [List.contains_iff_mem]),
    if_neg (by rwa [List.contains_iff_mem])]
  split
  · exact end_scoped_innermost shape scopeTags List.mem_cons_self
  · exact end_ordinary_innermost shape

theorem formatting_end : ∀ tag ∈ formattingTags, b.endInBody tag = b.endFormattingTag tag := by
  simp only [formattingTags, List.forall_mem_cons]
  exact ⟨rfl, rfl, rfl, rfl, rfl, rfl, rfl, rfl, rfl, rfl, rfl, rfl, rfl, rfl, nofun⟩

theorem boundary_end : ∀ tag ∈ boundaryTags, b.endInBody tag = b.endBoundary tag := by
  simp only [boundaryTags, List.forall_mem_cons]
  exact ⟨rfl, rfl, rfl, nofun⟩

/-- The end tag of an element that settles takes back all that its start tag did but adding it. -/
theorem end_leaves (ready : Ready b around first) (settles : Settles around tag)
    (filled : tag ∉ emptyTags) (attributes : List (String × String)) (children : List Tree)
    (key : Nat) :
    ((b.entered tag attributes).grown children key).endInBody tag =
      b.grown [.element tag attributes children] key := by
  rw [← left_grown_entered ready]
  have shape := grown_entered_stack (b := b) tag attributes children key
  have formatting : ((b.entered tag attributes).grown children key).formatting =
    (b.entered tag attributes).formatting := rfl
  have form : ((b.entered tag attributes).grown children key).form =
    (b.entered tag attributes).form := rfl
  generalize (b.entered tag attributes).grown children key = inner at shape formatting form ⊢
  by_cases isForm : tag = "form"
  · subst isForm
    have before := ready.no_form (settles.form rfl)
    have opened : inner.form.isSome = true := by rw [form]; rfl
    have unformatted : inner.formatting = b.formatting := formatting
    have ended : inner.endScoped scopeTags ["form"] = inner.onStack closeInnermost :=
      end_scoped_innermost shape scopeTags List.mem_cons_self
    have dispatched : inner.endInBody "form" =
        if inner.form.isSome then { inner.endScoped scopeTags ["form"] with form := none }
        else inner := rfl
    rw [dispatched, if_pos opened, ended, left, before, ← unformatted]
    rfl
  have no_form : inner.form = b.form := by rw [form, entered, if_neg isForm]
  by_cases formats : tag ∈ formattingTags
  · have inForce : inner.formatting = some ⟨b.nextKey, tag, attributes⟩ :: b.formatting := by
      rw [formatting, entered, if_pos formats]
    rw [formatting_end tag formats]
    refine end_formatting_innermost shape attributes inForce no_form ?_
    intro e member
    exact Nat.ne_of_lt (ready.keys e.key (ready.inForce e member).1)
  by_cases bounds : tag ∈ boundaryTags
  · have inForce : inner.formatting = none :: b.formatting := by
      rw [formatting, entered, if_neg formats, if_pos bounds]
    rw [boundary_end tag bounds]
    exact end_boundary_innermost shape inForce no_form
  have ordinary : IsOrdinary tag := ⟨formats, bounds, isForm⟩
  rw [end_closes ordinary settles filled shape rfl]
  rw [entered_ordinary ordinary] at formatting
  exact left_ordinary formatting no_form

end StyleAudit.Html.Builder
