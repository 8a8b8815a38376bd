import StyleAudit.Proofs.Html.Closing
import StyleAudit.Proofs.Html.Token

/-!
# Building pages

The tokens of a page in which every element settles build that page: each element with all that is
in it is added to the innermost open element, and nothing else changes but that a line break comes
out twice.
-/

namespace StyleAudit.Html

set_option autoImplicit false

open Page (Tree idAttribute numberId)

namespace Builder

variable {b : Builder} {around : List String} {first : Nat} {tag : String}

theorem add_element_eq_grown (attributes : List (String × String)) :
    b.addElement tag attributes [] = b.grown [.element tag attributes []] b.nextKey :=
  rfl

theorem empty_kinds : ∀ tag ∈ emptyTags, tag ∉ headingTags ∧ tag ∉ formattingTags ∧
    tag ∉ boundaryTags ∧ tag ∉ containerTags ∧
    tag ≠ "p" ∧ tag ≠ "form" ∧ tag ≠ "li" ∧ tag ≠ "dd" ∧ tag ≠ "dt" ∧ tag ≠ "table" ∧
    tag ≠ "a" ∧ tag ≠ "button" := by
  decide +kernel

theorem start_adds_empty (ready : Ready b around first) (settles : Settles around tag)
    (empty : tag ∈ emptyTags) (attributes : List (String × String)) :
    b.startInBody tag attributes = b.addElement tag attributes [] := by
  obtain ⟨no_stray, no_html, no_body, _⟩ := settles.not_structural
  obtain ⟨no_heading, no_formatting, _, no_container, no_p, no_form, no_li, no_dd, no_dt, no_table,
    no_a, _⟩ := empty_kinds tag empty
  rw [startInBody, if_neg (by rwa [List.contains_iff_mem]), if_neg (by simp [no_html, no_body])]
  by_cases inHead : headVoidTags.contains tag = true
  · rw [if_pos inHead]
  have isVoid : voidTags.contains tag = true := by
    rw [List.contains_iff_mem] at inHead ⊢
    exact (List.mem_append.mp empty).resolve_right inHead
  rw [if_neg inHead, if_neg (by rwa [List.contains_iff_mem]), if_neg (by simpa using no_form),
    if_neg (by simpa using no_li), if_neg (by simp [no_dd, no_dt])]
  by_cases isRule : (tag == "hr") = true
  · obtain rfl := beq_iff_eq.mp isRule
    rw [if_pos isRule, ready.paragraph_kept settles (by decide)]
  rw [if_neg isRule, if_neg (by simp [no_p, no_table, no_container]), if_neg (by simpa using no_a),
    if_neg (by rwa [List.contains_iff_mem]), if_pos isVoid, ready.nothing_to_take_up]

theorem end_passes_over (shut : ∀ f ∈ b.stack, f.tag ≠ tag) : b.endOrdinary tag = b := by
  rw [endOrdinary]
  split
  · split
    · rename_i f here
      rw [if_neg]
      exact fun same => shut f (List.mem_of_getElem? here) (beq_iff_eq.mp same)
    · rfl
  · rfl

theorem end_of_empty (ready : Ready b around first) (settles : Settles around tag)
    (empty : tag ∈ emptyTags) : b.endInBody tag = b.grown (echo tag) b.nextKey := by
  by_cases isBreak : tag = "br"
  · subst isBreak
    have again : b.endInBody "br" = b.takeUpFormatting.addElement "br" [] [] := rfl
    rw [again, ready.nothing_to_take_up]
    rfl
  have shut : ∀ f ∈ b.stack, f.tag ≠ tag := by
    intro f member same
    have listed := List.mem_map_of_mem (f := Frame.tag) member
    rw [ready.tags, same] at listed
    exact ready.filled tag listed empty
  obtain ⟨_, no_html, no_body, _⟩ := settles.not_structural
  obtain ⟨no_heading, no_formatting, no_boundary, no_container, no_p, no_form, no_li, no_dd, no_dt,
    _, _, no_button⟩ := empty_kinds tag empty
  rw [endInBody, if_neg (by simp [no_html, no_body]), if_neg (by simpa using no_p),
    if_neg (by simpa using isBreak), if_neg (by simpa using no_li),
    if_neg (by rwa [List.contains_iff_mem]), if_neg (by simpa using no_form),
    if_neg (by rwa [List.contains_iff_mem]), if_neg (by rwa [List.contains_iff_mem]),
    if_neg (by simp [no_dd, no_dt, no_button, no_container]), end_passes_over shut, echo,
    if_neg isBreak]
  rfl

theorem text_element_added (ready : Ready b around first) (settles : Settles around tag)
    (attributes : List (String × String)) (holds : tag ∈ textTags) :
    b.textElementInBody tag attributes [] = b.addElement tag attributes [] := by
  rw [textElementInBody]
  split
  · rename_i isExample
    obtain rfl := beq_iff_eq.mp isExample
    rw [ready.paragraph_kept settles (by decide), ready.nothing_to_take_up]
  · split
    · rename_i isPlain
      obtain rfl := beq_iff_eq.mp isPlain
      exact absurd holds (by decide)
    · rfl

theorem add_tree_keys (tree : Tree) (stack : List Frame) :
    (addTree tree stack).map Frame.key = stack.map Frame.key ∧
      (addTree tree stack).map Frame.tag = stack.map Frame.tag := by
  cases stack <;> exact ⟨rfl, rfl⟩

theorem add_trees_keys (trees : List Tree) (stack : List Frame) :
    (trees.foldl (fun stack tree => addTree tree stack) stack).map Frame.key =
        stack.map Frame.key ∧
      (trees.foldl (fun stack tree => addTree tree stack) stack).map Frame.tag =
        stack.map Frame.tag := by
  induction trees generalizing stack with
  | nil => exact ⟨rfl, rfl⟩
  | cons tree trees ih =>
      obtain ⟨keys, tags⟩ := add_tree_keys tree stack
      rw [List.foldl_cons, ← keys, ← tags]
      exact ih (addTree tree stack)

theorem Ready.grown (ready : Ready b around first) (trees : List Tree) {key later : Nat}
    (newer : b.nextKey ≤ key) (beyond : first ≤ later) :
    Ready (b.grown trees key) around later := by
  obtain ⟨keys, tags⟩ := add_trees_keys trees b.stack
  exact {
    mode := ready.mode
    tags := tags.trans ready.tags
    keys := by
      intro other member
      rw [Builder.grown, keys] at member
      exact Nat.lt_of_lt_of_le (ready.keys other member) newer
    inForce := by
      intro e member
      obtain ⟨isOpen, named, number, below, marked⟩ := ready.inForce e member
      rw [Builder.grown, keys]
      exact ⟨isOpen, named, number, by omega, marked⟩
    form := ready.form
    filled := ready.filled
    inside := ready.inside }

theorem read_in_body (mode : b.mode = .inBody) (token : Token) :
    b.read token = b.readInBody token := by
  rw [Builder.read, mode]

theorem marks_foreign (attributes : List (String × String)) :
    ∀ entry ∈ Page.inNameOrder (attributes.filter fun entry => entry.1 != idAttribute),
      entry.1 ≠ idAttribute := by
  intro entry member
  exact bne_iff_ne.mp (List.mem_filter.mp (List.mem_mergeSort.mp member)).2

theorem grown_grown (trees others : List Tree) (key later : Nat) :
    (b.grown trees key).grown others later = b.grown (trees ++ others) later := by
  rw [grown, grown, grown, List.foldl_append]

theorem text_element_built (ready : Ready b around first) (settles : Settles around tag)
    (holds : tag ∈ textTags) (attributes : List (String × String)) :
    (tokensOf (.element tag attributes [])).foldl Builder.read b =
      b.grown [.element tag attributes []] b.nextKey := by
  rw [tokensOf, if_pos holds, List.foldl_cons, List.foldl_nil, read_in_body ready.mode, readInBody,
    text_element_added ready settles _ holds, add_element_eq_grown]

theorem empty_element_built (ready : Ready b around first) (settles : Settles around tag)
    (empty : tag ∈ emptyTags) (holds : tag ∉ textTags) (attributes : List (String × String)) :
    (tokensOf (.element tag attributes [])).foldl Builder.read b =
      b.grown (.element tag attributes [] :: echo tag) b.nextKey := by
  have added := ready.grown [.element tag attributes []] (Nat.le_refl b.nextKey)
    (Nat.le_refl first)
  rw [tokensOf, if_neg holds, tokensOfAll, List.nil_append, List.foldl_cons, List.foldl_cons,
    List.foldl_nil, read_in_body ready.mode, readInBody, start_adds_empty ready settles empty,
    add_element_eq_grown, read_in_body added.mode, readInBody, end_of_empty added settles empty,
    grown_grown]
  rfl

mutual

theorem tree_built (tree : Tree) (around : List String) (first : Nat) (b : Builder)
    (ready : Ready b around first) (fits : Fitting around tree) :
    ∃ key, b.nextKey ≤ key ∧ (tokensOf (tree.marked first)).foldl Builder.read b =
      b.grown (reread (tree.marked first) :: echo (tree.marked first).tag) key :=
  match tree with
  | .text _ => absurd fits (by rw [Fitting]; exact id)
  | .element tag attributes children => by
    rw [Fitting] at fits
    obtain ⟨settles, childless, inner⟩ := fits
    rw [Tree.marked, Page.markedAttributes, reread, Tree.tag]
    have foreign := marks_foreign attributes
    generalize Page.inNameOrder (attributes.filter fun entry => entry.1 != idAttribute) = others
      at foreign ⊢
    generalize Text.asciiLower tag = tag at settles childless inner ⊢
    by_cases holds : tag ∈ textTags
    · obtain rfl := childless (List.mem_append_right emptyTags holds)
      have silent : tag ≠ "br" := by
        intro is
        exact absurd (is ▸ holds) (by decide)
      refine ⟨b.nextKey, Nat.le_refl _, ?_⟩
      rw [Page.markedAll, rereadAll, text_element_built ready settles holds, echo, if_neg silent]
    by_cases empty : tag ∈ emptyTags
    · obtain rfl := childless (List.mem_append_left textTags empty)
      refine ⟨b.nextKey, Nat.le_refl _, ?_⟩
      rw [Page.markedAll, rereadAll, empty_element_built ready settles empty holds]
    have silent : tag ≠ "br" := by
      intro is
      exact absurd (is ▸ empty) (by decide)
    have opened := start_enters ready settles empty holds others foreign
    obtain ⟨key, newer, built⟩ := trees_built children (tag :: around) (first + 1) _
      (ready.entered empty others) inner
    have closed := end_leaves ready settles empty ((idAttribute, numberId first) :: others)
      (rereadAll (Page.markedAll (first + 1) children)) key
    refine ⟨key, ?_, ?_⟩
    · exact Nat.le_of_succ_le newer
    rw [tokensOf, if_neg holds, List.foldl_cons, read_in_body ready.mode, readInBody, opened,
      List.foldl_append, built, List.foldl_cons, List.foldl_nil, read_in_body, readInBody, closed,
      echo, if_neg silent]
    exact ready.mode

theorem trees_built (trees : List Tree) (around : List String) (first : Nat) (b : Builder)
    (ready : Ready b around first) (fits : AllFitting around trees) :
    ∃ key, b.nextKey ≤ key ∧ (tokensOfAll (Page.markedAll first trees)).foldl Builder.read b =
      b.grown (rereadAll (Page.markedAll first trees)) key :=
  match trees with
  | [] => by
    rw [Page.markedAll, tokensOfAll]
    exact ⟨b.nextKey, Nat.le_refl _, rfl⟩
  | tree :: rest => by
    rw [AllFitting] at fits
    obtain ⟨key, newer, here⟩ := tree_built tree around first b ready fits.1
    obtain ⟨later, newest, there⟩ := trees_built rest around (first + tree.size) _
      (ready.grown _ newer (Nat.le_add_right first tree.size)) fits.2
    refine ⟨later, Nat.le_trans newer newest, ?_⟩
    rw [Page.markedAll, tokensOfAll, List.foldl_append, here, there, grown_grown]
    rfl

end

theorem head_void_kinds :
    ∀ tag ∈ headVoidTags, tag ∉ textTags ∧ tag ∉ structuralEndTags ∧ tag ≠ "head" := by
  decide +kernel

theorem head_text_kinds : ∀ tag ∈ "noscript" :: headTextTags, tag ∈ textTags := by
  decide +kernel

theorem read_in_head (mode : b.mode = .inHead) (token : Token) :
    b.read token = b.readInHead token := by
  rw [Builder.read, mode]

theorem metadata_built (tree : Tree) (is : IsMetadata tree) (first : Nat)
    (mode : b.mode = .inHead) :
    (tokensOf (tree.marked first)).foldl Builder.read b =
      b.grown [tree.marked first] b.nextKey := by
  cases tree with
  | text content => exact absurd is id
  | element tag attributes children =>
    obtain ⟨listed, rfl⟩ := is
    rw [Tree.marked, tokensOf, Page.markedAll]
    generalize Text.asciiLower tag = tag at listed ⊢
    generalize Page.markedAttributes first attributes = attributes
    rcases List.mem_append.mp listed with void | holds
    · obtain ⟨no_text, no_structure, no_head⟩ := head_void_kinds tag void
      have no_root : tag ≠ "html" := by
        rintro rfl
        exact no_structure (by decide)
      have added : (b.grown [.element tag attributes []] b.nextKey).mode = .inHead := mode
      have started : b.readInHead (.startTag tag attributes) =
          b.grown [.element tag attributes []] b.nextKey := by
        rw [readInHead, if_neg (by simpa using no_root), if_pos (List.contains_iff_mem.mpr void)]
        rfl
      rw [if_neg no_text, tokensOfAll, List.nil_append, List.foldl_cons, List.foldl_cons,
        List.foldl_nil, read_in_head mode, started, read_in_head added, readInHead,
        if_neg (by simpa using no_head), if_neg (by rwa [List.contains_iff_mem])]
    · rw [if_pos (head_text_kinds tag holds), List.foldl_cons, List.foldl_nil, read_in_head mode,
        readInHead, if_pos]
      · rfl
      · simpa using holds

theorem metadata_reread (trees : List Tree) (each : ∀ tree ∈ trees, IsMetadata tree)
    (first : Nat) : rereadAll (Page.markedAll first trees) = Page.markedAll first trees := by
  induction trees generalizing first with
  | nil => rfl
  | cons tree rest ih =>
    have later := ih (fun other member => each other (List.mem_cons_of_mem tree member))
      (first + tree.size)
    have here := each tree List.mem_cons_self
    cases tree with
    | text content => exact absurd here id
    | element tag attributes children =>
      obtain ⟨listed, rfl⟩ := here
      have silent : Text.asciiLower tag ≠ "br" := by
        intro is
        exact absurd (is ▸ listed) (by decide)
      rw [Page.markedAll, rereadAll, later, Tree.marked, reread, Tree.tag, echo, if_neg silent]
      rfl

theorem all_metadata_built (trees : List Tree) (each : ∀ tree ∈ trees, IsMetadata tree)
    (first : Nat) (b : Builder) (mode : b.mode = .inHead) :
    (tokensOfAll (Page.markedAll first trees)).foldl Builder.read b =
      b.grown (Page.markedAll first trees) b.nextKey := by
  induction trees generalizing first b with
  | nil => rfl
  | cons tree rest ih =>
    have here := metadata_built tree (each tree List.mem_cons_self) first mode
    have later := ih (fun other member => each other (List.mem_cons_of_mem tree member))
      (first + tree.size) (b.grown [tree.marked first] b.nextKey) mode
    rw [Page.markedAll, tokensOfAll, List.foldl_append, here, later, grown_grown]
    rfl

theorem grown_innermost {b : Builder} (trees : List Tree) (key : Nat) {f : Frame}
    {rest : List Frame} (shape : b.stack = f :: rest) :
    b.grown trees key =
      { b with
        stack := { f with content := trees.reverse ++ f.content } :: rest
        nextKey := key } := by
  rw [grown, shape, add_trees_innermost]

variable (rootAttributes headAttributes bodyAttributes : List (String × String))

def atHead : Builder :=
  ⟨.inHead, [⟨1, "head", headAttributes, []⟩, ⟨0, "html", rootAttributes, []⟩], [], none, 2⟩

def atBody (head : Tree) : Builder :=
  ⟨.inBody, [⟨2, "body", bodyAttributes, []⟩, ⟨0, "html", rootAttributes, [head]⟩], [], none, 3⟩

theorem head_reached : [.startTag "html" rootAttributes, .startTag "head" headAttributes].foldl
    Builder.read .start = atHead rootAttributes headAttributes :=
  rfl

theorem body_reached (heads : List Tree) :
    [.endTag "head", .startTag "body" bodyAttributes].foldl Builder.read
      ((atHead rootAttributes headAttributes).grown heads 2) =
      atBody rootAttributes bodyAttributes (.element "head" headAttributes heads) := by
  rw [grown_innermost heads 2 (b := atHead rootAttributes headAttributes) rfl, List.append_nil]
  rw [atBody, ← tree_of_reversed 1]
  rfl

theorem end_reached (head : Tree) (children : List Tree) (key : Nat) :
    ([.endTag "body", .endTag "html"].foldl Builder.read
      ((atBody rootAttributes bodyAttributes head).grown children key)).complete.tree =
      .element "html" rootAttributes [head, .element "body" bodyAttributes children] := by
  rw [grown_innermost children key (b := atBody rootAttributes bodyAttributes head) rfl,
    List.append_nil]
  rw [← tree_of_reversed 2 "body"]
  rfl

theorem body_ready (head : Tree) (first : Nat) :
    Ready (atBody rootAttributes bodyAttributes head) ["body", "html"] first where
  mode := rfl
  tags := rfl
  keys := by
    have below : ∀ key ∈ [2, 0], key < 3 := by decide
    exact below
  inForce := nofun
  form := nofun
  filled := by decide
  inside := List.cons_ne_nil _ _

end Builder

theorem page_built (page : Tree) (is : IsPage page) :
    ((tokensOf (page.marked 0)).foldl Builder.read .start).complete.tree =
      reread (page.marked 0) := by
  unfold IsPage at is
  split at is
  · rename_i root rootAttributes head headAttributes metadata body bodyAttributes content
    obtain ⟨isRoot, isHead, isBody, each, fits⟩ := is
    simp only [Tree.marked, Page.markedAll, isRoot, isHead, isBody]
    generalize Page.markedAttributes _ rootAttributes = rootAttributes
    generalize Page.markedAttributes _ headAttributes = headAttributes
    generalize Page.markedAttributes _ bodyAttributes = bodyAttributes
    generalize 0 + 1 + (Tree.element head _ metadata).size = bodyNumber
    have tokens (heads contents : List Tree) : tokensOf (.element "html" rootAttributes
        [.element "head" headAttributes heads, .element "body" bodyAttributes contents]) =
        [.startTag "html" rootAttributes, .startTag "head" headAttributes] ++ tokensOfAll heads ++
          [.endTag "head", .startTag "body" bodyAttributes] ++ tokensOfAll contents ++
          [.endTag "body", .endTag "html"] := by
      have structural : "html" ∉ textTags ∧ "head" ∉ textTags ∧ "body" ∉ textTags := by decide
      simp [tokensOf, tokensOfAll, structural]
    have again (heads contents : List Tree) : reread (.element "html" rootAttributes
        [.element "head" headAttributes heads, .element "body" bodyAttributes contents]) =
        .element "html" rootAttributes [.element "head" headAttributes (rereadAll heads),
          .element "body" bodyAttributes (rereadAll contents)] := by
      simp [reread, rereadAll, echo, Tree.tag]
    have headBuilt := Builder.all_metadata_built metadata each (0 + 1 + 1)
      (Builder.atHead rootAttributes headAttributes) rfl
    obtain ⟨key, _, bodyBuilt⟩ := Builder.trees_built content ["body", "html"] (bodyNumber + 1) _
      (Builder.body_ready rootAttributes bodyAttributes
        (.element "head" headAttributes (Page.markedAll (0 + 1 + 1) metadata)) (bodyNumber + 1))
      fits
    rw [tokens, List.foldl_append, List.foldl_append, List.foldl_append, List.foldl_append,
      Builder.head_reached, headBuilt]
    have bodyReached := Builder.body_reached rootAttributes headAttributes bodyAttributes
      (Page.markedAll (0 + 1 + 1) metadata)
    have keys : (Builder.atHead rootAttributes headAttributes).nextKey = 2 := rfl
    rw [keys, bodyReached, bodyBuilt, Builder.end_reached, again,
      Builder.metadata_reread metadata each]
  · exact absurd is id

/-- The parser of the program does with a page as the standard has it. -/
theorem parse_reads_pages : ReadsPages parse where
  reads := by
    intro page distinct legible isPage
    rw [parse, tokens_of_marked 0 legible distinct, page_built page isPage]

end StyleAudit.Html
