import StyleAudit.Html.Document
import StyleAudit.Proofs.Html.Reading
import StyleAudit.Proofs.Page.Number

/-!
# Opening elements

A builder is ready inside the elements that are open if no formatting waits to be taken up again.
There the start tag of an element that settles does nothing but open it, and the builder is ready
inside that element as well: marks keep formatting elements apart that look alike otherwise.
-/

namespace StyleAudit.Html.Builder

set_option autoImplicit false

open Page (Tree idAttribute numberId)

theorem in_scope_eq_reaches (boundaries tags : List String) (stack : List Frame) :
    inScope boundaries tags stack = reaches boundaries tags (stack.map Frame.tag) := by
  induction stack with
  | nil => rfl
  | cons f rest ih => rw [inScope, List.map_cons, reaches, ih]

/-- The builder is in the body with the given elements open, innermost first. All formatting in
force is that of open elements with marks below a number. -/
structure Ready (b : Builder) (around : List String) (first : Nat) : Prop where
  mode : b.mode = .inBody
  tags : b.stack.map Frame.tag = around
  keys : ∀ key ∈ b.stack.map Frame.key, key < b.nextKey
  inForce : ∀ e, some e ∈ b.formatting → e.key ∈ b.stack.map Frame.key ∧ e.tag ∈ around ∧
    ∃ number < first, (idAttribute, numberId number) ∈ e.attributes
  form : b.form.isSome = true → "form" ∈ around
  filled : ∀ tag ∈ around, tag ∉ emptyTags
  inside : around ≠ []

variable {b : Builder} {around : List String} {first : Nat} {tag : String}

namespace Ready

theorem nothing_to_take_up (ready : Ready b around first) : b.takeUpFormatting = b := by
  have inForce := ready.inForce
  obtain ⟨mode, stack, formatting, form, nextKey⟩ := b
  cases formatting with
  | nil => rfl
  | cons e rest =>
    cases e with
    | none => rfl
    | some e =>
      obtain ⟨key, _⟩ := inForce e List.mem_cons_self
      have isOpen : e.isOpenIn stack = true := by
        obtain ⟨f, member, same⟩ := List.mem_map.mp key
        exact List.any_eq_true.mpr ⟨f, member, beq_iff_eq.mpr same⟩
      simp [takeUpFormatting, isOpen]

theorem paragraph_kept (ready : Ready b around first) (settles : Settles around tag)
    (ends : tag ∈ paragraphEndTags) : b.closeParagraph = b := by
  rw [closeParagraph, in_scope_eq_reaches, ready.tags, settles.paragraph ends,
    if_neg Bool.false_ne_true]

theorem innermost_kept (ready : Ready b around first) (tags : List String)
    (other : around.head?.any tags.contains = false) : b.closeIfInnermost tags = b := by
  rw [← ready.tags] at other
  rw [closeIfInnermost]
  split
  · rename_i f rest shape
    rw [shape] at other
    rw [if_neg]
    simpa using other
  · rfl

theorem item_kept (ready : Ready b around first) (tags : List String)
    (none : meetsItem tags around = false) : b.closeItem tags = b := by
  rw [meetsItem, ← ready.tags, List.find?_map, List.find?_eq_bind_findIdx?_getElem?] at none
  rw [closeItem]
  split
  · rename_i n found
    split
    · rename_i f here
      have stopped : List.findIdx? ((fun tag => tags.contains tag ||
          (specialTags.contains tag && !(["address", "div", "p"].contains tag))) ∘ Frame.tag)
          b.stack = some n := found
      rw [stopped, Option.bind_some, here] at none
      rw [if_neg]
      simpa using none
    · rfl
  · rfl

theorem no_form (ready : Ready b around first) (outside : "form" ∉ around) : b.form = none := by
  rw [← Option.not_isSome_iff_eq_none]
  exact fun given => outside (ready.form given)

theorem no_link (ready : Ready b around first) (outside : "a" ∉ around) :
    b.currentFormatting.find? (fun e => e.tag == "a") = none := by
  rw [List.find?_eq_none]
  intro e member link
  rw [currentFormatting, List.mem_filterMap] at member
  obtain ⟨entry, listed, rfl⟩ := member
  obtain ⟨_, known, _⟩ := ready.inForce e ((List.takeWhile_sublist _).mem listed)
  exact outside (beq_iff_eq.mp link ▸ known)

theorem apart (ready : Ready b around first) (tag : String) (others : List (String × String))
    (foreign : ∀ entry ∈ others, entry.1 ≠ idAttribute) :
    ∀ e, some e ∈ b.formatting →
      e.looksLike tag ((idAttribute, numberId first) :: others) = false := by
  intro e member
  obtain ⟨_, _, number, below, marked⟩ := ready.inForce e member
  rw [Bool.eq_false_iff]
  intro alike
  rw [Formatting.looksLike, Bool.and_eq_true] at alike
  have shared := List.all_eq_true.mp alike.2 _ marked
  rw [List.contains_iff_mem, List.mem_cons] at shared
  rcases shared with same | other
  · have equal := Page.number_id_injective (Prod.mk.inj same).2
    omega
  · exact foreign _ other rfl

end Ready

/-- The builder with an element opened and, where the tag asks for it, its formatting in force. -/
def entered (tag : String) (attributes : List (String × String)) (b : Builder) : Builder :=
  { b.openElement tag attributes with
    formatting :=
      if tag ∈ formattingTags then some ⟨b.nextKey, tag, attributes⟩ :: b.formatting
      else if tag ∈ boundaryTags then none :: b.formatting
      else b.formatting
    form := if tag = "form" then some b.nextKey else b.form }

/-- Elements that leave no other trace than that they are open. -/
def IsOrdinary (tag : String) : Prop :=
  tag ∉ formattingTags ∧ tag ∉ boundaryTags ∧ tag ≠ "form"

instance : DecidablePred IsOrdinary := fun _ => inferInstanceAs (Decidable (_ ∧ _))

theorem entered_ordinary (ordinary : IsOrdinary tag) (attributes : List (String × String)) :
    b.entered tag attributes = b.openElement tag attributes := by
  obtain ⟨no_formatting, no_boundary, no_form⟩ := ordinary
  rw [entered, if_neg no_formatting, if_neg no_boundary, if_neg no_form]
  rfl

theorem entered_formatting (ready : Ready b around first) (formats : tag ∈ formattingTags)
    (others : List (String × String)) (foreign : ∀ entry ∈ others, entry.1 ≠ idAttribute) :
    b.openFormatting tag ((idAttribute, numberId first) :: others) =
      b.entered tag ((idAttribute, numberId first) :: others) := by
  have unlike := ready.apart tag others foreign
  have none : (b.formatting.takeWhile Option.isSome).filter (fun e => e.any fun e =>
      e.looksLike tag ((idAttribute, numberId first) :: others)) = [] := by
    rw [List.filter_eq_nil_iff]
    intro entry member
    cases entry with
    | none => nofun
    | some e =>
      rw [Option.any_some, unlike e ((List.takeWhile_sublist _).mem member)]
      nofun
  have no_form : tag ≠ "form" := by
    rintro rfl
    exact absurd formats (by decide)
  rw [openFormatting, none, entered, if_pos formats, if_neg no_form]
  simp [openElement]

theorem heading_ordinary : ∀ tag ∈ headingTags, IsOrdinary tag := by
  decide +kernel

theorem container_ordinary : ∀ tag ∈ "p" :: "table" :: containerTags, IsOrdinary tag := by
  decide +kernel

theorem boundary_unformatted : ∀ tag ∈ boundaryTags, tag ∉ formattingTags ∧ tag ≠ "form" := by
  decide +kernel

theorem block_enters (ready : Ready b around first) (settles : Settles around tag)
    (filled : tag ∉ emptyTags) (free : tag ∉ textTags) (block : tag ∈ paragraphEndTags)
    (attributes : List (String × String)) :
    b.startInBody tag attributes = b.entered tag attributes := by
  have unended := ready.paragraph_kept settles block
  obtain ⟨no_stray, no_html, no_body, _⟩ := settles.not_structural
  obtain ⟨_, no_head_void⟩ := not_or.mp (mt List.mem_append.mpr filled)
  -- The kinds of tags in the order in which the builder asks for them.
  rw [startInBody, if_neg (by rwa [List.contains_iff_mem]), if_neg (by simp [no_html, no_body]),
    if_neg (by rwa [List.contains_iff_mem])]
  by_cases isHeading : headingTags.contains tag = true
  · have listed := List.contains_iff_mem.mp isHeading
    rw [if_pos isHeading, unended, ready.innermost_kept headingTags (settles.heading listed),
      entered_ordinary (heading_ordinary tag listed)]
  rw [if_neg isHeading]
  by_cases isForm : (tag == "form") = true
  · obtain rfl := beq_iff_eq.mp isForm
    rw [if_pos isForm, ready.no_form (settles.form rfl), unended]
    rfl
  rw [if_neg isForm]
  by_cases isItem : (tag == "li") = true
  · obtain rfl := beq_iff_eq.mp isItem
    rw [if_pos isItem, ready.item_kept ["li"] (settles.item rfl), unended,
      entered_ordinary (by decide)]
  rw [if_neg isItem]
  by_cases isDefinition : (tag == "dd" || tag == "dt") = true
  · have listed : tag ∈ ["dd", "dt"] := by simpa using isDefinition
    have ordinary : ∀ tag ∈ ["dd", "dt"], IsOrdinary tag := by decide
    rw [if_pos isDefinition, ready.item_kept ["dd", "dt"] (settles.definition listed), unended,
      entered_ordinary (ordinary tag listed)]
  rw [if_neg isDefinition]
  by_cases isRule : (tag == "hr") = true
  · obtain rfl := beq_iff_eq.mp isRule
    exact absurd (by decide) filled
  rw [if_neg isRule]
  by_cases isContainer : (tag == "p" || tag == "table" || containerTags.contains tag) = true
  · have listed : tag ∈ "p" :: "table" :: containerTags := by simpa [or_assoc] using isContainer
    rw [if_pos isContainer, unended, entered_ordinary (container_ordinary tag listed)]
  · have isExample : tag = "xmp" := by
      simp_all [paragraphEndTags]
    rw [isExample] at free
    exact absurd (by decide) free

theorem inline_enters (ready : Ready b around first) (settles : Settles around tag)
    (filled : tag ∉ emptyTags) (inline : tag ∉ paragraphEndTags) (others : List (String × String))
    (foreign : ∀ entry ∈ others, entry.1 ≠ idAttribute) :
    b.startInBody tag ((idAttribute, numberId first) :: others) =
      b.entered tag ((idAttribute, numberId first) :: others) := by
  have taken := ready.nothing_to_take_up
  have formatted (formats : tag ∈ formattingTags) :=
    entered_formatting ready formats others foreign
  obtain ⟨no_stray, no_html, no_body, no_table, no_option, no_group⟩ := settles.not_structural
  obtain ⟨no_void, no_head_void⟩ := not_or.mp (mt List.mem_append.mpr filled)
  obtain ⟨⟨⟨no_form, no_li, no_dd, no_dt, no_hr, no_p, _⟩, no_heading⟩, no_container⟩ :
      ((tag ≠ "form" ∧ tag ≠ "li" ∧ tag ≠ "dd" ∧ tag ≠ "dt" ∧ tag ≠ "hr" ∧ tag ≠ "p" ∧
        tag ≠ "xmp") ∧ tag ∉ headingTags) ∧ tag ∉ containerTags := by
    simpa only [paragraphEndTags, List.mem_append, List.mem_cons, List.not_mem_nil, or_false,
      not_or] using inline
  generalize (idAttribute, numberId first) :: others = attributes at formatted ⊢
  -- None of the kinds that end a paragraph; the others in the order in which they are asked for.
  rw [startInBody, if_neg (by rwa [List.contains_iff_mem]), if_neg (by simp [no_html, no_body]),
    if_neg (by rwa [List.contains_iff_mem]), if_neg (by rwa [List.contains_iff_mem]),
    if_neg (by simpa using no_form), if_neg (by simpa using no_li),
    if_neg (by simp [no_dd, no_dt]), if_neg (by simpa using no_hr),
    if_neg (by simp [no_p, no_table, no_container])]
  by_cases isLink : (tag == "a") = true
  · obtain rfl := beq_iff_eq.mp isLink
    rw [if_pos isLink, startLink, ready.no_link (settles.link rfl)]
    dsimp only
    rw [taken, formatted (by decide)]
  rw [if_neg isLink]
  by_cases formats : formattingTags.contains tag = true
  · rw [if_pos formats, taken, formatted (List.contains_iff_mem.mp formats)]
  rw [if_neg formats, if_neg (by rwa [List.contains_iff_mem])]
  by_cases isButton : (tag == "button") = true
  · obtain rfl := beq_iff_eq.mp isButton
    rw [if_pos isButton, in_scope_eq_reaches, ready.tags, settles.button rfl,
      if_neg Bool.false_ne_true]
    dsimp only
    rw [taken, entered_ordinary (by decide)]
  rw [if_neg isButton]
  by_cases bounds : boundaryTags.contains tag = true
  · have listed := List.contains_iff_mem.mp bounds
    obtain ⟨unformatted, _⟩ := boundary_unformatted tag listed
    rw [if_pos bounds, taken, entered, if_neg unformatted, if_pos listed, if_neg no_form]
    rfl
  rw [if_neg bounds]
  have ordinary : IsOrdinary tag := by
    rw [List.contains_iff_mem] at formats bounds
    exact ⟨formats, bounds, no_form⟩
  rw [if_neg (by simp [no_option, no_group]), taken, entered_ordinary ordinary]

theorem start_enters (ready : Ready b around first) (settles : Settles around tag)
    (filled : tag ∉ emptyTags) (free : tag ∉ textTags) (others : List (String × String))
    (foreign : ∀ entry ∈ others, entry.1 ≠ idAttribute) :
    b.startInBody tag ((idAttribute, numberId first) :: others) =
      b.entered tag ((idAttribute, numberId first) :: others) := by
  by_cases block : tag ∈ paragraphEndTags
  · exact block_enters ready settles filled free block _
  · exact inline_enters ready settles filled block others foreign

theorem Ready.entered (ready : Ready b around first) (filled : tag ∉ emptyTags)
    (others : List (String × String)) :
    Ready (b.entered tag ((idAttribute, numberId first) :: others)) (tag :: around)
      (first + 1) := by
  exact {
    mode := ready.mode
    tags := congrArg (tag :: ·) ready.tags
    keys := by
      intro key member
      rcases List.mem_cons.mp member with rfl | outer
      · exact Nat.lt_succ_self b.nextKey
      · exact Nat.lt_succ_of_lt (ready.keys key outer)
    inForce := by
      intro e member
      have outer : some e ∈ b.formatting →
          e.key ∈ b.nextKey :: b.stack.map Frame.key ∧ e.tag ∈ tag :: around ∧
            ∃ number < first + 1, (idAttribute, numberId number) ∈ e.attributes := by
        intro before
        obtain ⟨isOpen, named, number, below, marked⟩ := ready.inForce e before
        exact ⟨List.mem_cons_of_mem _ isOpen, List.mem_cons_of_mem tag named, number,
          Nat.lt_succ_of_lt below, marked⟩
      rw [Builder.entered] at member
      split at member
      · rcases List.mem_cons.mp member with same | before
        · obtain rfl := Option.some.inj same
          exact ⟨List.mem_cons_self, List.mem_cons_self, first, Nat.lt_succ_self first,
            List.mem_cons_self⟩
        · exact outer before
      · split at member
        · rcases List.mem_cons.mp member with same | before
          · cases same
          · exact outer before
        · exact outer member
    form := by
      intro given
      by_cases isForm : tag = "form"
      · rw [isForm]
        exact List.mem_cons_self
      · rw [Builder.entered, if_neg isForm] at given
        exact List.mem_cons_of_mem tag (ready.form given)
    filled := by
      intro other member
      rcases List.mem_cons.mp member with rfl | outer
      · exact filled
      · exact ready.filled other outer
    inside := List.cons_ne_nil tag around }

end StyleAudit.Html.Builder
