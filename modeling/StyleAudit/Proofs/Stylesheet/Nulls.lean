import StyleAudit.Proofs.Stylesheet.Forms
import StyleAudit.Proofs.Stylesheet.Spoiled

/-!
# Nulls in syntax trees

A member that is null stands for no member, whatever node of a syntax tree it is found in: the
blocks below a node stay the same if it is dropped. There are two exceptions. The numbers of a
location may be lacking but not null, and a condition that is null still counts as one of several
names of the condition. Such a null makes its node malformed, so that all blocks of the node are
lost.
-/

namespace StyleAudit

set_option autoImplicit false

open Json (Agrees FieldThins InField InItems MembersThin NullDropped ReadError Thins in_no_field
  lastMember? nullable_agrees readText text_agrees valuesOf)

namespace Node

open StyleAudit.Frame (ownTags)

/-- The null that is dropped makes the node malformed: it is a number of a location in it, or it
stands for the condition of a group next to another condition. -/
inductive Breaks : Json → Json → Prop where
  | block {members fewer : List (String × Json)} {tag : String}
      (tagged : tag? members = some tag) (bears : tag ∈ blockTags)
      (lost : Block.Spoils (.object members) (.object fewer)) :
      Breaks (.object members) (.object fewer)
  | position {members fewer : List (String × Json)}
      (groups : ∀ tag ∈ ownTags, tag? members ≠ some tag)
      (lost : InField [] "position" Position.Spoils (.object members) (.object fewer)) :
      Breaks (.object members) (.object fewer)
  | condition {before after : List (String × Json)} {name : String}
      (groups : ∀ tag ∈ ownTags, tag? (before ++ (name, .null) :: after) ≠ some tag)
      (named : name ∈ conditionNames)
      (again : ∃ other ∈ before ++ after, other.1 ∈ conditionNames) :
      Breaks (.object (before ++ (name, .null) :: after)) (.object (before ++ after))

/-- The null breaks the node or one of the nodes below it. -/
inductive Spoils : Json → Json → Prop where
  | here {value thinned : Json} (breaks : Breaks value thinned) : Spoils value thinned
  | rule {members fewer : List (String × Json)}
      (groups : ∀ tag ∈ ownTags, tag? members ≠ some tag)
      (lost : InField [] "rules" (InItems Spoils) (.object members) (.object fewer)) :
      Spoils (.object members) (.object fewer)
  | sheetRule {members fewer : List (String × Json)} (sheet : tag? members = some "stylesheet")
      (lost : InField [] "stylesheet" (InField ["rules", "source"] "rules" (InItems Spoils))
        (.object members) (.object fewer)) : Spoils (.object members) (.object fewer)

section Parts

variable {names : List String} {name : String} {value thinned : Json} {held other : List Json}
  {members fewer : List (String × Json)}

theorem optional_agrees {α : Type} {reader : Json → Except ReadError α} {P : Json → Json → Prop}
    (field : FieldThins names name value thinned held other)
    (inner : ∀ held other, Thins held other → Agrees reader held other ∨ P held other)
    (sound : ¬ InField names name P value thinned) :
    optionalIn reader held.getLast? = optionalIn reader other.getLast? := by
  cases field with
  | same held => rfl
  | dropped place => rfl
  | @inside held other thins place =>
      have agrees := (inner held other thins).resolve_right fun lost => sound (place P lost)
      exact (nullable_agrees thins agrees).to_option

theorem rules_thin (field : FieldThins names name value thinned held other) :
    rulesIn held.getLast? = rulesIn other.getLast? ∨
      ∃ before after rule less, rulesIn held.getLast? = some (before ++ rule :: after) ∧
        rulesIn other.getLast? = some (before ++ less :: after) ∧ Thins rule less ∧
        ∀ P : Json → Json → Prop, P rule less → InField names name (InItems P) value thinned := by
  cases field with
  | same held => exact .inl rfl
  | dropped place => exact .inl rfl
  | @inside held other thins place =>
      cases thins.shape with
      | object thin => exact .inl rfl
      | @array before after rule less inside =>
          exact .inr ⟨before, after, rule, less, rfl, rfl, inside, fun P lost =>
            place _ (.item before after lost)⟩

theorem tag_thin (thin : MembersThin members fewer) : tag? members = tag? fewer := by
  have field : FieldThins [] "type" (.object members) (.object fewer) _ _ :=
    Json.members_field_thins [] thin "type"
  rw [tag?, tag?, Json.last_member_eq_last_value, Json.last_member_eq_last_value]
  generalize valuesOf "type" members = held at field
  generalize valuesOf "type" fewer = other at field
  cases field with
  | same held => rfl
  | dropped place => rfl
  | @inside held other thins place =>
      cases thins.shape with
      | object thin => rfl
      | array thins => rfl

/-- A null that is dropped changes the condition only if it stands for one next to another. -/
theorem condition_thins (thin : MembersThin members fewer) :
    soleCondition (givenConditions members) = soleCondition (givenConditions fewer) ∨
      ∃ before after name, members = before ++ (name, .null) :: after ∧ fewer = before ++ after ∧
        name ∈ conditionNames ∧ ∃ other ∈ before ++ after, other.1 ∈ conditionNames := by
  cases thin with
  | @dropped before after name sole =>
      by_cases named : name ∈ conditionNames
      · cases given : givenConditions (before ++ after) with
        | nil =>
            rw [givenConditions, List.filter_append, List.append_eq_nil_iff] at given
            refine .inl ?_
            rw [given_condition named, givenConditions, givenConditions, given.1, given.2]
            rfl
        | cons other rest =>
            obtain ⟨inside, also⟩ := mem_of_given given
            exact .inr ⟨before, after, name, rfl, rfl, named, other, inside, also⟩
      · rw [no_condition named]
        exact .inl rfl
  | @inside before after name value thinned sole thins =>
      refine .inl ?_
      by_cases named : name ∈ conditionNames
      · rw [given_condition named, given_condition named]
        exact sole_condition_congr (nullable_agrees thins (text_agrees thins)).to_option
      · rw [no_condition named, no_condition named]

end Parts

/-- The forms of a value and of the thinned one: both have the same blocks, or a rule is thinned. -/
inductive FormsThin (value thinned : Json) : Option Form → Option Form → Prop where
  | same {form other : Option Form} (alike : formBlocks form = formBlocks other) :
      FormsThin value thinned form other
  | below {before after : List Json} {rule less : Json} {build other : List Node → Node}
      (thins : Thins rule less) (spoils : Spoils rule less → Spoils value thinned) :
      FormsThin value thinned (some (.branch (before ++ rule :: after) build))
        (some (.branch (before ++ less :: after) other))

section Forms

variable {members fewer : List (String × Json)}

theorem group_form_thins (kind : GroupKind) (thin : MembersThin members fewer)
    (groups : ∀ tag ∈ ownTags, tag? members ≠ some tag)
    (sound : ¬ Spoils (.object members) (.object fewer)) :
    FormsThin (.object members) (.object fewer) (groupForm kind members)
      (groupForm kind fewer) := by
  have condition := (condition_thins thin).resolve_right (by
    rintro ⟨before, after, name, rfl, rfl, named, again⟩
    exact sound (.here (.condition groups named again)))
  have position := optional_agrees (Json.members_field_thins [] thin "position")
    (fun _ _ => Position.agrees) fun lost => sound (.here (.position groups lost))
  rw [group_form_eq, group_form_eq, condition, Json.last_member_eq_last_value,
    Json.last_member_eq_last_value, Json.last_member_eq_last_value,
    Json.last_member_eq_last_value, position]
  rcases rules_thin (Json.members_field_thins [] thin "rules") with
    same | ⟨before, after, rule, less, rules, others, thins, place⟩
  · rw [same]
    exact .same rfl
  · rw [rules, others]
    cases soleCondition (givenConditions fewer) with
    | none => exact .same rfl
    | some condition =>
        cases optionalIn Position.read (valuesOf "position" fewer).getLast? with
        | none => exact .same rfl
        | some position => exact .below thins fun lost => .rule groups (place _ lost)

private theorem get_last_of_item {item : Option Json} : item.toList.getLast? = item := by
  cases item with
  | none => rfl
  | some value => rfl

theorem body_parts_thin {value thinned body less : Json} {rules others source given : List Json}
    (ofRules : FieldThins ["rules", "source"] "rules" body less rules others)
    (ofSource : FieldThins ["rules", "source"] "source" body less source given)
    (spoils : InField ["rules", "source"] "rules" (InItems Spoils) body less →
      Spoils value thinned) :
    FormsThin value thinned (bodyForm rules.getLast? source.getLast?)
      (bodyForm others.getLast? given.getLast?) := by
  have text := optional_agrees ofSource (fun _ _ thins => .inl (text_agrees thins)) in_no_field
  rw [bodyForm, bodyForm, text]
  rcases rules_thin ofRules with same | ⟨before, after, rule, fewer, held, left, thins, place⟩
  · rw [same]
    exact .same rfl
  · rw [held, left]
    cases optionalIn readText given.getLast? with
    | none => exact .same rfl
    | some source => exact .below thins fun lost => spoils (place _ lost)

theorem body_form_thins {value thinned body less : Json} (thins : Thins body less)
    (spoils : InField ["rules", "source"] "rules" (InItems Spoils) body less →
      Spoils value thinned) :
    FormsThin value thinned (sheetForm (some body)) (sheetForm (some less)) := by
  cases thins.shape with
  | @object members fewer thin =>
      have parts := body_parts_thin (Json.members_field_thins _ thin "rules")
        (Json.members_field_thins _ thin "source") spoils
      simp only [← Json.last_member_eq_last_value] at parts
      exact parts
  | @array before after item other inside =>
      have parts := body_parts_thin (Json.items_field_thins _ inside "rules")
        (Json.items_field_thins _ inside "source") spoils
      simp only [get_last_of_item] at parts
      have lengths : (before ++ item :: after).length = (before ++ other :: after).length := by
        simp
      by_cases long : 2 < (before ++ item :: after).length
      · rw [sheetForm, if_pos long, sheetForm, if_pos (lengths ▸ long)]
        exact .same rfl
      · rw [sheetForm, if_neg long, sheetForm, if_neg (lengths ▸ long)]
        exact parts

theorem sheet_form_thins (thin : MembersThin members fewer)
    (sheet : tag? members = some "stylesheet") :
    FormsThin (.object members) (.object fewer) (sheetForm (lastMember? "stylesheet" members))
      (sheetForm (lastMember? "stylesheet" fewer)) := by
  have field : FieldThins [] "stylesheet" (.object members) (.object fewer) _ _ :=
    Json.members_field_thins [] thin "stylesheet"
  rw [Json.last_member_eq_last_value, Json.last_member_eq_last_value]
  generalize valuesOf "stylesheet" members = held at field
  generalize valuesOf "stylesheet" fewer = other at field
  cases field with
  | same held => exact .same rfl
  | dropped place => exact .same rfl
  | @inside body less thins place =>
      exact body_form_thins thins fun lost => .sheetRule sheet (place _ lost)

theorem block_form_thins (kind : BlockKind) (thins : Thins (.object members) (.object fewer))
    (sound : ¬ Block.Spoils (.object members) (.object fewer)) :
    blockForm kind members = blockForm kind fewer := by
  rw [blockForm, blockForm, ((Block.agrees kind thins).resolve_right sound).to_option]

theorem form_thins (thins : Thins (.object members) (.object fewer))
    (thin : MembersThin members fewer) (sound : ¬ Spoils (.object members) (.object fewer)) :
    FormsThin (.object members) (.object fewer) (form? members) (form? fewer) := by
  have block (kind : BlockKind) {tag : String} (tagged : tag? members = some tag)
      (bears : tag ∈ blockTags) :
      FormsThin (.object members) (.object fewer) (blockForm kind members)
        (blockForm kind fewer) := by
    rw [block_form_thins kind thins fun lost => sound (.here (.block tagged bears lost))]
    exact .same rfl
  have group (kind : GroupKind) (groups : ∀ tag ∈ ownTags, tag? members ≠ some tag) :=
    group_form_thins kind thin groups sound
  have listed (kind : GroupKind) {tag : String} (tagged : tag? members = some tag)
      (foreign : tag ∉ ownTags) := group kind fun own inside same =>
    foreign (Option.some.inj (tagged.symm.trans same) ▸ inside)
  unfold form?
  rw [← tag_thin thin]
  split
  · exact sheet_form_thins thin ‹_›
  · exact block .rule ‹_› (by decide)
  · exact block .fontFace ‹_› (by decide)
  · exact block .page ‹_› (by decide)
  · exact listed .media ‹_› (by decide)
  · exact listed .supports ‹_› (by decide)
  · exact listed .document ‹_› (by decide)
  · exact listed .host ‹_› (by decide)
  · exact .same (keyframes_have_no_blocks.trans keyframes_have_no_blocks.symm)
  · exact .same rfl
  · exact .same rfl
  · refine group _ ?_
    simp only [ownTags, List.forall_mem_cons]
    exact ⟨‹_›, ‹_›, ‹_›, ‹_›, ‹_›, ‹_›, ‹_›, List.forall_mem_nil _⟩

end Forms

/-- The blocks below a node stay as they are, or the null spoils a node. The induction goes down to
the rules of the node, of which at most one is thinned. -/
theorem blocks_thin (bound : Nat) (value thinned : Json) (small : sizeOf value < bound)
    (thins : Thins value thinned) :
    (ofSettled value).blocks = (ofSettled thinned).blocks ∨ Spoils value thinned := by
  induction bound generalizing value thinned with
  | zero => exact absurd small (Nat.not_lt_zero _)
  | succ bound ih =>
      cases thins.shape with
      | array inside =>
          left
          rw [ofSettled, ofSettled]
          · intro members same
            cases same
          · intro members same
            cases same
      | @object members fewer thin =>
          by_cases sound : Spoils (.object members) (.object fewer)
          · exact .inr sound
          · left
            rw [blocks_of_form, blocks_of_form]
            have forms := form_thins thins thin sound
            generalize found : form? members = form at forms ⊢
            generalize form? fewer = other at forms ⊢
            cases forms with
            | same alike => exact alike
            | @below before after rule less _ _ below spoils =>
                have smaller := sizeOf_rule_of_form found
                  (List.mem_append_right before List.mem_cons_self)
                have room : sizeOf rule < bound := by
                  rw [Json.object.sizeOf_spec] at small
                  omega
                have same := (ih rule less room below).resolve_right fun lost =>
                  sound (spoils lost)
                simp only [formBlocks, List.flatMap_append, List.flatMap_cons, same]

theorem form_of_broken {value thinned : Json} (distinct : value.settled = value)
    (breaks : Breaks value thinned) :
    ∃ members, value = .object members ∧ form? members = none := by
  cases breaks with
  | @block members fewer tag tagged bears lost =>
      obtain ⟨kind, form⟩ := form_of_block tagged bears
      refine ⟨members, rfl, ?_⟩
      rw [form, blockForm, (Block.refused lost).to_option]
      rfl
  | @position members fewer groups lost =>
      obtain ⟨kind, form⟩ := form_of_group groups
      refine ⟨members, rfl, ?_⟩
      rw [form, group_form_eq]
      cases lost with
      | @member before after value thinned lost =>
          have counts := Json.last_member_of_mem (Json.settled_object_iff.mp distinct).1
            (List.mem_append_right before List.mem_cons_self)
          have unread : optionalIn Position.read (some value) = none :=
            (Position.nullable_refused _ _ lost).to_option
          rw [counts, unread]
          cases soleCondition (givenConditions (before ++ ("position", value) :: after)) with
          | none => rfl
          | some condition =>
              cases rulesIn (lastMember? "rules" (before ++ ("position", value) :: after)) with
              | none => rfl
              | some rules => rfl
  | @condition before after name groups named again =>
      obtain ⟨kind, form⟩ := form_of_group groups
      refine ⟨_, rfl, ?_⟩
      have several : soleCondition
          (givenConditions (before ++ (name, .null) :: after)) = none := by
        obtain ⟨other, inside, also⟩ := again
        have among : other ∈ givenConditions before ++ givenConditions after := by
          rw [givenConditions, givenConditions, ← List.filter_append, List.mem_filter]
          exact ⟨inside, List.contains_iff_mem.mpr also⟩
        rw [given_condition named]
        exact no_sole_condition among
      rw [form, group_form_eq, several]
      rfl

end Node

/-- A null that is dropped from a syntax tree changes no block, be it in its position or otherwise,
unless it breaks a node there; and a broken node has no blocks at all. -/
theorem dropped_null_changes_no_block {value thinned : Json} (distinct : value.settled = value)
    (dropped : NullDropped value thinned) :
    ((Node.ofJson value).blocks = (Node.ofJson thinned).blocks ∨ Node.Spoils value thinned) ∧
      (Node.Breaks value thinned → (Node.ofJson value).blocks = []) := by
  rw [Node.ofJson, Node.ofJson, distinct, Json.settled_of_dropped dropped distinct]
  refine ⟨Node.blocks_thin _ value thinned (Nat.lt_succ_self _) ⟨distinct, dropped⟩, ?_⟩
  intro breaks
  obtain ⟨members, rfl, formless⟩ := Node.form_of_broken distinct breaks
  rw [Node.blocks_of_form, formless]
  rfl

def ruleInQuery (position : List (String × Json)) : Json :=
  .object [("type", .text "stylesheet"), ("stylesheet", .array [.array [
    .object [("type", .text "media"), ("media", .text "print"), ("rules", .array [
      .object [("type", .text "rule"), ("selectors", .array [.text "p"]),
        ("position", .object position)]])]]])]

theorem null_end_changes_no_block :
    let start := ("start", Json.object [("line", .number (.natural 3))])
    let value := ruleInQuery [start, ("end", .null)]
    let thinned := ruleInQuery [start]
    value.settled = value ∧ NullDropped value thinned ∧
      ((Node.ofJson value).blocks = (Node.ofJson thinned).blocks ∨ Node.Spoils value thinned) ∧
        (Node.Breaks value thinned → (Node.ofJson value).blocks = []) := by
  intro start value thinned
  have dropped : NullDropped value thinned :=
    .member [_] [] _ (.item [] [] (.item [] [] (.member [_, _] [] _ (.item [] []
      (.member [_, _] [] _ (.here [_] [] _))))))
  exact ⟨rfl, dropped, dropped_null_changes_no_block rfl dropped⟩

/-- A rule is lost when its line is null and is there when the line is lacking, and a query is lost
with its rules when its condition is null under one name and given under another. -/
theorem null_is_not_always_absence :
    let located (start : List (String × Json)) := Json.object [("type", .text "rule"),
      ("selectors", .array [.text "p"]), ("position", .object [("start", .object start)])]
    let column := ("column", Json.number (.natural 1))
    let queried (conditions : List (String × Json)) := Json.object (("type", .text "media") ::
      ("rules", .array [located [column]]) :: conditions)
    let media := ("media", Json.text "print")
    NullDropped (located [("line", .null), column]) (located [column]) ∧
      (Node.ofJson (located [("line", .null), column])).blocks = [] ∧
      (Node.ofJson (located [column])).blocks =
        [⟨.rule, ["p"], [], some ⟨some ⟨0, 1⟩, none, none⟩⟩] ∧
      NullDropped (queried [("prelude", .null), media]) (queried [media]) ∧
      (Node.ofJson (queried [("prelude", .null), media])).blocks = [] ∧
      (Node.ofJson (queried [media])).blocks =
        [⟨.rule, ["p"], [], some ⟨some ⟨0, 1⟩, none, none⟩⟩] := by
  intro located column queried media
  have ofRule : (Node.ofSettled (located [column])).blocks =
      [⟨.rule, ["p"], [], some ⟨some ⟨0, 1⟩, none, none⟩⟩] := by
    rw [Node.blocks_of_form]
    rfl
  refine ⟨.member [_, _] [] _ (.member [] [] _ (.here [] [_] _)), ?_, ?_,
    .here [_, _] [_] _, ?_, ?_⟩
  · change (Node.ofSettled (located [("line", .null), column])).blocks = []
    rw [Node.blocks_of_form]
    rfl
  · exact ofRule
  · change (Node.ofSettled (queried [("prelude", .null), media])).blocks = []
    rw [Node.blocks_of_form]
    rfl
  · change (Node.ofSettled (queried [media])).blocks = _
    rw [Node.blocks_of_form]
    change [located [column]].flatMap (fun rule => (Node.ofSettled rule).blocks) = _
    rw [List.flatMap_singleton, ofRule]

end StyleAudit
