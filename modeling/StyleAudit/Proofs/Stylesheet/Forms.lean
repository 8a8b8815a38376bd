import StyleAudit.Proofs.Stylesheet.Siblings

/-!
# Forms of nodes

The blocks below a node are those of its form: of its own record, or of its rules. A group is put
together from its condition, which is given under one name at most, its rules and its position, and
the body of a sheet from its rules and its source.
-/

namespace StyleAudit.Node

set_option autoImplicit false

open Json (lastMember? readText)

variable {name : String} {value : Json} {members before after : List (String × Json)}

/-- The tags of the nodes that bear declarations. -/
def blockTags : List String :=
  ["rule", "font-face", "page"]

theorem form_of_block {tag : String} (tagged : tag? members = some tag) (bears : tag ∈ blockTags) :
    ∃ kind, form? members = blockForm kind members := by
  simp only [blockTags, List.mem_cons, List.not_mem_nil, or_false] at bears
  rw [form?, tagged]
  rcases bears with rfl | rfl | rfl
  · exact ⟨.rule, rfl⟩
  · exact ⟨.fontFace, rfl⟩
  · exact ⟨.page, rfl⟩

/-- The members that give the condition of a group. -/
def givenConditions (members : List (String × Json)) : List (String × Json) :=
  members.filter fun member => conditionNames.contains member.1

def soleCondition : List (String × Json) → Option (Option String)
  | [] => some none
  | [member] => optionalIn readText (some member.2)
  | _ :: _ :: _ => none

theorem group_form_eq (kind : GroupKind) (members : List (String × Json)) :
    groupForm kind members = (do
      let condition ← soleCondition (givenConditions members)
      let rules ← rulesIn (lastMember? "rules" members)
      let position ← optionalIn Position.read (lastMember? "position" members)
      return .branch rules fun nodes => .group kind condition nodes position) := by
  rw [groupForm, givenConditions]
  generalize members.filter (fun member => conditionNames.contains member.1) = given
  cases given with
  | nil => rfl
  | cons member others =>
      cases others with
      | nil => rfl
      | cons other rest => rfl

theorem given_condition (named : name ∈ conditionNames) :
    givenConditions (before ++ (name, value) :: after) =
      givenConditions before ++ (name, value) :: givenConditions after := by
  have own : conditionNames.contains name = true := List.contains_iff_mem.mpr named
  simp only [givenConditions, List.filter_append, List.filter_cons, own, if_true]

theorem no_condition (unnamed : name ∉ conditionNames) :
    givenConditions (before ++ (name, value) :: after) = givenConditions (before ++ after) := by
  have foreign : ¬ conditionNames.contains name = true := by
    rwa [List.contains_iff_mem]
  simp only [givenConditions, List.filter_append, List.filter_cons, foreign]
  rfl

theorem mem_of_given {first : String × Json} {rest : List (String × Json)}
    (given : givenConditions members = first :: rest) :
    first ∈ members ∧ first.1 ∈ conditionNames := by
  have inside : first ∈ givenConditions members := by
    rw [given]
    exact List.mem_cons_self
  rwa [givenConditions, List.mem_filter, List.contains_iff_mem] at inside

/-- The form of the body of a sheet, by what is given as its rules and as its source. -/
def bodyForm (rules source : Option Json) : Option Form := do
  let rules ← rulesIn rules
  let source ← optionalIn readText source
  return .branch rules fun nodes => .sheet nodes source

theorem sole_condition_congr {other : Json}
    (same : optionalIn readText (some value) = optionalIn readText (some other)) :
    soleCondition (before ++ (name, value) :: after) =
      soleCondition (before ++ (name, other) :: after) :=
  match before, after with
  | [], [] => same
  | [], _ :: _ => rfl
  | [_], _ => rfl
  | _ :: _ :: _, _ => rfl

theorem no_sole_condition {other : String × Json} (beside : other ∈ before ++ after) :
    soleCondition (before ++ (name, value) :: after) = none :=
  match before, after, beside with
  | [], _ :: _, _ => rfl
  | [_], _, _ => rfl
  | _ :: _ :: _, _, _ => rfl

def formBlocks : Option Form → List Block
  | none => []
  | some (.leaf node) => node.blocks
  | some (.branch rules _) => rules.flatMap fun rule => (ofSettled rule).blocks

section Branches

variable {rules : List Json} {build : List Node → Node}

theorem group_form_groups {kind : GroupKind}
    (found : groupForm kind members = some (.branch rules build)) (nodes : List Node) :
    (build nodes).grouped? = some nodes := by
  rw [group_form_eq] at found
  simp only [bind, Option.bind_eq_some_iff, pure, Option.some.injEq, Form.branch.injEq] at found
  obtain ⟨_, _, _, _, _, _, _, rfl⟩ := found
  rfl

theorem sheet_form_groups {body : Option Json}
    (found : sheetForm body = some (.branch rules build)) (nodes : List Node) :
    (build nodes).grouped? = some nodes := by
  unfold sheetForm at found
  split at found
  · cases found
    rfl
  · cases found
    rfl
  · simp only [bind, Option.bind_eq_some_iff, pure, Option.some.injEq, Form.branch.injEq] at found
    obtain ⟨_, _, _, _, _, rfl⟩ := found
    rfl
  · split at found
    · cases found
    · simp only [bind, Option.bind_eq_some_iff, pure, Option.some.injEq,
        Form.branch.injEq] at found
      obtain ⟨_, _, _, _, _, rfl⟩ := found
      rfl
  · cases found

theorem form_groups (found : form? members = some (.branch rules build)) (nodes : List Node) :
    (build nodes).grouped? = some nodes := by
  unfold form? at found
  split at found
  · exact sheet_form_groups found nodes
  · simp [blockForm] at found
  · simp [blockForm] at found
  · simp [blockForm] at found
  · exact group_form_groups found nodes
  · exact group_form_groups found nodes
  · exact group_form_groups found nodes
  · exact group_form_groups found nodes
  · simp [keyframesForm, bind, Option.bind_eq_some_iff, pure] at found
  · simp at found
  · simp at found
  · exact group_form_groups found nodes

end Branches

theorem blocks_of_form (members : List (String × Json)) :
    (ofSettled (.object members)).blocks = formBlocks (form? members) := by
  cases found : form? members with
  | none =>
      rw [ofSettled]
      split
      · rfl
      · rename_i also
        cases also.symm.trans found
      · rename_i also
        cases also.symm.trans found
  | some form =>
      cases form with
      | leaf node =>
          rw [ofSettled]
          split
          · rename_i also
            cases also.symm.trans found
          · rename_i also
            cases also.symm.trans found
            rfl
          · rename_i also
            cases also.symm.trans found
      | branch rules build =>
          have groups := of_settled_branch ⟨build, found, form_groups found⟩
          rw [blocks_of_grouped groups, blocksOfAll_eq_flatMap, List.flatMap_map]
          rfl

theorem keyframes_have_no_blocks : formBlocks (keyframesForm members) = [] := by
  rw [keyframesForm]
  cases optionalIn readText (lastMember? "name" members) with
  | none => rfl
  | some name =>
      cases rulesIn (lastMember? "keyframes" members) with
      | none => rfl
      | some frames => rfl

end StyleAudit.Node
