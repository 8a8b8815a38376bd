import StyleAudit.Proofs.Json.Settled
import StyleAudit.Proofs.Stylesheet.Order
import StyleAudit.Stylesheet.Reader

/-!
# Siblings are read apart

The rules of a sheet or a group are read one by one, and what each of them comes to does not hang on
its neighbours. A value that is no node at all takes its own place in the list and no other. So the
blocks around a value in a stylesheet stay the same whatever stands in its place, at any depth, as
long as the nodes around it are well shaped.
-/

namespace StyleAudit

set_option autoImplicit false

open Json (lastMember? settled settledMembers readNullable readText last_member_of_hole
  last_member_beside_hole last_member_settled)

/-- A node that groups others, but for the array of its rules. The body of a sheet may be an object
or the array of its fields. -/
inductive Frame where
  | group (before after : List (String × Json))
  | sheet (before after bodyBefore bodyAfter : List (String × Json))
  | listedSheet (before after : List (String × Json)) (source : Option Json)

namespace Frame

def fill (rules : List Json) : Frame → Json
  | group before after => .object (before ++ ("rules", .array rules) :: after)
  | sheet before after bodyBefore bodyAfter =>
      .object (before ++ ("stylesheet",
        .object (bodyBefore ++ ("rules", .array rules) :: bodyAfter)) :: after)
  | listedSheet before after source =>
      .object (before ++ ("stylesheet", .array (.array rules :: source.toList)) :: after)

def ownTags : List String :=
  ["stylesheet", "rule", "font-face", "page", "keyframes", "comment", "import"]

def IsTextOrNull (value : Json) : Prop :=
  value = .null ∨ ∃ s, value = .text s

def IsPositionOrNull (value : Json) : Prop :=
  value = .null ∨ ∃ p, Position.read value.settled = .ok p

/-- The members beside the rules fit a group: the condition is given under one name at most. -/
structure FitsGroup (others : List (String × Json)) : Prop where
  tag : ∀ tag ∈ ownTags, Node.tag? others ≠ some tag
  once : ∀ name ∈ Node.conditionNames, ∀ other ∈ Node.conditionNames,
    (lastMember? name others).isSome → (lastMember? other others).isSome → name = other
  condition : ∀ name ∈ Node.conditionNames, ∀ value, lastMember? name others = some value →
    IsTextOrNull value
  position : ∀ value, lastMember? "position" others = some value → IsPositionOrNull value

/-- All but the rules is well shaped, and the hole is the member that counts. -/
def Fits : Frame → Prop
  | group before after => lastMember? "rules" after = none ∧ FitsGroup (before ++ after)
  | sheet before after bodyBefore bodyAfter =>
      lastMember? "stylesheet" after = none ∧ Node.tag? (before ++ after) = some "stylesheet" ∧
        lastMember? "rules" bodyAfter = none ∧
        ∀ value, lastMember? "source" (bodyBefore ++ bodyAfter) = some value → IsTextOrNull value
  | listedSheet before after source =>
      lastMember? "stylesheet" after = none ∧ Node.tag? (before ++ after) = some "stylesheet" ∧
        ∀ value, source = some value → IsTextOrNull value

end Frame

namespace Node

open StyleAudit.Frame (IsTextOrNull IsPositionOrNull FitsGroup ownTags)

theorem tag_settled (members : List (String × Json)) :
    tag? (settledMembers members) = tag? members := by
  rw [tag?, tag?, last_member_settled]
  cases lastMember? "type" members with
  | none => rfl
  | some value => cases value <;> rfl

theorem optional_text_fits {value : Option Json} (fits : ∀ v, value = some v → IsTextOrNull v) :
    ∃ text, optionalIn readText (value.map settled) = some text := by
  cases value with
  | none => exact ⟨none, rfl⟩
  | some value =>
      rcases fits value rfl with rfl | ⟨s, rfl⟩
      · exact ⟨none, rfl⟩
      · exact ⟨some s, rfl⟩

theorem optional_position_fits {value : Option Json}
    (fits : ∀ v, value = some v → IsPositionOrNull v) :
    ∃ position, optionalIn Position.read (value.map settled) = some position := by
  cases value with
  | none => exact ⟨none, rfl⟩
  | some value =>
      rcases fits value rfl with rfl | ⟨p, read⟩
      · exact ⟨none, rfl⟩
      · refine ⟨some p, ?_⟩
        have present : value.settled ≠ .null := by
          rintro null
          rw [null] at read
          cases read
        have nullable : readNullable Position.read value.settled = .ok (some p) := by
          rw [readNullable, read]
          · rfl
          · exact present
        rw [Option.map_some, optionalIn, nullable]
        rfl

theorem condition_fits {others members : List (String × Json)} (fits : FitsGroup others)
    (same : ∀ name ∈ conditionNames, lastMember? name members = lastMember? name others) :
    ∃ given, ((settledMembers members).filter fun member => conditionNames.contains member.1) =
      given ∧ given.length ≤ 1 ∧
        ∃ condition, optionalIn readText (given.head?.map Prod.snd) = some condition := by
  refine ⟨_, rfl, ?_⟩
  have counts (name : String) (value : Json)
      (inside : (name, value) ∈ (settledMembers members).filter
        fun member => conditionNames.contains member.1) :
      name ∈ conditionNames ∧ (lastMember? name others).map settled = some value := by
    obtain ⟨inside, named⟩ := List.mem_filter.mp inside
    have named : name ∈ conditionNames := List.contains_iff_mem.mp named
    refine ⟨named, ?_⟩
    rw [← same name named, ← last_member_settled]
    exact Json.last_member_of_mem Json.settled_names_distinct inside
  have present {name : String} {value : Json}
      (held : (lastMember? name others).map settled = some value) :
      (lastMember? name others).isSome = true := by
    rw [← Option.isSome_map (f := settled), held]
    rfl
  have distinct : (((settledMembers members).filter
      fun member => conditionNames.contains member.1).map Prod.fst).Nodup :=
    Json.settled_names_distinct.sublist (List.filter_sublist.map Prod.fst)
  generalize
    (settledMembers members).filter (fun member => conditionNames.contains member.1) = given
    at counts distinct
  match given with
  | [] => exact ⟨by decide, none, rfl⟩
  | [(name, value)] =>
    refine ⟨by simp, ?_⟩
    obtain ⟨named, held⟩ := counts name value (List.mem_singleton.mpr rfl)
    obtain ⟨written, found, rfl⟩ := Option.map_eq_some_iff.mp held
    have shaped : ∀ v, some written = some v → IsTextOrNull v :=
      fun v shape => fits.condition name named v (shape ▸ found)
    exact optional_text_fits shaped
  | (name, value) :: (other, next) :: rest =>
    obtain ⟨named, held⟩ := counts name value (by simp)
    obtain ⟨alsoNamed, alsoHeld⟩ := counts other next (by simp)
    have equal : name = other :=
      fits.once name named other alsoNamed (present held) (present alsoHeld)
    simp [equal] at distinct

theorem rules_settled {rules : List Json} :
    rulesIn (some (Json.array rules).settled) = some (rules.map settled) := by
  rw [settled, Json.settledItems_eq_map]
  rfl

theorem rules_in_hole {before after : List (String × Json)} (rules : List Json)
    (unshadowed : lastMember? "rules" after = none) :
    rulesIn (lastMember? "rules" (settledMembers (before ++ ("rules", .array rules) :: after))) =
      some (rules.map settled) := by
  rw [last_member_settled, last_member_of_hole unshadowed]
  exact rules_settled

theorem tag_beside_hole {before after : List (String × Json)} {name : String} (value : Json)
    (apart : name ≠ "type") :
    tag? (settledMembers (before ++ (name, value) :: after)) = tag? (before ++ after) := by
  rw [tag_settled, tag?, tag?, last_member_beside_hole apart]

/-- The form of a node has the rules still to be read, and what is built from them groups them. -/
def Branches (form : Option Form) (rules : List Json) : Prop :=
  ∃ build, form = some (.branch rules build) ∧ ∀ nodes, (build nodes).grouped? = some nodes

theorem of_settled_branch {members : List (String × Json)} {rules : List Json}
    (branches : Branches (form? members) rules) :
    (ofSettled (.object members)).grouped? = some (rules.map ofSettled) := by
  obtain ⟨build, form, groups⟩ := branches
  have built : ofSettled (.object members) = build (rules.map ofSettled) := by
    rw [ofSettled]
    split
    · rename_i none
      cases form.symm.trans none
    · rename_i leaf
      cases form.symm.trans leaf
    · rename_i others _ found
      cases form.symm.trans found
      rw [← List.attach_map_val (l := rules)]
  rw [built, groups]

theorem group_form_branches (kind : GroupKind) {before after : List (String × Json)}
    {rules : List Json} (unshadowed : lastMember? "rules" after = none)
    (fits : FitsGroup (before ++ after)) :
    Branches (groupForm kind (settledMembers (before ++ ("rules", .array rules) :: after)))
      (rules.map settled) := by
  have beside {name : String} (apart : "rules" ≠ name) :
      lastMember? name (before ++ ("rules", .array rules) :: after) =
        lastMember? name (before ++ after) := last_member_beside_hole apart
  have names : ∀ name ∈ conditionNames, "rules" ≠ name := by decide
  obtain ⟨given, shape, few, condition, conditionRead⟩ :=
    condition_fits fits fun name named => beside (names name named)
  obtain ⟨position, positionRead⟩ := optional_position_fits fits.position
  have positionRead : optionalIn Position.read (lastMember? "position"
      (settledMembers (before ++ ("rules", .array rules) :: after))) = some position := by
    rw [last_member_settled, beside (by decide), positionRead]
  refine ⟨fun nodes => .group kind condition nodes position, ?_, fun _ => rfl⟩
  rw [groupForm, shape]
  split
  · simp at few
  · rw [conditionRead, rules_in_hole rules unshadowed, positionRead]
    rfl

theorem form_of_group {members : List (String × Json)}
    (tag : ∀ tag ∈ ownTags, tag? members ≠ some tag) :
    ∃ kind, form? members = groupForm kind members := by
  simp only [ownTags, List.forall_mem_cons] at tag
  obtain ⟨sheet, rule, fontFace, page, keyframes, comment, imported, _⟩ := tag
  unfold form?
  split
  · exact absurd ‹_› sheet
  · exact absurd ‹_› rule
  · exact absurd ‹_› fontFace
  · exact absurd ‹_› page
  · exact ⟨_, rfl⟩
  · exact ⟨_, rfl⟩
  · exact ⟨_, rfl⟩
  · exact ⟨_, rfl⟩
  · exact absurd ‹_› keyframes
  · exact absurd ‹_› comment
  · exact absurd ‹_› imported
  · exact ⟨_, rfl⟩

theorem form_of_sheet {members : List (String × Json)} (tag : tag? members = some "stylesheet") :
    form? members = sheetForm (lastMember? "stylesheet" members) := by
  rw [form?, tag]
  rfl

theorem sheet_form_branches {before after : List (String × Json)} {rules : List Json}
    (unshadowed : lastMember? "rules" after = none)
    (source : ∀ value, lastMember? "source" (before ++ after) = some value → IsTextOrNull value) :
    Branches (sheetForm (some (Json.object (before ++ ("rules", .array rules) :: after)).settled))
      (rules.map settled) := by
  obtain ⟨text, textRead⟩ := optional_text_fits source
  have textRead : optionalIn readText (lastMember? "source"
      (settledMembers (before ++ ("rules", .array rules) :: after))) = some text := by
    rw [last_member_settled, last_member_beside_hole (by decide), textRead]
  refine ⟨fun nodes => .sheet nodes text, ?_, fun _ => rfl⟩
  rw [settled, sheetForm, rules_in_hole rules unshadowed, textRead]
  rfl

theorem listed_sheet_form_branches {source : Option Json} {rules : List Json}
    (fits : ∀ value, source = some value → IsTextOrNull value) :
    Branches (sheetForm (some (Json.array (.array rules :: source.toList)).settled))
      (rules.map settled) := by
  obtain ⟨text, textRead⟩ := optional_text_fits fits
  refine ⟨fun nodes => .sheet nodes text, ?_, fun _ => rfl⟩
  have listed : source.toList.map settled = (source.map settled).toList := by
    cases source <;> rfl
  rw [settled, Json.settledItems_eq_map, sheetForm, List.map_cons, listed]
  have first : ((Json.array rules).settled :: (source.map settled).toList)[0]? =
      some (Json.array rules).settled := rfl
  have second : ((Json.array rules).settled :: (source.map settled).toList)[1]? =
      source.map settled := by
    cases source <;> rfl
  have short : ¬ 2 < ((Json.array rules).settled :: (source.map settled).toList).length := by
    cases source <;> simp
  rw [if_neg short, first, second, rules_settled, textRead]
  rfl

end Node

open Node (ofJson)

theorem Frame.fill_form {frame : Frame} (fits : frame.Fits) (rules : List Json) :
    ∃ members, (frame.fill rules).settled = .object members ∧
      Node.Branches (Node.form? members) (rules.map settled) := by
  cases frame with
  | group before after =>
      obtain ⟨unshadowed, group⟩ := fits
      refine ⟨_, by rw [fill, settled], ?_⟩
      have tag : ∀ tag ∈ ownTags,
          Node.tag? (settledMembers (before ++ ("rules", .array rules) :: after)) ≠ some tag := by
        intro tag own
        rw [Node.tag_beside_hole _ (by decide)]
        exact group.tag tag own
      obtain ⟨kind, form⟩ := Node.form_of_group tag
      rw [form]
      exact Node.group_form_branches kind unshadowed group
  | sheet before after bodyBefore bodyAfter =>
      obtain ⟨unshadowed, tag, inBody, source⟩ := fits
      refine ⟨_, by rw [fill, settled], ?_⟩
      rw [Node.form_of_sheet, last_member_settled, last_member_of_hole unshadowed]
      · exact Node.sheet_form_branches inBody source
      · exact (Node.tag_beside_hole _ (by decide)).trans tag
  | listedSheet before after source =>
      obtain ⟨unshadowed, tag, source⟩ := fits
      refine ⟨_, by rw [fill, settled], ?_⟩
      rw [Node.form_of_sheet, last_member_settled, last_member_of_hole unshadowed]
      · exact Node.listed_sheet_form_branches source
      · exact (Node.tag_beside_hole _ (by decide)).trans tag

theorem Frame.fill_grouped {frame : Frame} (fits : frame.Fits) (rules : List Json) :
    (ofJson (frame.fill rules)).grouped? = some (rules.map ofJson) := by
  obtain ⟨members, shape, branches⟩ := fill_form fits rules
  rw [ofJson, shape, Node.of_settled_branch branches, List.map_map]
  rfl

theorem Frame.fill_blocks {frame : Frame} (fits : frame.Fits) (rules : List Json) :
    (ofJson (frame.fill rules)).blocks = rules.flatMap fun rule => (ofJson rule).blocks := by
  rw [Node.blocks_of_grouped (fill_grouped fits rules), blocksOfAll_eq_flatMap, List.flatMap_map]

/-- A well-shaped node on the way down to a value, with the rules beside the way. -/
structure Layer where
  frame : Frame
  left : List Json
  right : List Json

/-- A value below some nodes, of which the first stands on top. -/
def plug : List Layer → Json → Json
  | [], value => value
  | layer :: rest, value => layer.frame.fill (layer.left ++ plug rest value :: layer.right)

def blocksOfRules (rules : List Json) : List Block :=
  rules.flatMap fun rule => (ofJson rule).blocks

/-- The blocks that a walk meets before it comes to the value, and those after it. -/
def blocksBefore (layers : List Layer) : List Block :=
  layers.flatMap fun layer => blocksOfRules layer.left

def blocksAfter (layers : List Layer) : List Block :=
  layers.reverse.flatMap fun layer => blocksOfRules layer.right

theorem plug_blocks {layers : List Layer} (fits : ∀ layer ∈ layers, layer.frame.Fits)
    (value : Json) : (ofJson (plug layers value)).blocks =
      blocksBefore layers ++ (ofJson value).blocks ++ blocksAfter layers := by
  induction layers with
  | nil => simp [plug, blocksBefore, blocksAfter]
  | cons layer rest ih =>
      have top := fits layer (by simp)
      have inner := ih fun other member => fits other (List.mem_cons_of_mem layer member)
      rw [plug, Frame.fill_blocks top, List.flatMap_append, List.flatMap_cons, inner]
      simp only [blocksBefore, blocksAfter, blocksOfRules, List.flatMap_cons, List.reverse_cons,
        List.flatMap_append, List.flatMap_nil, List.append_nil, List.append_assoc]

/-- A well-shaped sheet or group takes whatever values stand among its rules: each is read as it
would be alone and is walked in its turn. So wherever a value stands below well-shaped nodes, what
is put in its place changes no block but its own. -/
theorem malformed_rules_hide_no_siblings :
    (∀ (frame : Frame) (rules : List Json), frame.Fits →
      (ofJson (frame.fill rules)).grouped? = some (rules.map ofJson) ∧
        (ofJson (frame.fill rules)).blocks = rules.flatMap fun rule => (ofJson rule).blocks) ∧
    ∀ layers : List Layer, (∀ layer ∈ layers, layer.frame.Fits) → ∀ value,
      (ofJson (plug layers value)).blocks =
        blocksBefore layers ++ (ofJson value).blocks ++ blocksAfter layers :=
  ⟨fun _ rules fits => ⟨Frame.fill_grouped fits rules, Frame.fill_blocks fits rules⟩,
    fun _ fits value => plug_blocks fits value⟩

def printFrame : Frame :=
  .group [("type", .text "media"), ("media", .text "print"), ("rules", .null)]
    [("position", .object [("start", .object [("line", .number (.natural 3))])])]

def bodyFrame : Frame :=
  .sheet [("type", .text "stylesheet")] [] [("source", .null)] [("comment", .bool true)]

theorem print_frame_fits : printFrame.Fits := by
  refine ⟨rfl, by decide, by decide, ?_, ?_⟩
  · intro name named value found
    simp only [Node.conditionNames, List.mem_cons, List.not_mem_nil, or_false] at named
    rcases named with rfl | rfl | rfl | rfl
    · cases found
    · cases found
      exact .inr ⟨"print", rfl⟩
    · cases found
    · cases found
  · intro value found
    cases found
    exact .inr ⟨⟨some ⟨3, 0⟩, none, none⟩, rfl⟩

theorem body_frame_fits : bodyFrame.Fits := by
  refine ⟨rfl, rfl, rfl, ?_⟩
  intro value found
  cases found
  exact .inl rfl

theorem number_hides_no_rule :
    let rule := Json.object [("type", .text "rule"), ("selectors", .array [.text "li"])]
    let broken := Json.object [("type", .text "rule"), ("selectors", .text "p")]
    let query := printFrame.fill [rule, .number (.natural 42), broken]
    printFrame.Fits ∧ bodyFrame.Fits ∧
      (ofJson query).grouped? = some [ofJson rule, ofJson (.number (.natural 42)), ofJson broken] ∧
      ∀ value, (ofJson (plug [⟨bodyFrame, [rule], [query]⟩, ⟨printFrame, [broken], [rule]⟩]
        value)).blocks = (ofJson rule).blocks ++ (ofJson broken).blocks ++ (ofJson value).blocks ++
          ((ofJson rule).blocks ++ (ofJson query).blocks) := by
  intro rule broken query
  obtain ⟨apart, below⟩ := malformed_rules_hide_no_siblings
  refine ⟨print_frame_fits, body_frame_fits, (apart printFrame _ print_frame_fits).1, ?_⟩
  intro value
  have fits : ∀ layer ∈ [(⟨bodyFrame, [rule], [query]⟩ : Layer), ⟨printFrame, [broken], [rule]⟩],
      layer.frame.Fits := by
    simp only [List.forall_mem_cons]
    exact ⟨body_frame_fits, print_frame_fits, by simp⟩
  rw [below _ fits value]
  simp only [blocksBefore, blocksAfter, blocksOfRules, List.flatMap_cons, List.flatMap_nil,
    List.reverse_cons, List.reverse_nil, List.nil_append, List.cons_append, List.append_nil]

end StyleAudit
