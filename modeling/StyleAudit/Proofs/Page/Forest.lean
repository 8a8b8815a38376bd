import StyleAudit.Proofs.Page.Order

/-!
# What the markup of a map holds

The parents in a map may be anything, but what hangs from the elements without a mapped parent is a
forest. The markup is the text of that forest: it holds each element that reaches a root once, right
inside its parent and in document order among its siblings, and nothing of what is on a circle of
parents or below one. The depth to which the markup is written is never reached.
-/

namespace StyleAudit

set_option autoImplicit false

open ElementMap (openTag closeTag childrenIn)

/-- Elements that stand inside one another, by their ids. -/
inductive Nest where
  | node (id : String) (inner : List Nest)

def Nest.id : Nest → String
  | node id _ => id

mutual

def Nest.ids : Nest → List String
  | .node id inner => id :: nestedIds inner

def nestedIds : List Nest → List String
  | [] => []
  | nest :: rest => nest.ids ++ nestedIds rest

end

mutual

def Nest.text (map : ElementMap) : Nest → String
  | .node id inner =>
    match map.get? id with
    | none => ""
    | some element => openTag id element ++ nestedText map inner ++ closeTag element

def nestedText (map : ElementMap) : List Nest → String
  | [] => ""
  | nest :: rest => nest.text map ++ nestedText map rest

end

mutual

/-- Right inside every element stand those that have it as their parent, in document order. -/
def Nest.Follows (map : ElementMap) : Nest → Prop
  | .node id inner => inner.map Nest.id = map.row (some id) ∧ AllFollow map inner

def AllFollow (map : ElementMap) : List Nest → Prop
  | [] => True
  | nest :: rest => nest.Follows map ∧ AllFollow map rest

end

variable {map : ElementMap} {id : String}

theorem nested_text_eq_join (map : ElementMap) (nests : List Nest) :
    nestedText map nests = String.join (nests.map (Nest.text map)) := by
  induction nests with
  | nil => rfl
  | cons nest rest ih => rw [nestedText, ih, List.map_cons, String.join_cons]

theorem all_follow_iff {nests : List Nest} :
    AllFollow map nests ↔ ∀ nest ∈ nests, nest.Follows map := by
  induction nests with
  | nil => exact ⟨fun _ => nofun, fun _ => trivial⟩
  | cons nest rest ih => rw [AllFollow, ih, List.forall_mem_cons]

namespace ElementMap

theorem hangs_of_row {nests : List Nest} {parent : Option String}
    (row : nests.map Nest.id = map.row parent) {nest : Nest} (inside : nest ∈ nests) :
    map.contains nest.id = true ∧ map.mappedParent? nest.id = parent :=
  mem_row_iff.mp (row ▸ List.mem_map_of_mem inside)

theorem AtDepth.child {parent : String} {depth : Nat} (deep : map.AtDepth parent depth)
    (named : map.mappedParent? id = some parent) : map.AtDepth id (depth + 1) := by
  obtain ⟨root, there, top⟩ := deep
  exact ⟨root, (map.above_succ named depth).trans there, top⟩

theorem contains_above {steps : Nat} {x : String} (held : map.contains id = true)
    (there : map.above steps id = some x) : map.contains x = true := by
  cases steps with
  | zero =>
      obtain rfl := Option.some.inj there
      exact held
  | succ steps =>
      rw [above_succ_last] at there
      obtain ⟨y, _, named⟩ := Option.bind_eq_some_iff.mp there
      exact (mapped_parent_eq_some_iff.mp named).2

theorem AtDepth.lt_size {depth : Nat} (deep : map.AtDepth id depth)
    (held : map.contains id = true) : depth < map.size := by
  have straight := reaches_root_iff_not_circles.mp ⟨depth, deep⟩
  obtain ⟨root, there, top⟩ := deep
  apply map.chain_length id
  · intro i within
    obtain ⟨x, here⟩ := map.above_some_of_le there (Nat.le_of_lt_succ within)
    exact ⟨x, here, contains_above held here⟩
  · intro i j less within same
    obtain ⟨x, here⟩ := map.above_some_of_le there (Nat.le_of_lt_succ within)
    exact straight (circles_of_again less (same.trans here) here)

theorem sibling_not_above {x y : String} {steps : Nat} (straight : ¬ map.Circles x)
    (siblings : map.mappedParent? x = map.mappedParent? y) :
    map.above (steps + 1) x ≠ some y := by
  intro there
  cases named : map.mappedParent? x with
  | none =>
      rw [above, named] at there
      cases there
  | some parent =>
      have first : map.above 1 x = some parent := map.above_succ named 0
      rw [above_succ named] at there
      have back : map.above (steps + 1) parent = some parent := by
        rw [above_succ_last, there, Option.bind_some, ← siblings, named]
      exact straight ⟨1, parent, steps + 1, first, Nat.succ_pos steps, back⟩

theorem siblings_above_eq {id x y : String} {first second : Nat} (straight : ¬ map.Circles id)
    (atFirst : map.above first id = some x) (atSecond : map.above second id = some y)
    (siblings : map.mappedParent? x = map.mappedParent? y) : x = y := by
  have higher {x : String} {steps : Nat} (there : map.above steps id = some x) :
      ¬ map.Circles x := by
    rintro ⟨before, z, around, here, positive, back⟩
    exact straight ⟨steps + before, z, around, (map.above_later there).trans here, positive, back⟩
  rcases Nat.lt_trichotomy first second with less | rfl | more
  · obtain ⟨between, rfl⟩ := Nat.exists_eq_add_of_lt less
    rw [Nat.add_assoc, above_later atFirst] at atSecond
    exact absurd atSecond (sibling_not_above (higher atFirst) siblings)
  · exact Option.some.inj (atFirst.symm.trans atSecond)
  · obtain ⟨between, rfl⟩ := Nat.exists_eq_add_of_lt more
    rw [Nat.add_assoc, above_later atSecond] at atFirst
    exact absurd atFirst (sibling_not_above (higher atSecond) siblings.symm)

def nestOf (map : ElementMap) : Nat → String → Nest
  | 0, id => .node id []
  | depth + 1, id => .node id ((map.row (some id)).map (map.nestOf depth))

def forest (map : ElementMap) : List Nest :=
  (map.row none).map (map.nestOf map.size)

theorem nest_of_id (map : ElementMap) (depth : Nat) (id : String) :
    (map.nestOf depth id).id = id := by
  cases depth <;> rfl

theorem nests_of_ids (map : ElementMap) (depth : Nat) (ids : List String) :
    (ids.map (map.nestOf depth)).map Nest.id = ids := by
  rw [List.map_map]
  conv_rhs => rw [← List.map_id ids]
  exact List.map_congr_left fun id _ => nest_of_id map depth id

/-- With room for the elements that are not above it, an element has all below it inside it. -/
theorem nest_of_follows {depth above : Nat} (held : map.contains id = true)
    (deep : map.AtDepth id above) (room : map.size ≤ depth + above) :
    (map.nestOf depth id).Follows map := by
  induction depth generalizing id above with
  | zero =>
      -- Without room left there is no such element: it would be as deep as the map is large.
      have bound := deep.lt_size held
      omega
  | succ depth ih =>
      rw [nestOf, Nest.Follows, nests_of_ids, all_follow_iff]
      refine ⟨rfl, ?_⟩
      intro nest member
      obtain ⟨child, hangs, rfl⟩ := List.mem_map.mp member
      obtain ⟨mapped, named⟩ := mem_row_iff.mp hangs
      exact ih mapped (deep.child named) (by omega)

theorem markup_of_nest {depth above : Nat} (held : map.contains id = true)
    (deep : map.AtDepth id above) (room : map.size ≤ depth + above) :
    map.markupOf map.parents depth id = (map.nestOf depth id).text map := by
  induction depth generalizing id above with
  | zero =>
      have bound := deep.lt_size held
      omega
  | succ depth ih =>
      have inner : (map.row (some id)).map (map.markupOf map.parents depth) =
          ((map.row (some id)).map (map.nestOf depth)).map (Nest.text map) := by
        rw [List.map_map]
        apply List.map_congr_left
        intro child hangs
        obtain ⟨mapped, named⟩ := mem_row_iff.mp hangs
        exact ih mapped (deep.child named) (by omega)
      cases found : map.get? id with
      | none => simp only [markupOf, nestOf, Nest.text, found]
      | some element =>
          simp only [markupOf, nestOf, Nest.text, found, nested_text_eq_join, children_eq_row,
            inner]

theorem markup_settled {depth above more : Nat} (held : map.contains id = true)
    (deep : map.AtDepth id above) (room : map.size ≤ depth + above) :
    map.markupOf map.parents (depth + more) id = map.markupOf map.parents depth id := by
  induction depth generalizing id above with
  | zero =>
      have bound := deep.lt_size held
      omega
  | succ depth ih =>
      have inner : (map.row (some id)).map (map.markupOf map.parents (depth + more)) =
          (map.row (some id)).map (map.markupOf map.parents depth) := by
        apply List.map_congr_left
        intro child hangs
        obtain ⟨mapped, named⟩ := mem_row_iff.mp hangs
        exact ih mapped (deep.child named) (by omega)
      rw [Nat.add_right_comm, markupOf, markupOf, children_eq_row, inner]

theorem root_at_depth (hangs : id ∈ map.row none) :
    map.contains id = true ∧ map.AtDepth id 0 := by
  obtain ⟨mapped, top⟩ := mem_row_iff.mp hangs
  exact ⟨mapped, id, rfl, top⟩

theorem markup_at_greater_depth (map : ElementMap) (more : Nat) :
    String.join ((childrenIn map.parents none).map (map.markupOf map.parents (map.size + more))) =
      map.markup := by
  rw [markup, children_eq_row]
  congr 1
  apply List.map_congr_left
  intro id hangs
  obtain ⟨mapped, deep⟩ := root_at_depth hangs
  exact markup_settled mapped deep (Nat.le_refl _)

theorem markup_eq_forest_text (map : ElementMap) : map.markup = nestedText map map.forest := by
  rw [markup, children_eq_row, nested_text_eq_join, forest, List.map_map]
  congr 1
  apply List.map_congr_left
  intro id hangs
  obtain ⟨mapped, deep⟩ := root_at_depth hangs
  exact markup_of_nest mapped deep (Nat.le_add_right _ _)

theorem forest_follows (map : ElementMap) : AllFollow map map.forest := by
  rw [all_follow_iff]
  intro nest member
  obtain ⟨id, hangs, rfl⟩ := List.mem_map.mp member
  obtain ⟨mapped, deep⟩ := root_at_depth hangs
  exact nest_of_follows mapped deep (Nat.le_add_right _ _)

end ElementMap

mutual

theorem mem_nest_ids (nest : Nest) (follows : nest.Follows map)
    (held : map.contains nest.id = true) (x : String) :
    x ∈ nest.ids ↔ map.contains x = true ∧ ∃ steps, map.above steps x = some nest.id :=
  match nest with
  | .node id inner => by
    obtain ⟨row, below⟩ := follows
    have hangs (child : Nest) (inside : child ∈ inner) := ElementMap.hangs_of_row row inside
    rw [Nest.ids, List.mem_cons,
      mem_nested_ids inner below (fun child inside => (hangs child inside).1)]
    constructor
    · rintro (rfl | ⟨mapped, child, inside, steps, there⟩)
      · exact ⟨held, 0, rfl⟩
      · refine ⟨mapped, steps + 1, ?_⟩
        rw [ElementMap.above_succ_last, there, Option.bind_some, (hangs child inside).2]
        rfl
    · rintro ⟨mapped, steps, there⟩
      cases steps with
      | zero => exact .inl (Option.some.inj there)
      | succ steps =>
          rw [ElementMap.above_succ_last] at there
          obtain ⟨child, lower, named⟩ := Option.bind_eq_some_iff.mp there
          have listed : child ∈ inner.map Nest.id := by
            rw [row]
            have parent := (ElementMap.mapped_parent_eq_some_iff.mp named).1
            exact ElementMap.mem_row_iff.mpr ⟨ElementMap.contains_of_parent parent, named⟩
          obtain ⟨nest, inside, rfl⟩ := List.mem_map.mp listed
          exact .inr ⟨mapped, nest, inside, steps, lower⟩

theorem mem_nested_ids (nests : List Nest) (follow : AllFollow map nests)
    (held : ∀ nest ∈ nests, map.contains nest.id = true) (x : String) :
    x ∈ nestedIds nests ↔
      map.contains x = true ∧ ∃ nest ∈ nests, ∃ steps, map.above steps x = some nest.id :=
  match nests with
  | [] => by simp [nestedIds]
  | nest :: rest => by
    obtain ⟨first, later⟩ := follow
    rw [List.forall_mem_cons] at held
    rw [nestedIds, List.mem_append, mem_nest_ids nest first held.1,
      mem_nested_ids rest later held.2, ← and_or_left]
    simp only [List.mem_cons, exists_eq_or_imp]

end

mutual

theorem nest_ids_nodup (nest : Nest) (follows : nest.Follows map)
    (held : map.contains nest.id = true) (reaches : map.ReachesRoot nest.id) : nest.ids.Nodup :=
  match nest with
  | .node id inner => by
    obtain ⟨row, below⟩ := follows
    obtain ⟨depth, deep⟩ := reaches
    have hangs (child : Nest) (inside : child ∈ inner) := ElementMap.hangs_of_row row inside
    have straight := ElementMap.reaches_root_iff_not_circles.mp ⟨depth, deep⟩
    rw [Nest.ids, List.nodup_cons]
    constructor
    · rw [mem_nested_ids inner below (fun child inside => (hangs child inside).1)]
      rintro ⟨_, child, inside, steps, lower⟩
      have back : map.above (steps + 1) id = some id := by
        rw [ElementMap.above_succ_last, lower, Option.bind_some, (hangs child inside).2]
      exact straight ⟨0, id, steps + 1, rfl, Nat.succ_pos steps, back⟩
    · apply nested_ids_nodup inner (some id) below
      · intro child inside
        obtain ⟨mapped, named⟩ := hangs child inside
        exact ⟨mapped, named, depth + 1, deep.child named⟩
      · rw [row]
        exact map.row_nodup (some id)

theorem nested_ids_nodup (nests : List Nest) (parent : Option String)
    (follow : AllFollow map nests)
    (hang : ∀ nest ∈ nests, map.contains nest.id = true ∧ map.mappedParent? nest.id = parent ∧
      map.ReachesRoot nest.id)
    (distinct : (nests.map Nest.id).Nodup) : (nestedIds nests).Nodup :=
  match nests with
  | [] => List.nodup_nil
  | nest :: rest => by
    obtain ⟨first, later⟩ := follow
    rw [List.forall_mem_cons] at hang
    obtain ⟨⟨held, named, reaches⟩, others⟩ := hang
    rw [List.map_cons, List.nodup_cons] at distinct
    rw [nestedIds, List.nodup_append]
    refine ⟨nest_ids_nodup nest first held reaches,
      nested_ids_nodup rest parent later others distinct.2, ?_⟩
    -- An element in two of the nests would be below two siblings.
    rintro x here _ there rfl
    obtain ⟨_, steps, atNest⟩ := (mem_nest_ids nest first held x).mp here
    obtain ⟨_, other, inside, steps', atOther⟩ :=
      (mem_nested_ids rest later (fun nest member => (others nest member).1) x).mp there
    have straight : ¬ map.Circles x := by
      rw [← ElementMap.reaches_root_iff_not_circles]
      obtain ⟨depth, root, up, top⟩ := reaches
      exact ⟨steps + depth, root, (map.above_later atNest).trans up, top⟩
    have same := ElementMap.siblings_above_eq straight atNest atOther
      (named.trans (others other inside).2.1.symm)
    exact distinct.1 (same ▸ List.mem_map_of_mem inside)

end

namespace ElementMap

theorem forest_roots (map : ElementMap) : map.forest.map Nest.id = map.row none :=
  map.nests_of_ids _ _

theorem root_of_forest {nest : Nest} (inside : nest ∈ map.forest) :
    map.contains nest.id = true ∧ map.mappedParent? nest.id = none :=
  hangs_of_row map.forest_roots inside

theorem mem_forest_ids_iff :
    id ∈ nestedIds map.forest ↔ map.contains id = true ∧ map.ReachesRoot id := by
  rw [mem_nested_ids map.forest map.forest_follows (fun _ inside => (root_of_forest inside).1)]
  apply and_congr_right
  intro mapped
  constructor
  · rintro ⟨nest, inside, steps, there⟩
    exact ⟨steps, nest.id, there, (root_of_forest inside).2⟩
  · rintro ⟨steps, root, there, top⟩
    have listed : root ∈ map.forest.map Nest.id := by
      rw [forest_roots]
      exact mem_row_iff.mpr ⟨contains_above mapped there, top⟩
    obtain ⟨nest, inside, rfl⟩ := List.mem_map.mp listed
    exact ⟨nest, inside, steps, there⟩

theorem forest_ids_nodup (map : ElementMap) : (nestedIds map.forest).Nodup := by
  apply nested_ids_nodup map.forest none map.forest_follows
  · intro nest inside
    obtain ⟨mapped, top⟩ := root_of_forest inside
    exact ⟨mapped, top, 0, nest.id, rfl, top⟩
  · rw [forest_roots]
    exact map.row_nodup none

end ElementMap

/-- The markup of any map is the text of one forest. Its roots are the elements without a mapped
parent and right inside every element stand its children, both in document order. The elements that
reach a root stand in it, each once, and those on a circle of parents or below one do not. Writing
to a greater depth changes nothing. -/
theorem markup_writes_what_reaches_a_root (map : ElementMap) :
    map.ids.Pairwise (fun a b => Page.notAfter a b = true) ∧
    (∀ more, String.join ((childrenIn map.parents none).map
      (map.markupOf map.parents (map.size + more))) = map.markup) ∧
    ∃ forest : List Nest,
      map.markup = nestedText map forest ∧
      forest.map Nest.id = map.row none ∧
      (∀ nest ∈ forest, nest.Follows map) ∧
      (nestedIds forest).Nodup ∧
      (∀ id, id ∈ nestedIds forest ↔ map.contains id = true ∧ map.ReachesRoot id) ∧
      (∀ id, id ∈ nestedIds forest ↔ map.contains id = true ∧ ¬ map.Circles id) := by
  refine ⟨List.pairwise_mergeSort Page.notAfter_trans Page.notAfter_total _,
    map.markup_at_greater_depth, map.forest, map.markup_eq_forest_text, map.forest_roots,
    all_follow_iff.mp map.forest_follows, map.forest_ids_nodup,
    fun id => ElementMap.mem_forest_ids_iff, ?_⟩
  intro id
  rw [ElementMap.mem_forest_ids_iff, ElementMap.reaches_root_iff_not_circles]

end StyleAudit
