import StyleAudit.Proofs.ColorPairs.Ancestry
import StyleAudit.Proofs.Page.Chain

/-!
# What the search for a background comes to

The chain of parents may end, meet a background or come back to an element that it has passed, and
whichever is first decides. The search takes a limited number of steps, but it gives the answer of
the chain itself on every map, so the limit is never what ends it.
-/

namespace StyleAudit.ColorPairs

set_option autoImplicit false

variable {map : ElementMap} {id : String}

def BareBelow (map : ElementMap) (id : String) (steps : Nat) : Prop :=
  ∀ i < steps, ∀ x, map.above i id = some x → ¬ HasBackground map x

/-- A number of steps up, the chain is at an element that it has passed before, and it has met no
background. -/
structure Returns (map : ElementMap) (id : String) (steps : Nat) (x : String) : Prop where
  here : map.above steps id = some x
  passed : ∃ i < steps, map.above i id = some x
  bare : BareBelow map id steps

/-- The chain comes back to an element of itself without having met a background. -/
def Loops (map : ElementMap) (id : String) : Prop :=
  ∃ steps x, Returns map id steps x

/-- The answer of a chain: the first background, or that it ends without one, or the first element
that it comes back to without one. -/
inductive Answers (map : ElementMap) (id : String) : Search → Prop where
  | found {steps : Nat} {background : String} (here : map.above steps id = some background)
      (has : HasBackground map background) (bare : BareBelow map id steps) :
      Answers map id (.found background)
  | nowhere {steps : Nat} (ended : map.above steps id = none) (bare : BareBelow map id steps) :
      Answers map id .nowhere
  | loop {steps : Nat} {x : String} (back : Returns map id steps x)
      (first : ∀ fewer < steps, ∀ y, ¬ Returns map id fewer y) : Answers map id (.loop x)

theorem BareBelow.succ {steps : Nat} {x : String} (bare : BareBelow map id steps)
    (here : map.above steps id = some x) (lacks : ¬ HasBackground map x) :
    BareBelow map id (steps + 1) := by
  intro i within y there
  rcases Nat.lt_or_eq_of_le (Nat.le_of_lt_succ within) with before | rfl
  · exact bare i before y there
  · obtain rfl := Option.some.inj (here.symm.trans there)
    exact lacks

theorem BareBelow.below {parent : String} {steps : Nat} (bare : BareBelow map parent steps)
    (lacks : ¬ HasBackground map id) (up : map.mappedParent? id = some parent) :
    BareBelow map id (steps + 1) := by
  intro i within x here
  cases i with
  | zero =>
      obtain rfl := Option.some.inj here
      exact lacks
  | succ i =>
      rw [ElementMap.above_succ up] at here
      exact bare i (Nat.lt_of_succ_lt_succ within) x here

theorem BareBelow.above {parent : String} {steps : Nat} (bare : BareBelow map id (steps + 1))
    (up : map.mappedParent? id = some parent) : BareBelow map parent steps := by
  intro i within x here
  exact bare (i + 1) (Nat.succ_lt_succ within) x ((map.above_succ up i).trans here)

theorem nearest_iff {background : String} : Nearest map id background ↔
    ∃ steps, map.above steps id = some background ∧ HasBackground map background ∧
      BareBelow map id steps := by
  constructor
  · intro nearest
    induction nearest with
    | own has =>
        refine ⟨0, rfl, has, ?_⟩
        intro i impossible
        omega
    | inherited lacks named mapped _ ih =>
        obtain ⟨steps, here, has, bare⟩ := ih
        have up := ElementMap.mapped_parent_eq_some_iff.mpr ⟨named, mapped⟩
        exact ⟨steps + 1, (map.above_succ up steps).trans here, has, bare.below lacks up⟩
  · rintro ⟨steps, here, has, bare⟩
    induction steps generalizing id with
    | zero =>
        obtain rfl := Option.some.inj here
        exact .own has
    | succ steps ih =>
        cases up : map.mappedParent? id with
        | none =>
            rw [ElementMap.above, up] at here
            cases here
        | some parent =>
            obtain ⟨named, mapped⟩ := ElementMap.mapped_parent_eq_some_iff.mp up
            rw [ElementMap.above_succ up] at here
            exact .inherited (bare 0 (Nat.succ_pos steps) id rfl) named mapped
              (ih here (bare.above up))

/-- A chain that has come back goes through the same elements for ever. -/
theorem Returns.within {steps : Nat} {x : String} (back : Returns map id steps x) (i : Nat) :
    ∃ j < steps, map.above i id = map.above j id := by
  induction i using Nat.strongRecOn with
  | ind i ih =>
      by_cases inside : i < steps
      · exact ⟨i, inside, rfl⟩
      · obtain ⟨start, less, first⟩ := back.passed
        obtain ⟨beyond, rfl⟩ := Nat.exists_eq_add_of_le (Nat.le_of_not_lt inside)
        have earlier : map.above (steps + beyond) id = map.above (start + beyond) id := by
          rw [map.above_later back.here, map.above_later first]
        obtain ⟨j, within, same⟩ := ih (start + beyond) (by omega)
        exact ⟨j, within, earlier.trans same⟩

theorem Returns.circles {steps : Nat} {x : String} (back : Returns map id steps x) :
    map.Circles id := by
  obtain ⟨i, less, first⟩ := back.passed
  exact map.circles_of_again less first back.here

theorem Loops.circles (loops : Loops map id) : map.Circles id := by
  obtain ⟨steps, x, back⟩ := loops
  exact back.circles

theorem Loops.not_found {steps : Nat} {x : String} (loops : Loops map id)
    (here : map.above steps id = some x) : ¬ HasBackground map x := by
  obtain ⟨length, y, back⟩ := loops
  obtain ⟨i, within, same⟩ := back.within steps
  exact back.bare i within x (same ▸ here)

theorem not_found_of_ended {steps ended : Nat} {x : String} (bare : BareBelow map id ended)
    (none : map.above ended id = none) (here : map.above steps id = some x) :
    ¬ HasBackground map x := by
  by_cases before : steps < ended
  · exact bare steps before x here
  · rw [map.above_none_of_le none (Nat.le_of_not_lt before)] at here
    cases here

theorem Answers.unique {one other : Search} (first : Answers map id one)
    (second : Answers map id other) : one = other := by
  cases first with
  | @found steps background here has bare =>
      cases second with
      | @found steps' background' here' has' bare' =>
          rcases Nat.lt_trichotomy steps steps' with less | rfl | more
          · exact absurd has (bare' steps less background here)
          · rw [Option.some.inj (here.symm.trans here')]
          · exact absurd has' (bare steps' more background' here')
      | nowhere ended bare' => exact absurd has (not_found_of_ended bare' ended here)
      | loop back _ => exact absurd has (Loops.not_found ⟨_, _, back⟩ here)
  | nowhere ended bare =>
      cases second with
      | found here has _ => exact absurd has (not_found_of_ended bare ended here)
      | nowhere _ _ => rfl
      | loop back _ => exact absurd ended (back.circles.endless _)
  | @loop steps x back least =>
      cases second with
      | found here has _ => exact absurd has (Loops.not_found ⟨_, _, back⟩ here)
      | nowhere ended _ => exact absurd ended (back.circles.endless _)
      | @loop steps' x' back' least' =>
          rcases Nat.lt_trichotomy steps steps' with less | rfl | more
          · exact absurd back (least' steps less x)
          · rw [Option.some.inj (back.here.symm.trans back'.here)]
          · exact absurd back' (least steps' more x')

theorem search_succ (steps : Nat) (visited : List String) :
    searchUpwards map (steps + 1) visited id =
      if visited.contains id then .loop id
      else if (background? map id).isSome then .found id
      else match map.mappedParent? id with
        | some parent => searchUpwards map steps (id :: visited) parent
        | none => .nowhere := by
  rw [searchUpwards, ElementMap.mappedParent?]
  cases map.parent? id with
  | none => rfl
  | some parent =>
      by_cases mapped : map.contains parent = true
      · simp only [mapped, if_true, Option.filter_some]
      · simp only [mapped, Option.filter_some]
        rfl

/-- A search that has taken a number of steps up the chain: it has visited what it has passed, all
of it different and without a background. -/
structure Climbed (map : ElementMap) (start : String) (taken : Nat) (visited : List String)
    (current : String) : Prop where
  here : map.above taken start = some current
  passed : ∀ x, x ∈ visited ↔ ∃ i < taken, map.above i start = some x
  bare : BareBelow map start taken
  different : ∀ i j, i < j → j < taken → map.above i start ≠ map.above j start

theorem climbed_start (map : ElementMap) (start : String) : Climbed map start 0 [] start := by
  refine ⟨rfl, ?_, ?_, ?_⟩
  · intro x
    simp
  · intro i impossible
    omega
  · intro i j _ impossible
    omega

theorem Climbed.up {start current parent : String} {taken : Nat} {visited : List String}
    (climbed : Climbed map start taken visited current) (new : current ∉ visited)
    (lacks : ¬ HasBackground map current) (named : map.mappedParent? current = some parent) :
    Climbed map start (taken + 1) (current :: visited) parent := by
  refine ⟨?_, ?_, climbed.bare.succ climbed.here lacks, ?_⟩
  · rw [ElementMap.above_succ_last, climbed.here, Option.bind_some, named]
  · intro x
    rw [List.mem_cons, climbed.passed]
    constructor
    · rintro (rfl | ⟨i, before, there⟩)
      · exact ⟨taken, Nat.lt_succ_self taken, climbed.here⟩
      · exact ⟨i, Nat.lt_succ_of_lt before, there⟩
    · rintro ⟨i, within, there⟩
      rcases Nat.lt_or_eq_of_le (Nat.le_of_lt_succ within) with before | rfl
      · exact .inr ⟨i, before, there⟩
      · exact .inl (Option.some.inj (there.symm.trans climbed.here))
  · intro i j less within same
    rcases Nat.lt_or_eq_of_le (Nat.le_of_lt_succ within) with before | rfl
    · exact climbed.different i j less before same
    · exact new ((climbed.passed current).mpr ⟨i, less, same.trans climbed.here⟩)

theorem Climbed.within {start current : String} {taken : Nat} {visited : List String}
    (climbed : Climbed map start taken visited current) : taken ≤ map.size := by
  refine map.chain_length start ?_ climbed.different
  intro i before
  obtain ⟨x, there⟩ := map.above_some_of_le climbed.here (Nat.le_of_lt before)
  obtain ⟨y, next⟩ := map.above_some_of_le climbed.here before
  exact ⟨x, there, map.contains_of_above_succ there next⟩

/-- With a step for every element not yet visited and one more, the search comes to the answer of
the chain. -/
theorem search_answers {start current : String} {steps taken : Nat} {visited : List String}
    (climbed : Climbed map start taken visited current) (enough : map.size < steps + taken) :
    Answers map start (searchUpwards map steps visited current) := by
  induction steps generalizing taken visited current with
  | zero =>
      -- There is no answer here: the steps taken already outnumber the elements.
      have bound := climbed.within
      omega
  | succ steps ih =>
      rw [search_succ]
      split
      · rename_i seen
        have back := (climbed.passed current).mp (by simpa using seen)
        refine .loop ⟨climbed.here, back, climbed.bare⟩ ?_
        intro fewer before y earlier
        obtain ⟨i, less, there⟩ := earlier.passed
        exact climbed.different i fewer less before (there.trans earlier.here.symm)
      · rename_i unseen
        have new : current ∉ visited := by simpa using unseen
        split
        · rename_i has
          exact .found climbed.here (background_is_some_iff.mp has) climbed.bare
        · rename_i without
          have lacks : ¬ HasBackground map current :=
            fun has => without (background_is_some_iff.mpr has)
          cases named : map.mappedParent? current with
          | some parent => exact ih (climbed.up new lacks named) (by omega)
          | none =>
              have ended : map.above (taken + 1) start = none := by
                rw [ElementMap.above_succ_last, climbed.here, Option.bind_some, named]
              exact .nowhere ended (climbed.bare.succ climbed.here lacks)

theorem nearest_background_answers (map : ElementMap) (id : String) :
    Answers map id (nearestBackground map id) :=
  search_answers (climbed_start map id) (Nat.lt_succ_self map.size)

theorem nearest_background_eq_iff (result : Search) :
    nearestBackground map id = result ↔ Answers map id result := by
  constructor
  · rintro rfl
    exact nearest_background_answers map id
  · intro answers
    exact (nearest_background_answers map id).unique answers

theorem search_settled {steps : Nat} (enough : map.size < steps) :
    searchUpwards map steps [] id = nearestBackground map id :=
  (search_answers (climbed_start map id) enough).unique (nearest_background_answers map id)

theorem nearest_background_found {background : String}
    (found : nearestBackground map id = .found background) : Nearest map id background := by
  cases (nearest_background_eq_iff _).mp found with
  | found here has bare => exact nearest_iff.mpr ⟨_, here, has, bare⟩

theorem nearest_background_nowhere (nowhere : nearestBackground map id = .nowhere) :
    ¬ ∃ background, Nearest map id background := by
  rintro ⟨background, nearest⟩
  obtain ⟨steps, here, has, _⟩ := nearest_iff.mp nearest
  cases (nearest_background_eq_iff _).mp nowhere with
  | nowhere ended bare => exact not_found_of_ended bare ended here has

theorem nearest_background_loops_iff :
    (∃ x, nearestBackground map id = .loop x) ↔ Loops map id := by
  constructor
  · rintro ⟨x, found⟩
    cases (nearest_background_eq_iff _).mp found with
    | loop back _ => exact ⟨_, _, back⟩
  · intro loops
    cases answers : nearestBackground map id with
    | loop x => exact ⟨x, rfl⟩
    | found background =>
        cases (nearest_background_eq_iff _).mp answers with
        | found here has _ => exact absurd has (loops.not_found here)
    | nowhere =>
        cases (nearest_background_eq_iff _).mp answers with
        | nowhere ended _ => exact absurd ended (loops.circles.endless _)

end StyleAudit.ColorPairs
