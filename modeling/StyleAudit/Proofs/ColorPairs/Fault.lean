import StyleAudit.Proofs.ColorPairs.Pairing

/-!
# Parents that go round in a circle

A run stops at the first foreground whose chain of parents comes back to itself before it meets a
background. What was judged before stays, and no background is looked at on its own any more. Other
circles of parents do no harm.
-/

namespace StyleAudit.ColorPairs

set_option autoImplicit false

open scoped Classical

variable {map : ElementMap} {id : String}

def loopText (id x : String) : String :=
  "parent chain of element " ++ id ++ " loops at " ++ x

theorem visit_error {p q : Pairing} {text : String} (failed : visit map p id = .error (q, text)) :
    q = p ∧ HasForeground map id ∧
      ∃ x, nearestBackground map id = .loop x ∧ text = loopText id x := by
  unfold visit at failed
  cases style : foreground? map id with
  | none => simp only [style, reduceCtorEq] at failed
  | some found =>
      have fore : HasForeground map id := foreground_of_style style
      cases search : nearestBackground map id with
      | found background => simp only [style, search, reduceCtorEq] at failed
      | nowhere => simp only [style, search, reduceCtorEq] at failed
      | loop x =>
          simp only [style, search, Except.error.injEq, Prod.mk.injEq] at failed
          exact ⟨failed.1.symm, fore, x, rfl, failed.2.symm⟩

theorem visit_ok {p q : Pairing} (visited : visit map p id = .ok q) (fore : HasForeground map id) :
    ¬ Loops map id := by
  intro loops
  obtain ⟨x, search⟩ := nearest_background_loops_iff.mpr loops
  obtain ⟨found, style⟩ := Option.isSome_iff_exists.mp (foreground_is_some_iff.mpr fore)
  simp only [visit, style, search, reduceCtorEq] at visited

theorem visits_ok {ids : List String} {p q : Pairing}
    (visited : ids.foldlM (visit map) p = .ok q) :
    ∀ id ∈ ids, HasForeground map id → ¬ Loops map id := by
  induction ids generalizing p with
  | nil => nofun
  | cons first rest ih =>
      rw [List.foldlM_cons] at visited
      cases here : visit map p first with
      | error fault =>
          rw [here] at visited
          cases visited
      | ok next =>
          rw [here] at visited
          intro id member
          rcases List.mem_cons.mp member with rfl | later
          · exact visit_ok here
          · exact ih visited id later

theorem visits_error {ids : List String} {p q : Pairing} {text : String}
    (failed : ids.foldlM (visit map) p = .error (q, text)) :
    ∃ before id after, ids = before ++ id :: after ∧ before.foldlM (visit map) p = .ok q ∧
      HasForeground map id ∧ ∃ x, nearestBackground map id = .loop x ∧ text = loopText id x := by
  induction ids generalizing p with
  | nil => cases failed
  | cons first rest ih =>
      rw [List.foldlM_cons] at failed
      cases here : visit map p first with
      | error fault =>
          rw [here] at failed
          obtain rfl : fault = (q, text) := Except.error.inj failed
          obtain ⟨rfl, fore, loop⟩ := visit_error here
          exact ⟨[], first, rest, rfl, rfl, fore, loop⟩
      | ok next =>
          rw [here] at failed
          obtain ⟨before, id, after, split, visited, stopped⟩ := ih failed
          refine ⟨first :: before, id, after, congrArg (first :: ·) split, ?_, stopped⟩
          rw [List.foldlM_cons, here]
          exact visited

theorem Judged.not_lonely_background {f : Finding} (judged : Judged map id f)
    (background : String) : f ≠ lonelyBackground map background := by
  have other : (lonelyBackground map background).description =
      "Element has background-color set but not color" := by
    rw [lonelyBackground]
    cases background? map background with
    | none => rfl
    | some style => exact Finding.description_withEvidence _ _
  intro same
  rw [← same] at other
  cases judged with
  | paired _ => exact absurd other (by decide)
  | lonely _ _ =>
      rw [lonelyForeground, Finding.description_withEvidence] at other
      exact absurd other (by decide)

/-- A run stops at an element whose chain comes back to another one. It has judged the foregrounds
before that element, one finding each, and no background. -/
structure StopsAt (map : ElementMap) (findings : List Finding) (ending : Ending)
    (before : List String) (id x : String) : Prop where
  foreground : HasForeground map id
  loop : Answers map id (.loop x)
  first : ∀ earlier ∈ before, HasForeground map earlier → ¬ Loops map earlier
  fault : ending = .fault (loopText id x)
  judged : List.Forall₂ (Judged map) (foregrounds map before) findings
  backgrounds : ∀ f ∈ findings, ∀ background, f ≠ lonelyBackground map background

theorem evaluate_page_ends :
    ((evaluatePage map).ending = .completed ∧ ¬ ∃ id, HasForeground map id ∧ Loops map id) ∨
    ∃ before id after x, map.ids = before ++ id :: after ∧
      StopsAt map (evaluatePage map).findings (evaluatePage map).ending before id x := by
  rw [evaluatePage]
  cases folded : map.ids.foldlM (visit map) Pairing.start with
  | ok p =>
      refine .inl ⟨rfl, ?_⟩
      rintro ⟨id, fore, loops⟩
      exact visits_ok folded id ((map.mem_ids_iff id).mpr fore.contains) fore loops
  | error fault =>
      obtain ⟨p, text⟩ := fault
      obtain ⟨before, id, after, split, visited, fore, x, search, rfl⟩ := visits_error folded
      have distinct : ([] ++ before).Nodup := by
        have all := map.ids_nodup
        rw [split] at all
        exact (List.nodup_append.mp all).1
      have judged := (visits_track (start_tracks map) distinct visited).findings
      refine .inr ⟨before, id, after, x, split, fore, ?_, visits_ok visited, rfl, judged, ?_⟩
      · exact (nearest_background_eq_iff _).mp search
      · intro f member
        obtain ⟨i, inside, rfl⟩ := List.mem_iff_getElem.mp member
        exact (judged.get (by rw [judged.length_eq]; exact inside) inside).not_lonely_background

theorem StopsAt.loops {findings : List Finding} {ending : Ending} {before : List String}
    {x : String} (stops : StopsAt map findings ending before id x) : Loops map id :=
  nearest_background_loops_iff.mp ⟨x, (nearest_background_eq_iff _).mpr stops.loop⟩

theorem evaluate_page_completed_iff : (evaluatePage map).ending = .completed ↔
    ¬ ∃ id, HasForeground map id ∧ Loops map id := by
  rcases evaluate_page_ends with ⟨completed, straight⟩ | ⟨_, id, _, _, _, stops⟩
  · exact iff_of_true completed straight
  · refine iff_of_false ?_ (not_not_intro ⟨id, stops.foreground, stops.loops⟩)
    rw [stops.fault]
    nofun

theorem evaluate_page_fault_iff : (∃ text, (evaluatePage map).ending = .fault text) ↔
    ∃ id, HasForeground map id ∧ Loops map id := by
  rcases evaluate_page_ends with ⟨completed, straight⟩ | ⟨_, id, _, _, _, stops⟩
  · refine iff_of_false ?_ straight
    rw [completed]
    rintro ⟨_, faulted⟩
    cases faulted
  · exact iff_of_true ⟨_, stops.fault⟩ ⟨id, stops.foreground, stops.loops⟩

/-- The search for a background gives on every map the answer of the chain of parents, and no limit
on its steps is felt: it fails exactly on a chain that comes back to itself without a background.
Whatever was found before, a run faults exactly if a foreground has such a chain. A first run stops
at the first one in document order, with the judgments on the foregrounds before it and no
others. -/
theorem first_loop_stops_the_run (map : ElementMap) :
    (∀ id result, nearestBackground map id = result ↔ Answers map id result) ∧
    (∀ id steps, map.size < steps →
      searchUpwards map steps [] id = nearestBackground map id) ∧
    (∀ id, (∃ x, nearestBackground map id = .loop x) ↔ Loops map id) ∧
    (∀ ledger sheets,
      ((∃ text, ((Instance.mk technique ledger).execute ⟨sheets, some map⟩).2 = .fault text) ↔
        ∃ id, HasForeground map id ∧ Loops map id) ∧
      (((Instance.mk technique ledger).execute ⟨sheets, some map⟩).2 = .completed ↔
        ¬ ∃ id, HasForeground map id ∧ Loops map id)) ∧
    ∀ sheets, (∃ id, HasForeground map id ∧ Loops map id) →
      ∃ before id after x, map.ids = before ++ id :: after ∧
        StopsAt map ((Instance.start technique).execute ⟨sheets, some map⟩).1.ledger.findings
          ((Instance.start technique).execute ⟨sheets, some map⟩).2 before id x := by
  refine ⟨fun id => nearest_background_eq_iff, fun id steps => search_settled,
    fun id => nearest_background_loops_iff, ?_, ?_⟩
  · intro ledger sheets
    have ending : ((Instance.mk technique ledger).execute ⟨sheets, some map⟩).2 =
        (evaluatePage map).ending := rfl
    rw [ending]
    exact ⟨evaluate_page_fault_iff, evaluate_page_completed_iff⟩
  · intro sheets some_loop
    have ending : ((Instance.start technique).execute ⟨sheets, some map⟩).2 =
        (evaluatePage map).ending := rfl
    have findings : ((Instance.start technique).execute ⟨sheets, some map⟩).1.ledger.findings =
        (evaluatePage map).findings := Ledger.start_fill_all_findings _ _
    rw [ending, findings]
    exact evaluate_page_ends.resolve_left fun ⟨_, straight⟩ => straight some_loop

/-- A circle with a background in it does no harm. Below a circle of one element there is a
foreground, and after it a background that is not looked at any more. -/
def circlingPage : ElementMap :=
  ⟨.ofList [("1", styledElement "p" (some "2") [("color", "red")]),
    ("2", styledElement "div" (some "1") [("bgcolor", "navy")]),
    ("3", styledElement "b" (some "4") [("text", "white")]),
    ("4", styledElement "td" (some "4") []),
    ("5", styledElement "aside" none [("background-color", "gray")])]⟩

theorem circling_page_stops_the_run :
    (∃ id, HasForeground circlingPage id ∧ Loops circlingPage id) ∧
    circlingPage.size < 7 ∧
    searchUpwards circlingPage 7 [] "3" = nearestBackground circlingPage "3" ∧
    ∃ before id after x, circlingPage.ids = before ++ id :: after ∧
      StopsAt circlingPage
        ((Instance.start technique).execute ⟨[], some circlingPage⟩).1.ledger.findings
        ((Instance.start technique).execute ⟨[], some circlingPage⟩).2 before id x := by
  obtain ⟨_, settled, loops, _, stops⟩ := first_loop_stops_the_run circlingPage
  have fore : HasForeground circlingPage "3" := foreground_is_some_iff.mp rfl
  have loop : Loops circlingPage "3" := (loops "3").mp ⟨"4", by decide⟩
  have enough : circlingPage.size < 7 := by decide
  exact ⟨⟨"3", fore, loop⟩, enough, settled "3" 7 enough, stops [] ⟨"3", fore, loop⟩⟩

end StyleAudit.ColorPairs
