import Mathlib.Algebra.GroupWithZero.Nat
import StyleAudit.Proofs.Schedule.Invariant

/-!
# Every schedule comes to the same report

The invariant holds when the tasks are spawned and is kept by every step, so it holds whenever a run
is complete; there it says that the report is the one of techniques that run one after another. No
schedule gets stuck on the way: as long as a technique waits someone can move, and every move leaves
less to do.
-/

namespace StyleAudit.Schedule

set_option autoImplicit false

variable {r : Roster} {input : Input} {s t : State}

private theorem places_of_enabled (r : Roster) :
    List.Forall₂ (fun e place => r.entries[place]? = some e) (r.entries.filter Entry.enabled)
      (places r) := by
  have firsts : r.entries.filter Entry.enabled =
      (r.entries.zipIdx.filter fun entry => entry.1.enabled).map Prod.fst := by
    conv_lhs => rw [← List.zipIdx_map_fst 0 r.entries, List.filter_map]
    rfl
  rw [firsts, places, List.forall₂_map_left_iff, List.forall₂_map_right_iff, List.forall₂_same]
  intro entry member
  exact List.mem_zipIdx_iff_getElem?.mp (List.mem_filter.mp member).1

private theorem places_nodup (r : Roster) : (places r).Nodup := by
  have seconds : (r.entries.zipIdx.map Prod.snd).Nodup := by
    rw [List.zipIdx_map_snd]
    exact List.nodup_range'
  exact seconds.sublist (List.filter_sublist.map Prod.snd)

private theorem mem_places {place : Nat} {e : Entry} (entry : r.entries[place]? = some e) :
    place ∈ places r ↔ e.enabled = true := by
  rw [places, List.mem_map]
  constructor
  · rintro ⟨⟨e', place'⟩, member, rfl⟩
    obtain ⟨inside, enabled⟩ := List.mem_filter.mp member
    obtain rfl := Option.some.inj ((List.mem_zipIdx_iff_getElem?.mp inside).symm.trans entry)
    exact enabled
  · intro enabled
    exact ⟨(e, place), List.mem_filter.mpr ⟨List.mem_zipIdx_iff_getElem?.mpr entry, enabled⟩, rfl⟩

theorem dispatch_invariant (r : Roster) (input : Input) : Invariant r input (dispatch r) := by
  refine ⟨List.length_map _, places_nodup r, ⟨[], _, rfl, places_of_enabled r, rfl⟩, ?_⟩
  intro place e entry
  refine ⟨spawn e, ?_, ?_⟩
  · rw [dispatch, List.getElem?_map, entry]
    rfl
  · have working (waits : place ∈ places r) : Working input e (spawn e) := by
      rw [spawn, if_pos ((mem_places entry).mp waits)]
      exact .spawned
    refine ⟨?_, ?_, ?_⟩
    · intro rest shape
      have shape : places r = place :: rest := shape
      exact .awaiting (working (by rw [shape]; exact List.mem_cons_self))
    · intro other rest shape member
      have shape : places r = other :: rest := shape
      exact working (by rw [shape]; exact List.mem_cons_of_mem other member)
    · intro missing
      have disabled : e.enabled = false := Bool.eq_false_iff.mpr fun enabled =>
        missing ((mem_places entry).mpr enabled)
      rw [spawn, disabled]
      exact .idle disabled

theorem reached_invariant (clean : r.IsClean) (reached : Reaches input (dispatch r) s) :
    Invariant r input s := by
  induction reached with
  | refl => exact dispatch_invariant r input
  | step _ last ih => exact step_invariant clean ih last

theorem complete_report (clean : r.IsClean) (invariant : Invariant r input s)
    (complete : s.IsComplete) : s.report = r.report input := by
  obtain ⟨before, after, split, places, reported⟩ := invariant.reported
  rw [complete] at places
  cases places
  rw [List.append_nil] at split
  rw [reported, ← split, Roster.clean_report r input clean, Roster.accounts]

theorem complete_roster (invariant : Invariant r input s) (complete : s.IsComplete) :
    s.roster = r := by
  have entries : s.lanes.map Lane.entry = r.entries := by
    apply List.ext_getElem?
    intro place
    rw [List.getElem?_map]
    cases entry : r.entries[place]? with
    | none =>
        have beyond : s.lanes[place]? = none := by
          rw [List.getElem?_eq_none_iff, invariant.size]
          exact List.getElem?_eq_none_iff.mp entry
        rw [beyond]
        rfl
    | some e =>
        obtain ⟨lane, found, holds⟩ := invariant.lanes place e entry
        have missing : place ∉ s.waiting := by
          rw [complete]
          exact List.not_mem_nil
        rw [found]
        cases holds.absent missing with
        | idle _ => rfl
        | collected => rfl
  rw [State.roster, entries]

/-- How many steps a task has still to make. -/
def Lane.work (input : Input) (lane : Lane) : Nat :=
  match lane.task with
  | some .spawned =>
      (lane.entry.member.technique.evaluate lane.entry.member.ledger input).findings.length + 2
  | some (.running todo _) => todo.length + 1
  | some (.ended _) => 0
  | none => 0

def Phase.progress : Phase → Nat
  | .awaiting => 0
  | .entered => 1
  | .concluded _ => 2
  | .emptied _ => 3

def State.work (input : Input) (s : State) : Nat :=
  (s.lanes.map (Lane.work input)).sum + (4 * s.waiting.length - s.phase.progress)

private theorem sum_work_set (input : Input) {lanes : List Lane} {place : Nat} {lane : Lane}
    (next : Lane)
    (found : lanes[place]? = some lane) :
    ((lanes.set place next).map (Lane.work input)).sum + lane.work input =
      (lanes.map (Lane.work input)).sum + next.work input := by
  induction lanes generalizing place with
  | nil => simp at found
  | cons first rest ih =>
      cases place with
      | zero =>
          obtain rfl : first = lane := by simpa using found
          simp only [List.set_cons_zero, List.map_cons, List.sum_cons]
          omega
      | succ place =>
          have later := ih (by simpa using found)
          simp only [List.set_cons_succ, List.map_cons, List.sum_cons]
          omega

theorem advance_work {lane next : Lane} (moved : lane.advance? input = some next) :
    next.work input < lane.work input := by
  rcases Lane.advance_cases moved with
    ⟨e, rfl, rfl⟩ | ⟨finding, todo, ending, task, rfl⟩ | ⟨ending, task, rfl⟩
  · simp [Lane.work]
  · simp [Lane.work, task]
  · simp [Lane.work, task]

private theorem ended_work {lane : Lane} {ending : Ending}
    (ended : lane.task = some (.ended ending)) :
    lane.work input = 0 := by
  rw [Lane.work, ended]

private theorem busy_lane_ended {e : Entry} {phase : Phase} {lane : Lane} (busy : phase ≠ .awaiting)
    (collecting : Collecting input e phase lane) :
    lane.task = some (.ended (e.evaluation input).ending) := by
  cases collecting with
  | awaiting _ => exact absurd rfl busy
  | entered => rfl
  | concluded _ shape => rw [shape]; rfl
  | emptied => rfl

/-- The collector touches only lanes whose task has no step left, and leaves them so. -/
theorem collect_work {place : Nat} {rest : List Nat} {lane : Lane} {e : Entry}
    (waiting : s.waiting = place :: rest) (found : s.lanes[place]? = some lane)
    (collecting : Collecting input e s.phase lane)
    (moved : s.collectFrom? place rest lane = some t) : t.work input < s.work input := by
  have length : s.waiting.length = rest.length + 1 := by rw [waiting, List.length_cons]
  have same (next : Lane) (kept : next.work input = lane.work input) :
      ((s.lanes.set place next).map (Lane.work input)).sum =
        (s.lanes.map (Lane.work input)).sum := by
    have sum := sum_work_set input next found
    omega
  have idle (busy : s.phase ≠ .awaiting) (next : Lane) (task : next.task = lane.task) :
      next.work input = lane.work input := by
    have ended := busy_lane_ended busy collecting
    rw [ended_work ended, ended_work (task.trans ended)]
  rw [State.collectFrom?] at moved
  cases phase : s.phase with
  | awaiting =>
      rw [phase] at moved
      obtain ⟨entered, taken, rfl⟩ := Option.map_eq_some_iff.mp moved
      have kept : entered.work input = lane.work input := by
        obtain ⟨entry, task, locked⟩ := lane
        rcases task with _ | _ | _ | ending <;> simp [Lane.enter?] at taken
        rw [← taken.2]
        rfl
      simp only [State.work, State.setLane, phase, Phase.progress, same entered kept]
      omega
  | entered =>
      rw [phase] at moved
      obtain rfl := Option.some.inj moved
      have kept := same lane.conclude (idle (by simp [phase]) lane.conclude rfl)
      simp only [State.work, State.setLane, phase, Phase.progress, kept]
      omega
  | concluded account =>
      rw [phase] at moved
      obtain rfl := Option.some.inj moved
      have kept := same lane.reset (idle (by simp [phase]) lane.reset rfl)
      simp only [State.work, State.setLane, phase, Phase.progress, kept]
      omega
  | emptied account =>
      rw [phase] at moved
      obtain rfl := Option.some.inj moved
      have kept := same lane.release (idle (by simp [phase]) lane.release rfl)
      simp only [State.work, State.setLane, phase, Phase.progress, kept]
      omega

theorem step_work (invariant : Invariant r input s) (step : Step input s t) :
    t.work input < s.work input := by
  obtain ⟨actor, moved⟩ := step
  rcases State.advance_cases moved with
    ⟨place, lane, next, _, found, advanced, rfl⟩ | ⟨place, rest, lane, _, waiting, found, collected⟩
  · have less := advance_work advanced
    have sum := sum_work_set input next found
    simp only [State.work, State.setLane]
    omega
  · obtain ⟨e, entry⟩ : ∃ e, r.entries[place]? = some e := by
      have bound := (List.getElem?_eq_some_iff.mp found).1
      rw [invariant.size] at bound
      exact ⟨_, List.getElem?_eq_getElem bound⟩
    obtain ⟨lane', found', holds⟩ := invariant.lanes place e entry
    obtain rfl : lane' = lane := Option.some.inj (found'.symm.trans found)
    exact collect_work waiting found (holds.first rest waiting) collected

/-- As long as a technique waits, either its own task or the collector can move. -/
theorem incomplete_moves (invariant : Invariant r input s) (incomplete : ¬ s.IsComplete) :
    ∃ t, Step input s t := by
  obtain ⟨place, rest, waiting⟩ := List.exists_cons_of_ne_nil incomplete
  obtain ⟨before, after, split, places, reported⟩ := invariant.reported
  rw [waiting] at places
  cases places with
  | cons entry places =>
      obtain ⟨lane, found, holds⟩ := invariant.lanes place _ entry
      have collector (t : State) (moved : s.collectFrom? place rest lane = some t) :
          ∃ t, Step input s t := by
        refine ⟨t, .collector, ?_⟩
        simp only [State.advance?, waiting, found]
        exact moved
      have task (next : Lane) (moved : lane.advance? input = some next) : ∃ t, Step input s t := by
        refine ⟨s.setLane place next, .task place, ?_⟩
        simp only [State.advance?, found, Option.bind_some, moved, Option.map_some]
      have collecting := holds.first rest waiting
      cases phase : s.phase with
      | awaiting =>
          rw [phase] at collecting
          cases collecting with
          | awaiting working =>
              cases working with
              | spawned => exact task _ rfl
              | running done todo parts =>
                  cases todo with
                  | nil => exact task _ rfl
                  | cons finding todo => exact task _ rfl
              | ended =>
                  apply collector
                  rw [State.collectFrom?, phase]
                  rfl
      | entered => exact collector _ (by rw [State.collectFrom?, phase])
      | concluded account => exact collector _ (by rw [State.collectFrom?, phase])
      | emptied account => exact collector _ (by rw [State.collectFrom?, phase])

theorem reached_completes (clean : r.IsClean) (invariant : Invariant r input s) :
    ∃ t, Reaches input s t ∧ t.IsComplete := by
  induction work : s.work input using Nat.strongRecOn generalizing s with
  | _ work ih =>
      by_cases complete : s.IsComplete
      · exact ⟨s, .refl, complete⟩
      · obtain ⟨next, step⟩ := incomplete_moves invariant complete
        have less := step_work invariant step
        obtain ⟨last, onward, complete⟩ :=
          ih (next.work input) (by omega) (step_invariant clean invariant step) rfl
        exact ⟨last, (Reaches.refl.step step).trans onward, complete⟩

/-- Whatever the order in which tasks and collector move, a run can be brought to its end, and then
it has given the report of techniques that run one after another: each enabled technique is reported
with what it wrote down itself, is counted once, and all ledgers are clean again. -/
theorem every_schedule_gives_the_sequential_report (r : Roster) (input : Input)
    (distinct : (r.entries.map Entry.code).Nodup) (clean : r.IsClean) :
    (∀ s, Reaches input (dispatch r) s → ∃ t, Reaches input s t ∧ t.IsComplete) ∧
      ∀ s, Reaches input (dispatch r) s → s.IsComplete →
        s.report = r.report input ∧ r.Accounts input s.report ∧
          s.roster = r.afterRun input ∧ s.roster.IsClean ∧ s.roster.unclean = [] := by
  constructor
  · intro s reached
    exact reached_completes clean (reached_invariant clean reached)
  · intro s reached complete
    have invariant := reached_invariant clean reached
    have report := complete_report clean invariant complete
    have roster := complete_roster invariant complete
    refine ⟨report, ?_, ?_, ?_, ?_⟩
    · rw [report]
      exact r.clean_report_accounts input distinct clean
    · rw [roster, r.clean_after_run input clean]
    · rw [roster]
      exact clean
    · rw [roster]
      exact r.clean_unclean clean

/-- A technique that fails once and then ends in a given way. -/
def failing (code : String) (ending : Ending) : Technique :=
  .scripted ⟨code, code, code, "", ⟨"*", []⟩, [], [], none⟩
    [.bare .passed "before", .bare .failed "at the end"] ending

def endings : Roster :=
  .ofTechniques [failing "A" .completed, failing "B" (.fault "malformed input"),
    failing "C" .aborted]

theorem all_endings_are_reported :
    (endings.entries.map Entry.code).Nodup ∧ endings.IsClean ∧
      ∃ t, Reaches ⟨[], none⟩ (dispatch endings) t ∧ t.IsComplete ∧
        t.report = endings.report ⟨[], none⟩ ∧ t.report.tally = ⟨0, 0, 3, 0⟩ ∧
        t.report.assertions.keys = ["A", "B", "C"] := by
  have distinct : (endings.entries.map Entry.code).Nodup := by decide
  have clean : endings.IsClean := Roster.of_techniques_clean _
  have every := every_schedule_gives_the_sequential_report endings ⟨[], none⟩ distinct clean
  obtain ⟨t, reached, complete⟩ := every.1 _ .refl
  have same := (every.2 t reached complete).1
  refine ⟨distinct, clean, t, reached, complete, same, ?_, ?_⟩
  · rw [same]
    rfl
  · rw [same]
    rfl

end StyleAudit.Schedule
