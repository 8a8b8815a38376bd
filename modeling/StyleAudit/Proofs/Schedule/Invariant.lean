import Mathlib.Data.List.Forall2
import StyleAudit.Proofs.Roster
import StyleAudit.Proofs.Schedule.Machine

/-!
# What every moment of a run keeps

The invariant ties each lane to the entry it started from. A lane still to be collected has written
down a beginning of its technique's findings, the lane the collector is busy with has written down
all of them, and every other lane is as it was at the start. The report holds the accounts of the
enabled entries up to the first one that waits.
-/

namespace StyleAudit

set_option autoImplicit false

/-- An entry that has written some findings down in its clean ledger. -/
def Entry.filled (e : Entry) (findings : List Finding) : Entry :=
  { e with member := { e.member with ledger := (Ledger.start e.descriptor).fillAll findings } }

theorem Entry.filled_nil (e : Entry) (clean : e.IsClean) : e.filled [] = e := by
  obtain ⟨⟨technique, ledger⟩, enabled⟩ := e
  have start : ledger = .start technique.descriptor := clean
  subst start
  rfl

namespace Schedule

/-- A lane whose task the collector has not met yet. -/
inductive Working (input : Input) (e : Entry) : Lane → Prop where
  | spawned : Working input e ⟨e, some .spawned, false⟩
  | running (done todo : List Finding) (parts : (e.evaluation input).findings = done ++ todo) :
      Working input e ⟨e.filled done, some (.running todo (e.evaluation input).ending), true⟩
  | ended : Working input e ⟨e.filled (e.evaluation input).findings,
      some (.ended (e.evaluation input).ending), false⟩

/-- The lane that the collector is busy with, phase by phase. -/
inductive Collecting (input : Input) (e : Entry) : Phase → Lane → Prop where
  | awaiting {lane : Lane} (working : Working input e lane) : Collecting input e .awaiting lane
  | entered : Collecting input e .entered ⟨e.filled (e.evaluation input).findings,
      some (.ended (e.evaluation input).ending), true⟩
  | concluded {lane : Lane} {ledger : Ledger} (own : ledger.descriptor = e.descriptor)
      (shape : lane =
        (Lane.mk e (some (.ended (e.evaluation input).ending)) true).withLedger ledger) :
      Collecting input e (.concluded (e.account input)) lane
  | emptied : Collecting input e (.emptied (e.account input))
      ⟨e, some (.ended (e.evaluation input).ending), true⟩

/-- A lane that no one touches any more, collected or without a task. -/
inductive Settled (input : Input) (e : Entry) : Lane → Prop where
  | idle (disabled : e.enabled = false) : Settled input e ⟨e, none, false⟩
  | collected : Settled input e ⟨e, some (.ended (e.evaluation input).ending), false⟩

/-- What holds of the lane at a place, by where the place stands among those that wait. -/
structure LaneHolds (input : Input) (e : Entry) (waiting : List Nat) (phase : Phase)
    (place : Nat) (lane : Lane) : Prop where
  first : ∀ rest, waiting = place :: rest → Collecting input e phase lane
  later : ∀ other rest, waiting = other :: rest → place ∈ rest → Working input e lane
  absent : place ∉ waiting → Settled input e lane

/-- The report holds the accounts of the enabled entries before the first that waits. -/
def Reported (r : Roster) (input : Input) (waiting : List Nat) (report : Report) : Prop :=
  ∃ before after, r.entries.filter Entry.enabled = before ++ after ∧
    List.Forall₂ (fun e place => r.entries[place]? = some e) after waiting ∧
    report = Report.empty.addAll (before.map (Entry.account input))

structure Invariant (r : Roster) (input : Input) (s : State) : Prop where
  size : s.lanes.length = r.entries.length
  nodup : s.waiting.Nodup
  reported : Reported r input s.waiting s.report
  lanes : ∀ place e, r.entries[place]? = some e → ∃ lane, s.lanes[place]? = some lane ∧
    LaneHolds input e s.waiting s.phase place lane

theorem working_advance {input : Input} {e : Entry} {lane next : Lane} (clean : e.IsClean)
    (working : Working input e lane) (moved : lane.advance? input = some next) :
    Working input e next := by
  cases working with
  | spawned =>
      have taken : next = ⟨e, some (.running (e.evaluation input).findings
          (e.evaluation input).ending), true⟩ := by
        rw [Entry.evaluation, ← clean]
        exact (Option.some.inj moved).symm
      rw [taken]
      have running : Working input e ⟨e.filled [], _, true⟩ := .running [] _ rfl
      rw [e.filled_nil clean] at running
      exact running
  | running done todo parts =>
      cases todo with
      | nil =>
          rw [List.append_nil] at parts
          obtain rfl := Option.some.inj moved
          rw [← parts]
          exact .ended
      | cons finding todo =>
          obtain rfl := Option.some.inj moved
          have more : (e.evaluation input).findings = (done ++ [finding]) ++ todo := by
            rw [parts, List.append_assoc, List.singleton_append]
          have filled : ((Ledger.start e.descriptor).fillAll done).fill finding =
              (Ledger.start e.descriptor).fillAll (done ++ [finding]) := by
            rw [Ledger.fill_all_append]
            rfl
          have running : Working input e _ := .running _ _ more
          rw [Entry.filled, ← filled] at running
          exact running
  | ended => simp [Lane.advance?] at moved

/-- A lane that can move is one whose task the collector has not met, and it may move within
whatever holds of its place. -/
theorem movable_lane {input : Input} {e : Entry} {waiting : List Nat} {phase : Phase} {place : Nat}
    {lane next : Lane} (holds : LaneHolds input e waiting phase place lane)
    (moved : lane.advance? input = some next) :
    Working input e lane ∧
      (Working input e next → LaneHolds input e waiting phase place next) := by
  by_cases member : place ∈ waiting
  · cases waiting with
    | nil => simp at member
    | cons first rest =>
        by_cases same : place = first
        · subst same
          cases holds.first rest rfl with
          | awaiting working =>
              refine ⟨working, fun working' => ⟨fun _ _ => .awaiting working', ?_, ?_⟩⟩
              · intro other rest' _ _
                exact working'
              · intro missing
                exact absurd member missing
          | entered => simp [Lane.advance?] at moved
          | concluded own shape => simp [shape, Lane.withLedger, Lane.advance?] at moved
          | emptied => simp [Lane.advance?] at moved
        · have inRest : place ∈ rest := (List.mem_cons.mp member).resolve_left same
          refine ⟨holds.later first rest rfl inRest, fun working' => ⟨?_, ?_, ?_⟩⟩
          · intro rest' shape
            exact absurd (List.cons.inj shape).1.symm same
          · intro other rest' _ _
            exact working'
          · intro missing
            exact absurd member missing
  · cases holds.absent member with
    | idle disabled => simp [Lane.advance?] at moved
    | collected => simp [Lane.advance?] at moved

variable {r : Roster} {input : Input} {s t : State}

/-- A change of one lane keeps the invariant if what it says of that lane holds and what it says of
the other places does not change. -/
private theorem set_lane_holds {place : Nat} {lane next : Lane} {waiting : List Nat} {phase : Phase}
    (invariant : Invariant r input s) (found : s.lanes[place]? = some lane)
    (own : ∀ e, r.entries[place]? = some e → LaneHolds input e waiting phase place next)
    (others : ∀ other e lane, other ≠ place → LaneHolds input e s.waiting s.phase other lane →
      LaneHolds input e waiting phase other lane) :
    ∀ other e, r.entries[other]? = some e → ∃ lane, (s.lanes.set place next)[other]? = some lane ∧
      LaneHolds input e waiting phase other lane := by
  intro other e entry
  by_cases same : other = place
  · subst same
    have bound : other < s.lanes.length := (List.getElem?_eq_some_iff.mp found).1
    exact ⟨next, List.getElem?_set_self bound, own e entry⟩
  · obtain ⟨lane', found', holds⟩ := invariant.lanes other e entry
    refine ⟨lane', ?_, others other e lane' same holds⟩
    rw [List.getElem?_set_ne (Ne.symm same)]
    exact found'

theorem task_step_invariant {place : Nat} {lane next : Lane} (clean : r.IsClean)
    (invariant : Invariant r input s) (found : s.lanes[place]? = some lane)
    (moved : lane.advance? input = some next) : Invariant r input (s.setLane place next) := by
  refine ⟨?_, invariant.nodup, invariant.reported, ?_⟩
  · rw [State.setLane, List.length_set]
    exact invariant.size
  · refine set_lane_holds invariant found ?_ fun _ _ _ _ holds => holds
    intro e entry
    obtain ⟨lane', found', holds⟩ := invariant.lanes place e entry
    obtain rfl : lane' = lane := Option.some.inj (found'.symm.trans found)
    obtain ⟨working, keep⟩ := movable_lane holds moved
    exact keep (working_advance (clean e (List.mem_of_getElem? entry)) working moved)

/-- As long as the collector is busy with one place, a change of its phase concerns only that
place. -/
private theorem phase_holds_elsewhere {e : Entry} {place other : Nat} {rest : List Nat}
    {lane : Lane}
    {before after : Phase} (different : other ≠ place)
    (holds : LaneHolds input e (place :: rest) before other lane) :
    LaneHolds input e (place :: rest) after other lane := by
  refine ⟨?_, holds.later, holds.absent⟩
  intro rest' shape
  exact absurd (List.cons.inj shape).1.symm different

private theorem collecting_holds {e : Entry} {place : Nat} {rest : List Nat} {lane : Lane}
    {phase : Phase} (nodup : (place :: rest).Nodup) (collecting : Collecting input e phase lane) :
    LaneHolds input e (place :: rest) phase place lane := by
  refine ⟨fun _ _ => collecting, ?_, ?_⟩
  · intro other rest' shape member
    obtain ⟨rfl, rfl⟩ := List.cons.inj shape
    exact absurd member (List.nodup_cons.mp nodup).1
  · intro missing
    exact absurd List.mem_cons_self missing

private theorem settled_holds {e : Entry} {place : Nat} {waiting : List Nat} {lane : Lane}
    {phase : Phase} (missing : place ∉ waiting) (settled : Settled input e lane) :
    LaneHolds input e waiting phase place lane := by
  refine ⟨?_, ?_, fun _ => settled⟩
  · intro rest shape
    exact absurd (by rw [shape]; exact List.mem_cons_self) missing
  · intro other rest shape member
    exact absurd (by rw [shape]; exact List.mem_cons_of_mem other member) missing

/-- When the collector turns to the next place, that lane is one whose task it has not met. -/
private theorem next_holds_elsewhere {e : Entry} {place other : Nat} {rest : List Nat} {lane : Lane}
    {phase : Phase} (different : other ≠ place)
    (holds : LaneHolds input e (place :: rest) phase other lane) :
    LaneHolds input e rest .awaiting other lane := by
  refine ⟨?_, ?_, ?_⟩
  · intro rest' shape
    have member : other ∈ rest := by rw [shape]; exact List.mem_cons_self
    exact .awaiting (holds.later place rest rfl member)
  · intro first rest' shape member
    have inRest : other ∈ rest := by rw [shape]; exact List.mem_cons_of_mem first member
    exact holds.later place rest rfl inRest
  · intro missing
    exact holds.absent (by simp [different, missing])

private theorem stay_invariant {place : Nat} {rest : List Nat} {lane next : Lane} {phase : Phase}
    (invariant : Invariant r input s) (waiting : s.waiting = place :: rest)
    (found : s.lanes[place]? = some lane)
    (own : ∀ e, r.entries[place]? = some e → Collecting input e phase next) :
    Invariant r input { s.setLane place next with phase := phase } := by
  refine ⟨?_, invariant.nodup, invariant.reported, ?_⟩
  · rw [← invariant.size]
    exact List.length_set
  · have nodup := invariant.nodup
    rw [waiting] at nodup
    refine set_lane_holds invariant found ?_ ?_
    · intro e entry
      change LaneHolds input e s.waiting phase place next
      rw [waiting]
      exact collecting_holds nodup (own e entry)
    · intro other e lane' different holds
      change LaneHolds input e s.waiting phase other lane'
      rw [waiting] at holds ⊢
      exact phase_holds_elsewhere different holds

private theorem report_invariant {place : Nat} {rest : List Nat} {lane : Lane} {account : Assertion}
    (invariant : Invariant r input s) (waiting : s.waiting = place :: rest)
    (found : s.lanes[place]? = some lane)
    (own : ∀ e, r.entries[place]? = some e →
      Collecting input e (.emptied account) lane) :
    Invariant r input { s.setLane place lane.release with
      waiting := rest, phase := .awaiting, report := s.report.add account } := by
  have nodup := invariant.nodup
  rw [waiting, List.nodup_cons] at nodup
  refine ⟨?_, nodup.2, ?_, ?_⟩
  · rw [← invariant.size]
    exact List.length_set
  · obtain ⟨before, after, split, places, reported⟩ := invariant.reported
    rw [waiting] at places
    cases places with
    | cons entry places =>
        rename_i e after
        refine ⟨before ++ [e], after, ?_, places, ?_⟩
        · rw [split, List.append_assoc, List.singleton_append]
        · cases own e entry with
          | emptied => rw [reported, List.map_append, List.map_singleton, Report.add_all_concat]
  · refine set_lane_holds invariant found ?_ ?_
    · intro e entry
      cases own e entry with
      | emptied => exact settled_holds nodup.1 .collected
    · intro other e lane' different holds
      rw [waiting] at holds
      exact next_holds_elsewhere different holds

theorem collector_step_invariant {place : Nat} {rest : List Nat} {lane : Lane} (clean : r.IsClean)
    (invariant : Invariant r input s) (waiting : s.waiting = place :: rest)
    (found : s.lanes[place]? = some lane)
    (moved : s.collectFrom? place rest lane = some t) : Invariant r input t := by
  have current : ∀ e, r.entries[place]? = some e → Collecting input e s.phase lane := by
    intro e entry
    obtain ⟨lane', found', holds⟩ := invariant.lanes place e entry
    obtain rfl : lane' = lane := Option.some.inj (found'.symm.trans found)
    exact holds.first rest waiting
  rw [State.collectFrom?] at moved
  cases phase : s.phase with
  | awaiting =>
      rw [phase] at moved current
      obtain ⟨entered, taken, rfl⟩ := Option.map_eq_some_iff.mp moved
      refine stay_invariant invariant waiting found ?_
      intro e entry
      cases current e entry with
      | awaiting working =>
          cases working with
          | spawned => simp [Lane.enter?] at taken
          | running done todo parts => simp [Lane.enter?] at taken
          | ended =>
              obtain rfl := Option.some.inj taken
              exact .entered
  | entered =>
      rw [phase] at moved current
      obtain rfl := Option.some.inj moved
      refine stay_invariant invariant waiting found ?_
      intro e entry
      cases current e entry with
      | entered =>
          have own : (e.filled (e.evaluation input).findings).member.ledger.conclude.descriptor =
              e.descriptor := Ledger.fill_all_descriptor _ _
          exact .concluded own rfl
  | concluded account =>
      rw [phase] at moved current
      obtain rfl := Option.some.inj moved
      refine stay_invariant invariant waiting found ?_
      intro e entry
      cases current e entry with
      | concluded own shape =>
          have restored : lane.reset = ⟨e, some (.ended (e.evaluation input).ending), true⟩ := by
            have start := clean e (List.mem_of_getElem? entry)
            obtain ⟨⟨technique, ledger⟩, enabled⟩ := e
            rw [shape, Lane.withLedger, Lane.reset, Instance.reset, Ledger.reset, own, ← start]
          rw [restored]
          exact .emptied
  | emptied account =>
      rw [phase] at moved current
      obtain rfl := Option.some.inj moved
      exact report_invariant invariant waiting found current

theorem step_invariant (clean : r.IsClean) (invariant : Invariant r input s)
    (step : Step input s t) : Invariant r input t := by
  obtain ⟨actor, moved⟩ := step
  rcases State.advance_cases moved with
    ⟨place, lane, next, _, found, advanced, rfl⟩ | ⟨place, rest, lane, _, waiting, found, collected⟩
  · exact task_step_invariant clean invariant found advanced
  · exact collector_step_invariant clean invariant waiting found collected

end Schedule

end StyleAudit
