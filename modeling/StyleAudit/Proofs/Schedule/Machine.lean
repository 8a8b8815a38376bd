import StyleAudit.Run

/-!
# Runs step by step

`TechniqueRunner::execute` as it unfolds in time. Every enabled technique has a task of its own,
which takes the lock of its technique, writes down one finding after another and lets the lock go
when it ends, in whatever way. A collector waits for the tasks in the order of the roster; as soon
as the first of them has ended it takes the lock, sums up the ledger, makes it clean and adds the
account to the report. Any task that can move may move at any time, also while the collector is busy
with an earlier one, and nothing is said about who moves first.
-/

namespace StyleAudit.Schedule

set_option autoImplicit false

/-- How far a task has come, with the findings a running one has still to write down. -/
inductive Task where
  | spawned
  | running (todo : List Finding) (ending : Ending)
  | ended (ending : Ending)

/-- An entry, the task spawned for it, if any, and whether someone holds its lock. -/
structure Lane where
  entry : Entry
  task : Option Task
  locked : Bool

/-- What the collector has done so far for the first technique that waits for it. -/
inductive Phase where
  | awaiting
  | entered
  | concluded (account : Assertion)
  | emptied (account : Assertion)

/-- The places that wait for the collector are those of the enabled entries not yet reported. -/
structure State where
  lanes : List Lane
  waiting : List Nat
  phase : Phase
  report : Report

inductive Actor where
  | task (place : Nat)
  | collector

namespace Lane

def withLedger (lane : Lane) (ledger : Ledger) : Lane :=
  { lane with entry := { lane.entry with member := { lane.entry.member with ledger := ledger } } }

/-- One step of the task. What it will write down is settled by the ledger it finds. -/
def advance? (input : Input) (lane : Lane) : Option Lane :=
  let member := lane.entry.member
  match lane.task with
  | some .spawned =>
      if lane.locked then none
      else
        let evaluation := member.technique.evaluate member.ledger input
        some { lane with
          task := some (.running evaluation.findings evaluation.ending), locked := true }
  | some (.running (finding :: todo) ending) =>
      some { lane.withLedger (member.ledger.fill finding) with task := some (.running todo ending) }
  | some (.running [] ending) => some { lane with task := some (.ended ending), locked := false }
  | some (.ended _) => none
  | none => none

/-- The collector takes the lock of a technique whose task has ended. -/
def enter? (lane : Lane) : Option Lane :=
  match lane.task with
  | some (.ended _) => if lane.locked then none else some { lane with locked := true }
  | _ => none

def conclude (lane : Lane) : Lane :=
  { lane with entry := { lane.entry with member := lane.entry.member.conclude.1 } }

def reset (lane : Lane) : Lane :=
  { lane with entry := { lane.entry with member := lane.entry.member.reset } }

def release (lane : Lane) : Lane :=
  { lane with locked := false }

end Lane

namespace State

def setLane (s : State) (place : Nat) (lane : Lane) : State :=
  { s with lanes := s.lanes.set place lane }

/-- One step of the collector on the lane at the first place that waits for it. -/
def collectFrom? (s : State) (place : Nat) (rest : List Nat) (lane : Lane) : Option State :=
  match s.phase with
  | .awaiting => lane.enter?.map fun entered => { s.setLane place entered with phase := .entered }
  | .entered =>
      some { s.setLane place lane.conclude with
        phase := .concluded lane.entry.member.conclude.2 }
  | .concluded account => some { s.setLane place lane.reset with phase := .emptied account }
  | .emptied account =>
      some { s.setLane place lane.release with
        waiting := rest, phase := .awaiting, report := s.report.add account }

def advance? (input : Input) (s : State) : Actor → Option State
  | .task place =>
      s.lanes[place]?.bind fun lane => (lane.advance? input).map fun next => s.setLane place next
  | .collector =>
      match s.waiting with
      | [] => none
      | place :: rest => s.lanes[place]?.bind fun lane => s.collectFrom? place rest lane

def IsComplete (s : State) : Prop :=
  s.waiting = []

def roster (s : State) : Roster :=
  ⟨s.lanes.map Lane.entry⟩

end State

def places (r : Roster) : List Nat :=
  (r.entries.zipIdx.filter fun entry => entry.1.enabled).map Prod.snd

def spawn (e : Entry) : Lane :=
  ⟨e, if e.enabled then some .spawned else none, false⟩

/-- A run at the moment when all tasks are spawned. -/
def dispatch (r : Roster) : State where
  lanes := r.entries.map spawn
  waiting := places r
  phase := .awaiting
  report := .empty

def Step (input : Input) (s t : State) : Prop :=
  ∃ actor, s.advance? input actor = some t

/-- Any number of steps, by any actors in any order. -/
inductive Reaches (input : Input) (s : State) : State → Prop where
  | refl : Reaches input s s
  | step {t u : State} : Reaches input s t → Step input t u → Reaches input s u

theorem Reaches.trans {input : Input} {s t u : State} (first : Reaches input s t)
    (second : Reaches input t u) : Reaches input s u := by
  induction second with
  | refl => exact first
  | step _ last ih => exact ih.step last

theorem Lane.advance_cases {input : Input} {lane next : Lane}
    (moved : lane.advance? input = some next) :
    (∃ e, lane = ⟨e, some .spawned, false⟩ ∧
      next = ⟨e, some (.running (e.member.technique.evaluate e.member.ledger input).findings
        (e.member.technique.evaluate e.member.ledger input).ending), true⟩) ∨
    (∃ finding todo ending, lane.task = some (.running (finding :: todo) ending) ∧
      next = { lane.withLedger (lane.entry.member.ledger.fill finding) with
        task := some (.running todo ending) }) ∨
    (∃ ending, lane.task = some (.running [] ending) ∧
      next = { lane with task := some (.ended ending), locked := false }) := by
  obtain ⟨e, task, locked⟩ := lane
  cases task with
  | none => simp [Lane.advance?] at moved
  | some task =>
      cases task with
      | spawned =>
          cases locked with
          | true => simp [Lane.advance?] at moved
          | false => exact .inl ⟨e, rfl, (Option.some.inj moved).symm⟩
      | running todo ending =>
          cases todo with
          | nil => exact .inr (.inr ⟨ending, rfl, (Option.some.inj moved).symm⟩)
          | cons finding todo =>
              exact .inr (.inl ⟨finding, todo, ending, rfl, (Option.some.inj moved).symm⟩)
      | ended ending => simp [Lane.advance?] at moved

theorem State.advance_cases {input : Input} {s t : State} {actor : Actor}
    (moved : s.advance? input actor = some t) :
    (∃ place lane next, actor = .task place ∧ s.lanes[place]? = some lane ∧
      lane.advance? input = some next ∧ t = s.setLane place next) ∨
    (∃ place rest lane, actor = .collector ∧ s.waiting = place :: rest ∧
      s.lanes[place]? = some lane ∧ s.collectFrom? place rest lane = some t) := by
  cases actor with
  | task place =>
      obtain ⟨lane, found, moved⟩ := Option.bind_eq_some_iff.mp moved
      obtain ⟨next, advanced, rfl⟩ := Option.map_eq_some_iff.mp moved
      exact .inl ⟨place, lane, next, rfl, found, advanced, rfl⟩
  | collector =>
      rw [State.advance?] at moved
      cases waiting : s.waiting with
      | nil => simp [waiting] at moved
      | cons place rest =>
          rw [waiting] at moved
          obtain ⟨lane, found, moved⟩ := Option.bind_eq_some_iff.mp moved
          exact .inr ⟨place, rest, lane, rfl, rfl, found, moved⟩

end StyleAudit.Schedule
