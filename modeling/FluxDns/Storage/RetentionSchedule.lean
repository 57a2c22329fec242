import FluxDns.Storage.RetentionSafety

/-!
# Daily runs of the retention

The scheduler looks at the wall clock in short intervals and starts the run of a local day from
01:00 on, unless the database has recorded a run of that day or of a later one.
-/

namespace FluxDns.Storage.RetentionSchedule

open Execution Retention Option List

def scheduleLocalSecond : Nat := 60 * 60

/-- The part of `RetentionWallTime` that decides about a run. -/
structure WallTime where
  localDay : Int
  localSecond : Nat

/-- The day before the first one whose 01:00 is still to come. -/
def WallTime.baselineDay (wall : WallTime) : Int :=
  if wall.localSecond < scheduleLocalSecond then wall.localDay - 1 else wall.localDay

/-- The rows that the scheduler works on. -/
structure Schedule where
  lastSuccessLocalDay : Option Int
  consecutiveFailures : Nat
  /-- `retention_state` has its row. -/
  published : Bool

/-- How a call to the backend ends. -/
inductive CallOutcome where
  | done
  /-- The call fails without an effect. -/
  | failed
  /-- The call takes effect, but fails all the same. -/
  | lost
  deriving DecidableEq

/-- How `run_daily` ends. -/
inductive DailyOutcome where
  | ended (errorCode : Option String)
  /-- `begin_retention_run` fails, or the process ends. -/
  | interrupted

/-- A tick with the answers of the backend to its calls. -/
structure Tick where
  wall : WallTime
  retryAllowed : Bool
  initialization : CallOutcome
  /-- `retention_run_state` fails. -/
  unread : Bool
  daily : DailyOutcome
  /-- `retention_state` has its row after the run. -/
  published : Bool
  finishing : CallOutcome

/-- What became of the run of a tick. -/
inductive TickOutput where
  | idle
  | started
  /-- The run was recorded as successful. -/
  | recorded
  deriving DecidableEq

variable (calendar : Calendar) (schedule : Schedule)

def validRetentionDay (day : Int) : Bool := (formatShardFileName calendar day).isSome

/-- `initialize_retention_schedule` -/
def initializeRetentionSchedule (wall : WallTime) : Option Schedule :=
  if validRetentionDay calendar wall.localDay ∧ wall.localSecond < 24 * 60 * 60 ∧
      -i32Bound ≤ wall.baselineDay ∧ validRetentionDay calendar wall.baselineDay then
    some { schedule with
      lastSuccessLocalDay :=
        if schedule.lastSuccessLocalDay = none ∧ schedule.published = false then
          some wall.baselineDay
        else schedule.lastSuccessLocalDay }
  else none

def dailyRunIsDue (wall : WallTime) : Bool :=
  scheduleLocalSecond ≤ wall.localSecond ∧
    schedule.lastSuccessLocalDay.all fun last => last < wall.localDay

/-- `finish_retention_run` -/
def finishRetentionRun (localDay : Int) (errorCode : Option String) : Option Schedule :=
  if validRetentionDay calendar localDay ∧ errorCodeIsValid errorCode then
    match errorCode with
    | some _ =>
      if schedule.consecutiveFailures < u32Size - 1 then
        some { schedule with consecutiveFailures := schedule.consecutiveFailures + 1 }
      else none
    | none =>
      some { schedule with
        lastSuccessLocalDay :=
          if schedule.lastSuccessLocalDay.all fun last => last < localDay then some localDay
          else schedule.lastSuccessLocalDay
        consecutiveFailures := 0 }
  else none

/-- The rows that a call writes. -/
def CallOutcome.write (outcome : CallOutcome) (effect : Option Schedule) : Option Schedule :=
  if outcome = .failed then none else effect

def Tick.baseline (action : Tick) : Option Schedule :=
  action.initialization.write (initializeRetentionSchedule calendar schedule action.wall)

/-- `tick` up to the reclaim of retired days. -/
def tick (action : Tick) : Schedule × TickOutput :=
  let baseline := action.baseline calendar schedule
  let schedule := baseline.getD schedule
  if action.initialization = .done ∧ baseline.isSome ∧ action.unread = false ∧
      dailyRunIsDue schedule action.wall ∧ action.retryAllowed then
    let schedule := { schedule with published := action.published }
    match action.daily with
    | .interrupted => (schedule, .started)
    | .ended errorCode =>
      match action.finishing.write
          (finishRetentionRun calendar schedule action.wall.localDay errorCode) with
      | none => (schedule, .started)
      | some next => (next, if errorCode = none then .recorded else .started)
  else (schedule, .idle)

def step (action : Tick) : Option (Schedule × TickOutput) := some (tick calendar schedule action)

/-- What a tick does once its baseline is there. -/
structure Ticked (schedule next : Schedule) (action : Tick) (output : TickOutput) : Prop where
  kept : ∀ last ∈ schedule.lastSuccessLocalDay, ∃ later ∈ next.lastSuccessLocalDay, last ≤ later
  started : output ≠ .idle → scheduleLocalSecond ≤ action.wall.localSecond ∧
    ∀ last ∈ schedule.lastSuccessLocalDay, last < action.wall.localDay
  recorded : output = .recorded → next.lastSuccessLocalDay = some action.wall.localDay

variable {calendar schedule}

theorem all_lt_iff {last : Option Int} {day : Int} :
    last.all (fun last => decide (last < day)) = true ↔ ∀ earlier ∈ last, earlier < day := by
  cases last <;> simp

theorem finish_spec {outcome : CallOutcome} {localDay : Int} {errorCode : Option String}
    {next : Schedule}
    (written : outcome.write (finishRetentionRun calendar schedule localDay errorCode) = some next)
    (older : ∀ last ∈ schedule.lastSuccessLocalDay, last < localDay) :
    (∀ last ∈ schedule.lastSuccessLocalDay, ∃ later ∈ next.lastSuccessLocalDay, last ≤ later) ∧
      (errorCode = none → next.lastSuccessLocalDay = some localDay) := by
  unfold CallOutcome.write finishRetentionRun at written
  cases errorCode with
  | none =>
    simp only [all_lt_iff.mpr older, if_true] at written
    split_ifs at written
    cases written
    exact ⟨fun last found => ⟨localDay, rfl, le_of_lt (older last found)⟩, fun _ => rfl⟩
  | some code =>
    dsimp only at written
    split_ifs at written
    cases written
    exact ⟨fun last found => ⟨last, found, le_rfl⟩, nofun⟩

theorem ticked_baseline (calendar : Calendar) (schedule : Schedule) (action : Tick) :
    Ticked ((action.baseline calendar schedule).getD schedule) (tick calendar schedule action).1
      action (tick calendar schedule action).2 := by
  unfold tick
  dsimp only
  split
  · next ready =>
    have due := ready.2.2.2.1
    rw [dailyRunIsDue, decide_eq_true_iff, all_lt_iff] at due
    split
    · exact ⟨fun last found => ⟨last, found, le_rfl⟩, fun _ => due, nofun⟩
    · split
      · exact ⟨fun last found => ⟨last, found, le_rfl⟩, fun _ => due, nofun⟩
      · next written =>
        obtain ⟨kept, recorded⟩ := finish_spec written due.2
        exact ⟨kept, fun _ => due, fun success => recorded (by_contra fun failed => by
          simp [failed] at success)⟩
  · exact ⟨fun last found => ⟨last, found, le_rfl⟩, fun idle => absurd rfl idle, nofun⟩

/-- A recorded day is no baseline and is not replaced by one. -/
theorem ticked (calendar : Calendar) (schedule : Schedule) (action : Tick) :
    Ticked schedule (tick calendar schedule action).1 action (tick calendar schedule action).2 := by
  have found {last : Int} (recorded : schedule.lastSuccessLocalDay = some last) :
      ((action.baseline calendar schedule).getD schedule).lastSuccessLocalDay = some last := by
    unfold Tick.baseline CallOutcome.write initializeRetentionSchedule
    simp only [recorded, reduceCtorEq, false_and, if_false]
    split_ifs <;> first | rfl | exact recorded
  have spec := ticked_baseline calendar schedule action
  exact ⟨fun last recorded => spec.kept last (found recorded), fun started =>
    ⟨(spec.started started).1, fun last recorded => (spec.started started).2 last (found recorded)⟩,
    spec.recorded⟩

/-- The runs after a recorded day are for later days. -/
theorem lt_of_started {last : Int} (found : schedule.lastSuccessLocalDay = some last)
    (ticks : List Tick) : ∀ move ∈ transitions (step calendar) schedule ticks,
      move.output ≠ .idle → last < move.action.wall.localDay := by
  induction ticks generalizing schedule last with
  | nil => simp [transitions]
  | cons action ticks induction =>
    simp only [transitions, step, forall_mem_cons]
    have spec := ticked calendar schedule action
    refine ⟨fun started => (spec.started started).2 last found, fun move later started => ?_⟩
    obtain ⟨next, next_found, le⟩ := spec.kept last found
    exact lt_of_le_of_lt le (induction next_found move later started)

theorem pairwise_recorded (ticks : List Tick) :
    (transitions (step calendar) schedule ticks).Pairwise fun earlier later =>
      earlier.output = .recorded → later.output = .recorded →
        earlier.action.wall.localDay < later.action.wall.localDay := by
  induction ticks generalizing schedule with
  | nil => exact .nil
  | cons action ticks induction =>
    refine .cons (fun move later first second => ?_) induction
    have recorded := (ticked calendar schedule action).recorded first
    exact lt_of_started recorded ticks move later (by simp [second])

/-- In an empty database the first baseline that is written delays the first run. -/
theorem started_of_empty (empty : schedule.lastSuccessLocalDay = none ∧ schedule.published = false)
    (ticks : List Tick) : ∀ move ∈ transitions (step calendar) schedule ticks,
      move.output ≠ .idle →
        ∃ first ∈ ticks.find? fun action => (action.baseline calendar schedule).isSome,
          first.wall.baselineDay < move.action.wall.localDay := by
  induction ticks with
  | nil => simp [transitions]
  | cons action ticks induction =>
    simp only [transitions, step, forall_mem_cons]
    have spec := ticked_baseline calendar schedule action
    cases written : action.baseline calendar schedule with
    | none =>
      have unchanged : tick calendar schedule action = (schedule, .idle) := by
        simp [tick, written]
      simp only [unchanged, find?_cons, written, isSome_none]
      exact ⟨fun started => absurd rfl started, induction⟩
    | some initial =>
      have initial_eq : initial.lastSuccessLocalDay = some action.wall.baselineDay := by
        unfold Tick.baseline CallOutcome.write initializeRetentionSchedule at written
        split_ifs at written
        cases written
        rfl
      rw [written, getD_some] at spec
      simp only [find?_cons, written, isSome_some, mem_def, some.injEq,
        exists_eq_left']
      refine ⟨fun started => (spec.started started).2 _ initial_eq, fun move later started => ?_⟩
      obtain ⟨next, next_found, le⟩ := spec.kept _ initial_eq
      exact lt_of_le_of_lt le (lt_of_started next_found ticks move later started)

/-- Whatever the wall clock shows and whichever calls fail: the recorded days increase and are never
taken back, a run is only started from 01:00 on and for a day after the recorded one, and in an
empty database not before the first 01:00 after the first tick that wrote its baseline. -/
theorem daily_runs_scheduled (calendar : Calendar) (schedule : Schedule) (ticks : List Tick) :
    ((transitions (step calendar) schedule ticks).Pairwise fun earlier later =>
      earlier.output = .recorded → later.output = .recorded →
        earlier.action.wall.localDay < later.action.wall.localDay) ∧
    (∀ move ∈ transitions (step calendar) schedule ticks,
      (∀ last ∈ move.before.lastSuccessLocalDay,
        ∃ later ∈ move.after.lastSuccessLocalDay, last ≤ later) ∧
      (move.output ≠ .idle → scheduleLocalSecond ≤ move.action.wall.localSecond ∧
        ∀ last ∈ move.before.lastSuccessLocalDay, last < move.action.wall.localDay)) ∧
    (schedule.lastSuccessLocalDay = none ∧ schedule.published = false →
      ∀ move ∈ transitions (step calendar) schedule ticks, move.output ≠ .idle →
        ∃ first ∈ ticks.find? fun action => (action.baseline calendar schedule).isSome,
          first.wall.baselineDay < move.action.wall.localDay) := by
  refine ⟨pairwise_recorded ticks, fun move mem => ?_, fun empty => started_of_empty empty ticks⟩
  obtain ⟨-, taken⟩ := forall_before_of_guarded (fun _ => True) (fun _ => True)
    (fun _ _ _ _ => trivial) trivial (fun _ _ => trivial) move mem
  have spec := ticked calendar move.before move.action
  rw [some.inj taken] at spec
  exact ⟨spec.kept, spec.started⟩

/-- A tick whose run succeeds, if it has one. -/
def sampleTick (initialization : CallOutcome) (localDay : Int) (localSecond : Nat) : Tick :=
  ⟨⟨localDay, localSecond⟩, true, initialization, false, .ended none, true, .done⟩

/-- The first tick, at two o'clock, fails to write its baseline, and then the clock is set back by a
day: a run starts before the first 01:00 after the first tick, which is on the day after. -/
theorem run_before_first_night :
    (transitions (step sampleCalendar) ⟨none, 0, false⟩
      [sampleTick .failed 20704 7200, sampleTick .done 20703 7200,
        sampleTick .done 20704 10800]).map (·.output) = [.idle, .idle, .recorded] ∧
    (sampleTick .failed 20704 7200).wall.baselineDay = 20704 := by
  decide

end FluxDns.Storage.RetentionSchedule
