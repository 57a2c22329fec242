import Mathlib.Algebra.Order.Group.Multiset
import Mathlib.Tactic.Abel
import FluxDns.Storage.StatsInvariant

/-!
# Statistics are counted exactly once

The steps keep the invariant.  In every reachable state the accepted events are divided between
the ended processes, the memory of the running one and the committed batches, and the tables count
each committed event of a kept day once.
-/

namespace FluxDns.Storage.Stats

open Process Execution StatsAccumulator List History BatchLedger Phase

variable {hashing : StatsHashing} {world next : World} {process : Process}

variable {committed : List StatsBatch} {batch : StatsBatch} {output : Output} {action : Action}
  {snapshot : StatsSnapshot} {accumulator : StatsAccumulator} {pending : List StatsBatch}

theorem Process.held_eq (process : Process) (committed : List StatsBatch) :
    process.held committed = ↑process.accumulator.events + process.phase.snapshotEvents +
      ((pendingBatches process.ledger).map (uncommitted committed)).sum := by
  rw [held, pendingBatches, map_map]
  rfl

theorem uncommitted_of_mem (mem : batch ∈ committed) : uncommitted committed batch = 0 :=
  if_pos (mem_map_of_mem mem)

theorem map_uncommitted_append (absent : batch.batchId ∉ batchIds pending) :
    pending.map (uncommitted (committed ++ [batch])) = pending.map (uncommitted committed) := by
  refine map_congr_left fun other mem => ?_
  have different : other.batchId ≠ batch.batchId := fun same =>
    absent (mem_map.mpr ⟨other, mem, same⟩)
  simp [uncommitted, different]

theorem sum_uncommitted_append (nodup : (batchIds pending).Nodup)
    (waiting : batch ∈ pending) (fresh : batch.batchId ∉ batchIds committed) :
    (pending.map (uncommitted committed)).sum =
      (pending.map (uncommitted (committed ++ [batch]))).sum + ↑batch.events := by
  induction pending with
  | nil => cases waiting
  | cons head tail induction =>
    rw [batchIds, map_cons, nodup_cons] at nodup
    simp only [map_cons, sum_cons]
    rcases mem_cons.mp waiting with rfl | later
    · have own : uncommitted committed batch = ↑batch.events := if_neg fresh
      have moved : uncommitted (committed ++ [batch]) batch = 0 :=
        uncommitted_of_mem (mem_append_right _ mem_cons_self)
      rw [map_uncommitted_append nodup.1, own, moved, zero_add, add_comm]
    · have different : head.batchId ≠ batch.batchId := fun same =>
        nodup.1 (mem_map.mpr ⟨batch, later, same.symm⟩)
      rw [induction nodup.2 later, ← add_assoc]
      simp [uncommitted, different]

theorem World.held_some (running : world.process = some process) :
    world.held = process.held world.history.committed := by
  rw [World.held, running]

/-- A step accepts one event, ends the process with the events only it holds, commits the first
pending batch under a number no committed batch has, or leaves the history as it is. -/
inductive HistoryStep (world : World) : Action → Output → History → Prop where
  | same (action : Action) (output : Output) : HistoryStep world action output world.history
  | accept (action : Action) (event : StatsEvent) : HistoryStep world action (.recorded (.ok event))
        { world.history with accepted := event ::ₘ world.history.accepted }
  | crash : HistoryStep world .crash .done
      { world.history with lost := world.history.lost + world.held }
  | commit {process : Process} {batch : StatsBatch} {outcome : Outcome} (output : Output)
      (running : world.process = some process)
      (first : process.ledger.nextPendingBatch = some batch) (commits : outcome.commits = true)
      (fresh : batch.batchId ∉ batchIds world.history.committed) :
      HistoryStep world (.execute outcome) output
        { world.history with committed := world.history.committed ++ [batch] }

/-- What a step keeps, and what it does to the history. -/
structure Advances (hashing : StatsHashing) (world : World) (action : Action) (output : Output)
    (next : World) : Prop where
  invariant : Invariant hashing next
  history : HistoryStep world action output next.history

theorem Advances.same (keeps : Invariant hashing next)
    (same : next.history = world.history := by rfl) : Advances hashing world action output next :=
  ⟨keeps, same ▸ .same _ _⟩

variable (inv : Invariant hashing world)

include inv

variable (running : world.process = some process)

include running

/-- A step of the process that moves its events within its memory. -/
theorem Invariant.of_process {changed : Process}
    (keeps : ProcessInvariant world.database world.history.committed changed)
    (same_held : changed.held world.history.committed = process.held world.history.committed) :
    Invariant hashing (world.setProcess changed) where
  database := inv.database
  process := by
    rintro _ ⟨⟩
    exact keeps
  conserved := by
    have conserved := inv.conserved
    rw [World.held_some running, ← same_held] at conserved
    exact conserved

/-- A step that only changes what the lock holder does next. -/
theorem Invariant.of_phase
    {phase : Phase} (relies : PhaseInvariant world.history.committed process.ledger phase)
    (same : phase.snapshotEvents = process.phase.snapshotEvents) :
    Invariant hashing (world.setProcess { process with phase }) := by
  refine inv.of_process running ⟨(inv.process process running).ledger, relies⟩ ?_
  rw [held, held, same]

theorem Invariant.crash :
    Invariant hashing { world with
      process := none
      history := { world.history with
        lost := world.history.lost + process.held world.history.committed } } where
  database := inv.database
  process := by simp
  conserved := by
    have conserved := inv.conserved
    rw [World.held_some running] at conserved
    simpa [World.held, committedEvents] using conserved

omit running

theorem Invariant.start (ended : world.process = none)
    {nextBatchId : Nat} (bootstrap : retentionBootstrap world.database = .ok nextBatchId) :
    Invariant hashing (world.setProcess
      ⟨.withDefaultShards, .withNextBatchId nextBatchId, .idle, []⟩) where
  database := inv.database
  process := by
    obtain ⟨positive, bounded, above_floor, above_committed⟩ := inv.database.bootstrap bootstrap
    rintro _ ⟨⟩
    refine ⟨?_, trivial⟩
    constructor <;>
      simp_all [pendingBatches, batchIds, withNextBatchId,
        replayFloorBatchId, Nat.le_of_lt]
  conserved := by
    have conserved := inv.conserved
    rw [World.held, ended] at conserved
    congr 2

theorem Invariant.recordInto (running : world.process = some process) {calls : List RecordCall}
    {event : StatsEvent}
    (done : recordInto hashing world { process with calls } event = (next, output)) :
    Advances hashing world action output next := by
  obtain ⟨ledger_ok, relies⟩ := inv.process process running
  unfold Stats.recordInto at done
  split at done <;> cases done
  · exact .same (inv.of_process running ⟨ledger_ok, relies⟩ rfl)
  · next accumulator recorded =>
    refine ⟨⟨inv.database, ?_, ?_⟩, .accept _ _⟩
    · rintro _ ⟨⟩
      exact ⟨ledger_ok, relies⟩
    · have conserved := inv.conserved
      have added : (↑accumulator.events : Multiset StatsEvent) =
          event ::ₘ ↑process.accumulator.events :=
        Multiset.coe_eq_coe.mpr (events_recordEvent recorded)
      rw [World.held_some running, held] at conserved
      simp only [World.held, held, added, conserved, committedEvents]
      simp only [← Multiset.singleton_add]
      abel

theorem Invariant.beginRecord (running : world.process = some process) {sequence : Nat}
    (allocated : process.accumulator.allocate = .ok (sequence, accumulator))
    (calls : List RecordCall) :
    Invariant hashing (world.setProcess { process with accumulator, calls }) := by
  refine inv.of_process running ⟨(inv.process process running).ledger,
    (inv.process process running).phase⟩ ?_
  unfold allocate at allocated
  split at allocated <;> cases allocated
  rfl

omit inv

theorem trySwapEpoch_events {swapped : StatsAccumulator} {limit : Nat}
    (success : accumulator.trySwapEpoch limit = .ok (snapshot, swapped)) :
    snapshot.events.Perm accumulator.events ∧ swapped.events = [] := by
  unfold trySwapEpoch at success
  split at success <;> cases success
  refine ⟨snapshotEpoch_events accumulator, ?_⟩
  rw [events, flatMap_eq_nil_iff]
  intro shard mem
  rw [eq_of_mem_replicate mem]
  rfl

variable (inv : Invariant hashing world)

include inv

variable (running : world.process = some process)

include running

theorem Invariant.beginFlush (idle : process.phase = .idle) :
    Advances hashing world action output (beginFlush world process).1 := by
  unfold Stats.beginFlush
  dsimp only
  split
  · exact .same inv
  · next room =>
    split
    · exact .same inv
    · next snapshot accumulator success =>
      obtain ⟨taken, emptied⟩ := trySwapEpoch_events success
      rw [not_or, not_le, not_le] at room
      refine .same (inv.of_process running ⟨(inv.process process running).ledger, ?_⟩ ?_)
      · simpa [PhaseInvariant, pendingBatches] using room.1
      · rw [held, held, emptied, idle]
        simp [snapshotEvents, Multiset.coe_eq_coe.mpr taken]

theorem Invariant.enqueue (swapped : process.phase = .swapped snapshot) :
    Advances hashing world action output (enqueueSnapshot world process snapshot).1 := by
  obtain ⟨ledger_ok, room⟩ := inv.process process running
  rw [swapped] at room
  unfold enqueueSnapshot
  split
  · next empty =>
    refine .same (inv.of_phase running trivial ?_)
    rw [swapped, snapshotEvents, eq_nil_of_length_eq_zero empty]
    rfl
  · next nonempty =>
    have some_events : snapshot.events ≠ [] := fun empty => nonempty (by simp [empty])
    rw [ledger_ok.enqueue_eq_ok room some_events]
    refine .same (inv.of_process running ⟨ledger_ok.withSnapshot room snapshot, trivial⟩ ?_)
    -- The new number is above all committed ones, so the batch holds all its events.
    have fresh : process.ledger.nextBatchId ∉ world.history.committed.map (·.batchId) := by
      intro listed
      obtain ⟨batch, mem, same⟩ := mem_map.mp listed
      exact absurd (ledger_ok.committed_lt batch mem) (by rw [same]; exact lt_irrefl _)
    have added : uncommitted world.history.committed
        (snapshot.intoBatch process.ledger.nextBatchId) = ↑snapshot.events := if_neg fresh
    rw [held_eq, held_eq, pendingBatches_withSnapshot, swapped]
    simp only [snapshotEvents, map_append, map_singleton, sum_append, sum_singleton, added]
    abel

theorem Invariant.acknowledge {batchId : Nat} (executed : process.phase = .executed batchId) :
    ∃ ledger, process.ledger.commit batchId = .ok ledger ∧
      Invariant hashing (world.setProcess { process with ledger, phase := .draining }) := by
  obtain ⟨ledger_ok, relies⟩ := inv.process process running
  rw [executed] at relies
  obtain ⟨batch, first, rfl, mem⟩ := relies
  refine ⟨acknowledged process.ledger batch, ledger_ok.ready.commit_eq_ok first, ?_⟩
  refine inv.of_process running ⟨ledger_ok.acknowledged first
    (inv.database.storable batch mem).batchId_lt, trivial⟩ ?_
  rw [nextPendingBatch_eq, head?_eq_some_iff] at first
  obtain ⟨rest, pending⟩ := first
  rw [held_eq, held_eq, pendingBatches_acknowledged, pending, executed,
    map_cons, sum_cons, uncommitted_of_mem mem, zero_add, tail_cons]
  rfl

variable (draining : process.phase = .draining)

include draining

/-- A committed transaction applies the batch once, whether it is the first one or a retry. -/
theorem Invariant.commitBatch
    (first : process.ledger.nextPendingBatch = some batch) {database : StatsDatabase}
    (success : applyStatsBatch hashing world.database batch = .ok database) :
    Invariant hashing ⟨database, some process, world.history.commitBatch world.database batch⟩ ∧
      batch ∈ (world.history.commitBatch world.database batch).committed ∧
      ∀ {outcome output}, outcome.commits = true → HistoryStep world (.execute outcome) output
        (world.history.commitBatch world.database batch) := by
  obtain ⟨ledger_ok, -⟩ := inv.process process running
  have waiting := mem_of_nextPendingBatch first
  obtain ⟨present, rfl⟩ | ⟨absent, storable, rfl⟩ := applyStatsBatch_eq_ok success
  · rw [History.commitBatch, if_pos present, ← running]
    exact ⟨inv, ledger_ok.committed_of_present inv.database waiting present, fun _ => .same _ _⟩
  · have fresh := ledger_ok.fresh_of_absent inv.database waiting absent
    rw [History.commitBatch, if_neg (by simp [absent])]
    refine ⟨⟨inv.database.applied fresh storable, ?_, ?_⟩, by simp,
      fun commits => .commit _ running first commits fresh⟩
    · rintro _ ⟨⟩
      refine ⟨(ledger_ok.committed_append waiting).of_database ledger_ok.stored_floor_le, ?_⟩
      rw [draining]
      trivial
    · have conserved := inv.conserved
      have moved := sum_uncommitted_append ledger_ok.ids_nodup waiting fresh
      rw [World.held_some running, held_eq, moved] at conserved
      simp only [World.held, held_eq, conserved, committedEvents,
        flatMap_append, flatMap_singleton, ← Multiset.coe_add]
      abel

theorem Invariant.markFailed (batchId : Nat) :
    Invariant hashing (world.setProcess { process with
      ledger := process.ledger.markFailed batchId, phase := .idle }) := by
  have same := pendingBatches_markFailed process.ledger batchId
  refine inv.of_process running ⟨(inv.process process running).ledger
    |>.of_pendingBatches_eq rfl same fun _ _ found => found, trivial⟩ ?_
  rw [held_eq, held_eq, same, draining]
  rfl

theorem Invariant.execute
    (first : process.ledger.nextPendingBatch = some batch) (outcome : Outcome) :
    Advances hashing world (.execute outcome) output
      (executeBatch hashing world process batch outcome).1 := by
  have dropped : ∀ {changed : World}, Invariant hashing changed →
      changed.process = some process →
        Invariant hashing (changed.setProcess { process with phase := .idle }) :=
    fun keeps same => keeps.of_phase same trivial (by rw [draining]; rfl)
  unfold executeBatch
  cases success : applyStatsBatch hashing world.database batch with
  | error error =>
    cases outcome
    case droppedBeforeCommit | droppedAfterCommit => exact .same (dropped inv running)
    all_goals exact .same (inv.markFailed running draining batch.batchId)
  | ok database =>
    obtain ⟨applied, mem, history⟩ := inv.commitBatch running draining first success
    cases outcome
    case succeeds =>
      exact ⟨applied.of_phase rfl ⟨batch, first, rfl, mem⟩ (by rw [draining]; rfl), history rfl⟩
    case failsBeforeCommit => exact .same (inv.markFailed running draining batch.batchId)
    case failsAfterCommit => exact ⟨applied.markFailed rfl draining batch.batchId, history rfl⟩
    case droppedBeforeCommit => exact .same (dropped inv running)
    case droppedAfterCommit => exact ⟨dropped applied rfl, history rfl⟩

omit draining

theorem Invariant.publish {floor : Nat}
    (retaining : process.phase = .retaining floor) (keepFromDayUtc : Int) (outcome : Outcome) :
    Advances hashing world action output
      (publishWith world process floor keepFromDayUtc outcome).1 := by
  obtain ⟨ledger_ok, relies⟩ := inv.process process running
  rw [retaining] at relies
  have quiet : process.phase.snapshotEvents = 0 := by rw [retaining]; rfl
  unfold publishWith
  cases success : publishRetention world.database keepFromDayUtc floor with
  | error error => exact .same (inv.of_phase running trivial quiet.symm)
  | ok database =>
    have published : Invariant hashing { world with database } := by
      refine ⟨inv.database.published success, ?_, inv.conserved⟩
      intro other same
      obtain rfl : process = other := Option.some.inj (running.symm.trans same)
      refine ⟨ledger_ok.of_database ?_, by rw [retaining]; exact relies⟩
      obtain ⟨state, stored, -, -, floor_le, -⟩ := publishRetention_eq_ok success
      intro other found
      obtain rfl : state = other := Option.some.inj (stored.symm.trans found)
      obtain below | ⟨old, old_stored, same_floor⟩ := floor_le
      · exact below.trans (Nat.le_of_eq relies)
      · exact same_floor ▸ ledger_ok.stored_floor_le old old_stored
    cases outcome
    case failsBeforeCommit | droppedBeforeCommit =>
      exact .same (inv.of_phase running trivial quiet.symm)
    all_goals exact .same (published.of_phase running trivial quiet.symm)

theorem Invariant.reclaim {floor : Nat} (published : process.phase = .published floor) :
    Invariant hashing (world.setProcess { process with
      ledger := process.ledger.reclaimCommittedBefore floor, phase := .idle }) := by
  have fewer : ∀ batchId receipt,
      (process.ledger.reclaimCommittedBefore floor).committed.lookup batchId = some receipt →
        process.ledger.committed.lookup batchId = some receipt := by
    intro batchId receipt found
    rw [reclaimCommittedBefore, AList.lookup_retain] at found
    exact Option.eq_some_of_filter_eq_some found
  refine inv.of_process running ⟨(inv.process process running).ledger
    |>.of_pendingBatches_eq rfl rfl fewer, trivial⟩ ?_
  rw [held_eq, held_eq, published]
  rfl

theorem Invariant.stepProcess
    (stepped : stepProcess hashing world process action = some (next, output)) :
    Advances hashing world action output next := by
  cases action with simp only [Stats.stepProcess] at stepped
  | start => cases stepped
  | crash =>
    cases stepped
    refine ⟨inv.crash running, ?_⟩
    rw [← World.held_some running]
    exact .crash
  | beginRecord dayUtc dimensions =>
    split at stepped <;> cases stepped
    · exact .same inv
    · next allocated => exact .same (inv.beginRecord running allocated _)
  | finishRecord index =>
    split at stepped <;> try cases stepped
    split at stepped
    · cases stepped
      exact .same (inv.of_process running ⟨(inv.process process running).ledger,
        (inv.process process running).phase⟩ rfl)
    · exact inv.recordInto running (Option.some.inj stepped)
  | recordEvent event => exact inv.recordInto running (Option.some.inj stepped)
  | beginFlush =>
    split at stepped <;> try cases stepped
    next idle =>
    split at stepped <;> try cases stepped
    obtain rfl := eq_fst_of_some stepped
    exact inv.beginFlush running idle
  | enqueue =>
    split at stepped <;> try cases stepped
    next swapped =>
    obtain rfl := eq_fst_of_some stepped
    exact inv.enqueue running swapped
  | execute outcome =>
    split at stepped <;> try cases stepped
    next draining first =>
    obtain rfl := eq_fst_of_some stepped
    exact inv.execute running draining first outcome
  | acknowledge =>
    split at stepped <;> try cases stepped
    next executed =>
    obtain ⟨ledger, committed, keeps⟩ := inv.acknowledge running executed
    rw [committed] at stepped
    cases stepped
    exact .same keeps
  | finishFlush =>
    split at stepped <;> cases stepped
    next draining _ => exact .same (inv.of_phase running trivial (by rw [draining]; rfl))
  | beginRetention =>
    split at stepped <;> cases stepped
    next idle => exact .same (inv.of_phase running rfl (by rw [idle]; rfl))
  | publish keepFromDayUtc outcome =>
    split at stepped <;> try cases stepped
    next retaining =>
    obtain rfl := eq_fst_of_some stepped
    exact inv.publish running retaining keepFromDayUtc outcome
  | reclaim =>
    split at stepped <;> cases stepped
    next published => exact .same (inv.reclaim running published)
  | release =>
    split at stepped <;> cases stepped
    next retaining => exact .same (inv.of_phase running trivial (by rw [retaining]; rfl))

omit running

theorem Invariant.step (stepped : step hashing world action = some (next, output)) :
    Advances hashing world action output next := by
  unfold Stats.step at stepped
  split at stepped
  · next running => exact inv.stepProcess running stepped
  · next ended =>
    split at stepped <;> try cases stepped
    split at stepped <;> cases stepped
    · exact .same inv
    · next bootstrap => exact .same (inv.start ended bootstrap)

omit inv

theorem invariant_of_reachable (reachable : Reachable (step hashing) initial world) :
    Invariant hashing world :=
  Preserves.of_reachable (fun _ _ _ _ inv stepped => (inv.step stepped).invariant)
    invariant_initial reachable

/-- The ledger of a running process agrees with the database. -/
theorem ledger_of_reachable :
    Reachable (step hashing) initial ≤ fun world => ∀ process, world.process = some process →
      LedgerInvariant world.database world.history.committed process.ledger :=
  fun _ reachable process running =>
    ((invariant_of_reachable reachable).process process running).ledger

theorem count_flatMap_dimensionRows (events : List StatsEvent) (row : Int × String × String) :
    (events.flatMap (·.dimensionRows)).count row =
      events.countP fun event => row ∈ event.dimensionRows := by
  induction events with
  | nil => rfl
  | cons event events induction =>
    rw [flatMap_cons, count_append, induction, countP_cons, Nat.add_comm]
    rw [List.Nodup.count event.nodup_dimensionRows]
    simp

/-- Every accepted event is lost with a process, in the memory of the running one or in exactly
one committed batch, and the tables count the committed events of the kept days. -/
structure ExactlyOnce (world : World) : Prop where
  conserved : world.history.accepted =
    world.history.lost + world.held + world.history.committedEvents
  totals : ∀ dayUtc, world.database.dailyTotal.tally dayUtc =
    if world.database.keepsDay dayUtc then
      world.history.committedEvents.countP fun event => event.dayUtc = dayUtc else 0
  dimensions : ∀ row, world.database.dailyDimension.tally row =
    if world.database.keepsDay row.1 then
      world.history.committedEvents.countP fun event => row ∈ event.dimensionRows else 0
  committed_nodup : (batchIds world.history.committed).Nodup
  /-- Numbers that are given away later are new. -/
  committed_lt : ∀ process, world.process = some process →
    ∀ batch ∈ world.history.committed, batch.batchId < process.ledger.nextBatchId
  pending_nodup : ∀ process, world.process = some process →
    (batchIds (pendingBatches process.ledger)).Nodup
  pending_eq : ∀ process, world.process = some process →
    ∀ pending ∈ pendingBatches process.ledger, ∀ batch ∈ world.history.committed,
      pending.batchId = batch.batchId → pending = batch
  acknowledged : ∀ process, world.process = some process →
    ∀ batch ∈ pendingBatches process.ledger,
      process.ledger.committed.lookup batch.batchId = none

/-- A retry of a committed batch succeeds and leaves the tables as they are. -/
def RetriesAreIdempotent (hashing : StatsHashing) (world : World) : Prop :=
  ∀ process, world.process = some process → ∀ batch ∈ pendingBatches process.ledger,
    batch ∈ world.history.committed →
      applyStatsBatch hashing world.database batch = .ok world.database

theorem Invariant.exactlyOnce (inv : Invariant hashing world) : ExactlyOnce world where
  conserved := inv.conserved
  totals dayUtc := by
    rw [inv.database.total_eq, committedEvents, Multiset.coe_countP, count, countP_map]
    congr
  dimensions row := by
    rw [inv.database.dimension_eq, committedEvents, Multiset.coe_countP,
      count_flatMap_dimensionRows]
  committed_nodup := inv.database.ids_nodup
  committed_lt process running := (inv.process process running).ledger.committed_lt
  pending_nodup process running := (inv.process process running).ledger.ids_nodup
  pending_eq process running pending waiting batch mem :=
    (inv.process process running).ledger.committed_pending batch mem pending waiting
  acknowledged process running batch waiting := by
    have ledger_ok := (inv.process process running).ledger
    rw [Option.eq_none_iff_forall_ne_some]
    intro receipt found
    have below := ledger_ok.acknowledged_lt _ _ found
    have above := (ledger_ok.pending_bounds waiting).1
    omega

theorem Invariant.retriesAreIdempotent (inv : Invariant hashing world) :
    RetriesAreIdempotent hashing world := by
  intro process running batch waiting mem
  have ledger_ok := (inv.process process running).ledger
  refine applyStatsBatch_again (inv.database.storable batch mem) ?_
  obtain found | ⟨state, stored, below⟩ := inv.database.row_of_committed batch mem
  · exact found
  · have floor := ledger_ok.stored_floor_le state stored
    have above := (ledger_ok.pending_bounds waiting).1
    omega

/-- In every reachable state the statistics are counted exactly once, and every step from it keeps
what was accepted and committed. -/
theorem statistics_counted_exactly_once (hashing : StatsHashing) (world : World)
    (reachable : Reachable (step hashing) initial world) :
    ExactlyOnce world ∧ RetriesAreIdempotent hashing world ∧
      ∀ action next output, step hashing world action = some (next, output) →
        HistoryStep world action output next.history := by
  have invariant := invariant_of_reachable reachable
  exact ⟨invariant.exactlyOnce, invariant.retriesAreIdempotent,
    fun _ _ _ stepped => (invariant.step stepped).history⟩

def sampleHashing : StatsHashing := ⟨fun _ _ => 0, fun _ => 0⟩

def ambiguousRun : List Action :=
  [.start, .beginRecord 20000 [⟨.rcode, .rcode 0⟩], .finishRecord 0, .beginFlush, .enqueue,
    .execute .failsAfterCommit]

theorem statistics_counted_exactly_once_ambiguousRun :
    ∃ world, run (step sampleHashing) initial ambiguousRun = some world ∧
      ExactlyOnce world := by
  obtain ⟨world, finished⟩ : ∃ world,
      run (step sampleHashing) initial ambiguousRun = some world :=
    Option.isSome_iff_exists.mp (by decide +kernel)
  exact ⟨world, finished,
    (statistics_counted_exactly_once sampleHashing world ⟨ambiguousRun, finished⟩).1⟩

def ambiguousEvent : StatsEvent := ⟨1, 20000, [⟨.rcode, .rcode 0⟩], by decide⟩

/-- After the ambiguous failure the only accepted event is both in a pending batch and in the
durable tables. -/
theorem accepted_event_pending_and_durable :
    ∃ world process, Reachable (step sampleHashing) initial world ∧
      world.process = some process ∧ world.history.accepted = {ambiguousEvent} ∧
      (∃ batch ∈ pendingBatches process.ledger, ambiguousEvent ∈ batch.events) ∧
      world.database.dailyTotal.tally ambiguousEvent.dayUtc = 1 := by
  have evaluated : (run (step sampleHashing) initial ambiguousRun).any (fun world =>
      world.process.any fun process : Process => decide (world.history.accepted = {ambiguousEvent} ∧
        (∃ batch ∈ pendingBatches process.ledger, ambiguousEvent ∈ batch.events) ∧
        world.database.dailyTotal.tally ambiguousEvent.dayUtc = 1)) = true := by
    decide +kernel
  obtain ⟨world, finished, found⟩ := (Option.any_eq_true _ _).mp evaluated
  obtain ⟨process, running, places⟩ := (Option.any_eq_true _ _).mp found
  exact ⟨world, process, ⟨ambiguousRun, finished⟩, running, of_decide_eq_true places⟩

end FluxDns.Storage.Stats
