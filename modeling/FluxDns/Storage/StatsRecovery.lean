import FluxDns.Storage.StatsExactlyOnce

/-!
# Recovery of the statistics worker

A flush call as a whole, against any backend.  Once the backend works again one call writes
everything, unless the worker has reached one of its limits: then every call is refused before it
looks at the pending batches.
-/

namespace FluxDns.Storage.Stats

open Execution StatsAccumulator List Option Process

/-- The part of a process that `flush` works on. -/
structure StatsWorker where
  accumulator : StatsAccumulator
  ledger : BatchLedger

def Process.worker (process : Process) : StatsWorker := ⟨process.accumulator, process.ledger⟩

inductive StatsPersistenceError where
  | backend (error : PortError)
  | ledger (error : BatchLedgerError)
  | pendingLimitExceeded (pendingBatches pendingEvents activeEvents : Nat)

/-- What a flush reports. -/
structure StatsPersistenceFlushSummary where
  batchesCommitted : Nat
  eventsCommitted : Nat
  pendingBatches : Nat
  persistenceGap : Bool

/-- `execute` of a backend on the transaction of one batch. -/
abbrev Backend := StatsBatch → Except PortError Unit

/-- A backend on which every call succeeds. -/
def Backend.working : Backend := fun _ => .ok ()

/-- The loop of `flush`; there is no result when the fuel does not suffice. -/
def flushPending (backend : Backend) : Nat → BatchLedger → StatsPersistenceFlushSummary →
    Option (BatchLedger × Except StatsPersistenceError StatsPersistenceFlushSummary)
  | 0, _, _ => none
  | fuel + 1, ledger, summary =>
    match ledger.nextPendingBatch with
    | none => some (ledger, .ok summary)
    | some batch =>
      match backend batch with
      | .error error => some (ledger.markFailed batch.batchId, .error (.backend error))
      | .ok () =>
        match ledger.commit batch.batchId with
        | .error error => some (ledger, .error (.ledger error))
        | .ok next => flushPending backend fuel next
            { summary with
              batchesCommitted := min (summary.batchesCommitted + 1) (u64Size - 1)
              eventsCommitted := min (summary.eventsCommitted + batch.events.length) (u64Size - 1) }

/-- The rest of `flush` after the epoch swap. -/
def flushSnapshot (backend : Backend) (accumulator : StatsAccumulator) (ledger : BatchLedger)
    (snapshot : StatsSnapshot) :
    Option (StatsWorker × Except StatsPersistenceError StatsPersistenceFlushSummary) :=
  let enqueued := if snapshot.events.length = 0 then .ok ledger else ledger.enqueue snapshot
  match enqueued with
  | .error error => some (⟨accumulator, ledger⟩, .error (.ledger error))
  | .ok ledger =>
    (flushPending backend (ledger.pending.length + 1) ledger ⟨0, 0, 0, false⟩).map
      fun (ledger, result) =>
        (⟨accumulator, ledger⟩, result.map fun summary =>
          { summary with
            pendingBatches := ledger.pending.length
            persistenceGap := !(accumulator.activeEventCount == 0 && ledger.pending.length == 0) })

/-- `flush`; there is no result when the epoch number has no successor and the swap panics. -/
def StatsWorker.flush (backend : Backend) (worker : StatsWorker) :
    Option (StatsWorker × Except StatsPersistenceError StatsPersistenceFlushSummary) :=
  let pendingBatches := worker.ledger.pending.length
  let pendingEvents := worker.ledger.pendingEventCount
  if maxPendingStatsBatches ≤ pendingBatches ∨ maxPendingStatsEvents ≤ pendingEvents then
    some (worker, .error (.pendingLimitExceeded pendingBatches pendingEvents
      worker.accumulator.activeEventCount))
  else
    match worker.accumulator.trySwapEpoch (maxPendingStatsEvents - pendingEvents) with
    | .error activeEvents =>
      some (worker, .error (.pendingLimitExceeded pendingBatches pendingEvents activeEvents))
    | .ok (snapshot, accumulator) =>
      if u64Size ≤ worker.accumulator.epoch + 1 then none
      else flushSnapshot backend accumulator worker.ledger snapshot

def flushes (backend : Backend) : Nat → StatsWorker → Option StatsWorker
  | 0, worker => some worker
  | calls + 1, worker =>
    match worker.flush backend with
    | none => none
    | some (next, _) => flushes backend calls next

variable (worker : StatsWorker)

/-- Nothing is left in memory. -/
structure StatsWorker.Drained : Prop where
  pending : worker.ledger.pending = []
  active : worker.accumulator.activeEventCount = 0

/-- Finitely many flush calls on a working backend leave nothing in memory. -/
def StatsWorker.Recovers : Prop :=
  ∃ calls last, flushes .working calls worker = some last ∧ last.Drained

/-- The worker is below its limits, and the epoch number has a successor. -/
structure StatsWorker.BelowLimits : Prop where
  batches : worker.ledger.pending.length < maxPendingStatsBatches
  pending : worker.ledger.pendingEventCount < maxPendingStatsEvents
  active : worker.ledger.pendingEventCount + worker.accumulator.activeEventCount ≤
    maxPendingStatsEvents
  epoch : worker.accumulator.epoch + 1 < u64Size

theorem flushPending_working {ledger : BatchLedger} (ready : Ready ledger) {fuel : Nat}
    (enough : ledger.pending.length < fuel) (summary : StatsPersistenceFlushSummary) :
    ∃ next final, flushPending .working fuel ledger summary = some (next, .ok final) ∧
      next.pending = [] := by
  induction fuel generalizing ledger summary with
  | zero => cases enough
  | succ fuel induction =>
    rw [flushPending]
    cases first : ledger.nextPendingBatch with
    | none =>
      simpa [BatchLedger.nextPendingBatch] using first
    | some batch =>
      obtain ⟨entry, rest, pending, -⟩ := nextPendingBatch_eq_some first
      have shorter : (acknowledged ledger batch).pending.length < fuel := by
        simp only [pending, length_cons] at enough
        simp only [acknowledged, pending, tail_cons]
        omega
      simp only [Backend.working, ready.commit_eq_ok first]
      exact induction (ready.acknowledged first) shorter _

theorem activeEventCount_eq (accumulator : StatsAccumulator) :
    accumulator.activeEventCount = accumulator.events.length := by
  rw [activeEventCount, events, length_flatMap]

section Calls

variable {hashing : StatsHashing} {database : StatsDatabase} {committed : List StatsBatch}
  {worker : StatsWorker}

def StatsWorker.enqueued (worker : StatsWorker) : BatchLedger :=
  if worker.accumulator.snapshotEpoch.events.length = 0 then worker.ledger
  else withSnapshot worker.ledger worker.accumulator.snapshotEpoch

theorem swap_of_belowLimits (below : worker.BelowLimits) :
    ∃ accumulator, accumulator.activeEventCount = 0 ∧
      worker.accumulator.trySwapEpoch
        (maxPendingStatsEvents - worker.ledger.pendingEventCount) =
          .ok (worker.accumulator.snapshotEpoch, accumulator) := by
  obtain ⟨-, -, active, -⟩ := below
  obtain ⟨accumulator, swapped⟩ : ∃ accumulator, worker.accumulator.trySwapEpoch
      (maxPendingStatsEvents - worker.ledger.pendingEventCount) =
        .ok (worker.accumulator.snapshotEpoch, accumulator) := by
    rw [trySwapEpoch, if_neg (by omega)]
    exact ⟨_, rfl⟩
  refine ⟨accumulator, ?_, swapped⟩
  rw [activeEventCount_eq, (trySwapEpoch_events swapped).2, length_nil]

variable (inv : LedgerInvariant database committed worker.ledger)

include inv

variable (below : worker.BelowLimits)

include below

theorem enqueue_of_belowLimits (nonempty : worker.accumulator.snapshotEpoch.events.length ≠ 0) :
    worker.ledger.enqueue worker.accumulator.snapshotEpoch = .ok worker.enqueued := by
  have room : (pendingBatches worker.ledger).length < maxPendingStatsBatches := by
    rw [pendingBatches, length_map]
    exact below.batches
  have some_events : worker.accumulator.snapshotEpoch.events ≠ [] := fun empty =>
    nonempty (by simp [empty])
  rw [StatsWorker.enqueued, if_neg nonempty]
  exact inv.enqueue_eq_ok room some_events

theorem ready_enqueued : Ready worker.enqueued := by
  unfold StatsWorker.enqueued
  split
  · exact inv.ready
  · have room : (pendingBatches worker.ledger).length < maxPendingStatsBatches := by
      rw [pendingBatches, length_map]
      exact below.batches
    exact (inv.withSnapshot room _).ready

theorem flush_eq_of_belowLimits {accumulator : StatsAccumulator}
    (swapped : worker.accumulator.trySwapEpoch
      (maxPendingStatsEvents - worker.ledger.pendingEventCount) =
        .ok (worker.accumulator.snapshotEpoch, accumulator)) (backend : Backend) :
    worker.flush backend =
      (flushPending backend (worker.enqueued.pending.length + 1) worker.enqueued
        ⟨0, 0, 0, false⟩).map fun (ledger, result) =>
          (⟨accumulator, ledger⟩, result.map fun summary =>
            { summary with
              pendingBatches := ledger.pending.length
              persistenceGap :=
                !(accumulator.activeEventCount == 0 && ledger.pending.length == 0) }) := by
  have enqueued : (if worker.accumulator.snapshotEpoch.events.length = 0 then .ok worker.ledger
      else worker.ledger.enqueue worker.accumulator.snapshotEpoch) = .ok worker.enqueued := by
    split
    · next empty => rw [StatsWorker.enqueued, if_pos empty]
    · next nonempty => exact enqueue_of_belowLimits inv below nonempty
  obtain ⟨batches, pending, -, epoch⟩ := below
  simp only [StatsWorker.flush, swapped]
  rw [if_neg (by omega), if_neg (by omega), flushSnapshot, enqueued]

/-- Below the limits one call on a working backend writes everything. -/
theorem flush_of_belowLimits :
    ∃ next summary, worker.flush .working = some (next, .ok summary) ∧ next.Drained := by
  obtain ⟨accumulator, emptied, swapped⟩ := swap_of_belowLimits below
  obtain ⟨next, summary, flushed, drained⟩ := flushPending_working
    (ready_enqueued inv below) (Nat.lt_succ_self _) ⟨0, 0, 0, false⟩
  rw [flush_eq_of_belowLimits inv below swapped, flushed]
  exact ⟨_, _, rfl, ⟨drained, emptied⟩⟩

omit below

omit inv

variable (backend : Backend)

/-- At a limit a call changes nothing, whatever the backend does. -/
theorem flush_of_limit (limit : maxPendingStatsBatches ≤ worker.ledger.pending.length ∨
      maxPendingStatsEvents ≤ worker.ledger.pendingEventCount ∨
      maxPendingStatsEvents <
        worker.ledger.pendingEventCount + worker.accumulator.activeEventCount) :
    ∃ error, worker.flush backend = some (worker, .error error) := by
  unfold StatsWorker.flush
  dsimp only
  split
  · exact ⟨_, rfl⟩
  · next room =>
    rw [trySwapEpoch, if_pos (by omega)]
    exact ⟨_, rfl⟩

theorem flush_of_last_epoch (batches : worker.ledger.pending.length < maxPendingStatsBatches)
    (pending : worker.ledger.pendingEventCount < maxPendingStatsEvents)
    (active : worker.ledger.pendingEventCount + worker.accumulator.activeEventCount ≤
      maxPendingStatsEvents)
    (last : u64Size ≤ worker.accumulator.epoch + 1) : worker.flush backend = none := by
  unfold StatsWorker.flush
  rw [if_neg (by omega), trySwapEpoch, if_neg (by omega)]
  simp only [if_pos last]

/-- Without room a worker never changes, however often it is flushed. -/
theorem flushes_eq_self (full : ¬worker.BelowLimits) {calls : Nat}
    {last : StatsWorker} (flushed : flushes backend calls worker = some last) : last = worker := by
  induction calls with
  | zero => exact (some.inj flushed).symm
  | succ calls induction =>
    by_cases limit : maxPendingStatsBatches ≤ worker.ledger.pending.length ∨
        maxPendingStatsEvents ≤ worker.ledger.pendingEventCount ∨
        maxPendingStatsEvents <
          worker.ledger.pendingEventCount + worker.accumulator.activeEventCount
    · obtain ⟨error, refused⟩ := flush_of_limit backend limit
      rw [flushes, refused] at flushed
      exact induction flushed
    · simp only [not_or, not_le, not_lt] at limit
      obtain ⟨batches, pending, active⟩ := limit
      have last_epoch : u64Size ≤ worker.accumulator.epoch + 1 := by
        by_contra room
        exact full ⟨batches, pending, active, Nat.lt_of_not_le room⟩
      rw [flushes, flush_of_last_epoch backend batches pending active last_epoch] at flushed
      cases flushed

end Calls

def Accepts (hashing : StatsHashing) : StatsDatabase → List StatsBatch → Prop
  | _, [] => True
  | database, batch :: batches => ∃ next,
      applyStatsBatch hashing database batch = .ok next ∧ Accepts hashing next batches

section Steps

variable {hashing : StatsHashing} {world : World} {process : Process}
  {summary : StatsPersistenceFlushSummary}

/-- The steps of an interleaving follow the loop of a flush call. -/
theorem run_flushPending {fuel : Nat} {next : BatchLedger}
    {final : StatsPersistenceFlushSummary} (running : world.process = some process)
    (draining : process.phase = .draining) (ready : Ready process.ledger)
    (accepted : Accepts hashing world.database (pendingBatches process.ledger))
    (flushed : flushPending .working fuel process.ledger summary = some (next, .ok final)) :
    ∃ actions last, run (step hashing) world actions = some last ∧
      last.process = some { process with ledger := next, phase := .idle } := by
  induction fuel generalizing world process summary with
  | zero => cases flushed
  | succ fuel induction =>
    rw [flushPending] at flushed
    cases first : process.ledger.nextPendingBatch with
    | none =>
      rw [first] at flushed
      cases flushed
      refine ⟨[.finishFlush], world.setProcess { process with phase := .idle },
        ?_, rfl⟩
      simp [run, step, running, stepProcess, draining, first]
    | some batch =>
      obtain ⟨entry, rest, pending, rfl⟩ := nextPendingBatch_eq_some first
      simp only [first, Backend.working, ready.commit_eq_ok first] at flushed
      simp only [pendingBatches, pending, map_cons, Accepts] at accepted
      obtain ⟨database, applied, rest_accepted⟩ := accepted
      have remaining : pendingBatches (acknowledged process.ledger entry.batch) =
          rest.map (·.batch) := by
        rw [pendingBatches_acknowledged, pendingBatches, pending]
        rfl
      let rest_process := { process with ledger := acknowledged process.ledger entry.batch }
      obtain ⟨actions, last, ran, ended⟩ := @induction
        ⟨database, some rest_process, world.history.commitBatch world.database entry.batch⟩
        rest_process _ rfl draining (ready.acknowledged first)
        (by rw [remaining]; exact rest_accepted) flushed
      refine ⟨.execute .succeeds :: .acknowledge :: actions, last, ?_, ended⟩
      simp only [run, step, running, stepProcess, draining, first, executeBatch,
        applied, Outcome.commits, if_true, ready.commit_eq_ok first]
      rw [← draining]
      exact ran

/-- A flush call that succeeds is a sequence of the model's steps. -/
theorem run_flush {next : StatsWorker}
    (inv : LedgerInvariant world.database world.history.committed process.ledger)
    (running : world.process = some process) (idle : process.phase = .idle)
    (below : process.worker.BelowLimits)
    (accepted : Accepts hashing world.database (pendingBatches process.worker.enqueued))
    (flushed : process.worker.flush .working = some (next, .ok summary)) :
    ∃ actions last, run (step hashing) world actions = some last ∧
      last.process = some { process with
        accumulator := next.accumulator, ledger := next.ledger, phase := .idle } := by
  obtain ⟨accumulator, -, swapped⟩ := swap_of_belowLimits below
  have unchanged : LedgerInvariant world.database world.history.committed
      process.worker.ledger := inv
  rw [flush_eq_of_belowLimits unchanged below swapped, map_eq_some_iff] at flushed
  obtain ⟨⟨ledger, result⟩, looped, returned⟩ := flushed
  cases result with
  | error error => cases returned
  | ok final =>
    cases returned
    let drainer : Process :=
      { process with accumulator, ledger := process.worker.enqueued, phase := .draining }
    obtain ⟨actions, last, ran, ended⟩ := @run_flushPending hashing
      (world.setProcess drainer) drainer _ _ _ _ rfl rfl
      (ready_enqueued unchanged below) accepted looped
    refine ⟨.beginFlush :: .enqueue :: actions, last, ?_, ended⟩
    let swapper : Process :=
      { process with accumulator, phase := .swapped process.accumulator.snapshotEpoch }
    have began : step hashing world .beginFlush = some (world.setProcess swapper, .done) := by
      obtain ⟨batches, pending, -, epoch⟩ := below
      simp only [worker] at batches pending epoch swapped
      simp only [step, running, stepProcess, idle]
      rw [if_neg (by omega), beginFlush, if_neg (by omega)]
      simp only [swapped, swapper]
    have enqueued : step hashing (world.setProcess swapper) .enqueue =
        some (world.setProcess drainer, .done) := by
      simp only [step, stepProcess, enqueueSnapshot, swapper]
      split
      · next empty =>
        have same : process.worker.enqueued = process.ledger := if_pos empty
        simp only [drainer, same]
      · next nonempty =>
        have taken := enqueue_of_belowLimits unchanged below nonempty
        simp only [worker] at taken
        simp only [taken, drainer, worker]
    rw [run, began]
    simp only [run, enqueued]
    exact ran

end Steps

/-- A day on which every flush fails: each one leaves another batch behind. -/
def failingFlushes : Nat → List Action
  | 0 => []
  | count + 1 =>
    [.beginRecord 20000 [], .finishRecord 0, .beginFlush, .enqueue, .execute .failsBeforeCommit] ++
      failingFlushes count

end FluxDns.Storage.Stats
