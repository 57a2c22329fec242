import Mathlib.Data.Multiset.AddSub
import FluxDns.Storage.Statistics

/-!
# The persistence of statistics as a state machine

Requests record events at any time.  A flush and a retention publication hold the flush lock; the
process can end at every step and start again from the database.  Every choice of the environment,
such as how a database call ends, is part of the action.
-/

namespace FluxDns.Storage.Stats

/-- A `record` call between the allocation of its number and the push of its event. -/
structure RecordCall where
  sequence : Nat
  dayUtc : Int
  dimensions : List StatsDimension

inductive Phase where
  | idle
  /-- The flush has swapped the epoch and not enqueued its snapshot. -/
  | swapped (snapshot : StatsSnapshot)
  /-- The flush is about to hand the next pending batch to the backend. -/
  | draining
  /-- The backend has answered with success, the ledger is not updated yet. -/
  | executed (batchId : Nat)
  /-- A retention lease holds the lock. -/
  | retaining (replayFloorBatchId : Nat)
  /-- Retention is published, the ledger is not reclaimed yet. -/
  | published (replayFloorBatchId : Nat)

/-- What a process has in memory. -/
structure Process where
  accumulator : StatsAccumulator
  ledger : BatchLedger
  phase : Phase
  calls : List RecordCall

/-- What has happened to events so far.  The steps only write it. -/
structure History where
  /-- The events that `record` or `record_event` accepted. -/
  accepted : Multiset StatsEvent
  /-- The events that a process held when it ended. -/
  lost : Multiset StatsEvent
  /-- The batches that a transaction of the database applied. -/
  committed : List StatsBatch

/-- The database, the process and what has happened. -/
structure World where
  database : StatsDatabase
  process : Option Process
  history : History

/-- An empty database and no process. -/
def initial : World := ⟨.empty, none, ⟨0, 0, []⟩⟩

def History.committedEvents (history : History) : Multiset StatsEvent :=
  ↑(history.committed.flatMap (·.events))

/-- The events that a batch in memory adds to the committed ones. -/
def uncommitted (committed : List StatsBatch) (batch : StatsBatch) : Multiset StatsEvent :=
  if batch.batchId ∈ committed.map (·.batchId) then 0 else ↑batch.events

def Phase.snapshotEvents : Phase → Multiset StatsEvent
  | .swapped snapshot => ↑snapshot.events
  | _ => 0

def Process.held (process : Process) (committed : List StatsBatch) : Multiset StatsEvent :=
  ↑process.accumulator.events + process.phase.snapshotEvents +
    (process.ledger.pending.map fun entry => uncommitted committed entry.batch).sum

/-- How a call of the database ends. -/
inductive Outcome where
  | succeeds
  | failsBeforeCommit
  | failsAfterCommit
  /-- The caller is dropped while it waits, and the transaction is rolled back. -/
  | droppedBeforeCommit
  /-- The caller is dropped while it waits, and the transaction is committed. -/
  | droppedAfterCommit

/-- Whether the transaction takes effect. -/
def Outcome.commits : Outcome → Bool
  | .succeeds | .failsAfterCommit | .droppedAfterCommit => true
  | .failsBeforeCommit | .droppedBeforeCommit => false

inductive Action where
  | start
  | crash
  /-- `record`: allocate the sequence number. -/
  | beginRecord (dayUtc : Int) (dimensions : List StatsDimension)
  /-- `record`: build the event and push it. -/
  | finishRecord (index : Nat)
  /-- `StatsRecorder::record` with an event that has its number already. -/
  | recordEvent (event : StatsEvent)
  | beginFlush
  | enqueue
  | execute (outcome : Outcome)
  | acknowledge
  | finishFlush
  | beginRetention
  | publish (keepFromDayUtc : Int) (outcome : Outcome)
  | reclaim
  /-- A retention lease is dropped before it published. -/
  | release

inductive Output where
  | done
  | started (result : Except PortError Nat)
  | recorded (result : Except StatsAccumulatorError StatsEvent)
  | allocated (result : Except StatsAccumulatorError Nat)
  | pendingLimitExceeded (pendingBatches pendingEvents activeEvents : Nat)
  | ledgerFailed (error : BatchLedgerError)
  | backend (result : Except PortError Unit)

def maxPendingStatsBatches : Nat := 64

def maxPendingStatsEvents : Nat := 65536

/-- The error of a call that the caller does not see succeed. -/
def unavailableBackend : PortError := .new .unavailable "sqlite_storage.execute"

variable (hashing : StatsHashing) (world : World) (process : Process)

abbrev World.setProcess : World := { world with process := some process }

def recordInto (event : StatsEvent) : World × Output :=
  match process.accumulator.recordEvent hashing event with
  | .error error => (world.setProcess process, .recorded (.error error))
  | .ok accumulator =>
    ({ world with
        process := some { process with accumulator }
        history := { world.history with accepted := event ::ₘ world.history.accepted } },
      .recorded (.ok event))

/-- The start of `flush`, up to the epoch swap. -/
def beginFlush : World × Output :=
  let pendingBatches := process.ledger.pending.length
  let pendingEvents := process.ledger.pendingEventCount
  if maxPendingStatsBatches ≤ pendingBatches ∨ maxPendingStatsEvents ≤ pendingEvents then
    (world, .pendingLimitExceeded pendingBatches pendingEvents
      process.accumulator.activeEventCount)
  else
    match process.accumulator.trySwapEpoch (maxPendingStatsEvents - pendingEvents) with
    | .error activeEvents =>
      (world, .pendingLimitExceeded pendingBatches pendingEvents activeEvents)
    | .ok (snapshot, accumulator) =>
      (world.setProcess { process with accumulator, phase := .swapped snapshot },
        .done)

def enqueueSnapshot (snapshot : StatsSnapshot) : World × Output :=
  if snapshot.events.length = 0 then
    (world.setProcess { process with phase := .draining }, .done)
  else
    match process.ledger.enqueue snapshot with
    | .ok ledger =>
      (world.setProcess { process with ledger, phase := .draining }, .done)
    | .error error =>
      -- The snapshot is dropped together with the failed call.
      ({ world with
          process := some { process with phase := .idle }
          history := { world.history with
            lost := world.history.lost + ↑snapshot.events } },
        .ledgerFailed error)

/-- Note a batch when a transaction applies it for the first time. -/
def History.commitBatch (history : History) (database : StatsDatabase) (batch : StatsBatch) :
    History :=
  if (database.batchLedger.lookup batch.batchId).isSome then history
  else { history with committed := history.committed ++ [batch] }

/-- One iteration of the loop of `flush`: hand a batch to the backend. -/
def executeBatch (batch : StatsBatch) (outcome : Outcome) : World × Output :=
  let failed : Process :=
    { process with ledger := process.ledger.markFailed batch.batchId, phase := .idle }
  match applyStatsBatch hashing world.database batch with
  | .error error =>
    let process := match outcome with
      | .droppedBeforeCommit | .droppedAfterCommit => { process with phase := .idle }
      | _ => failed
    (world.setProcess process, .backend (.error error))
  | .ok database =>
    let database := if outcome.commits then database else world.database
    let history := if outcome.commits then world.history.commitBatch world.database batch
      else world.history
    match outcome with
    | .succeeds =>
      (⟨database, some { process with phase := .executed batch.batchId }, history⟩,
        .backend (.ok ()))
    | .failsBeforeCommit | .failsAfterCommit =>
      (⟨database, some failed, history⟩, .backend (.error unavailableBackend))
    | .droppedBeforeCommit | .droppedAfterCommit =>
      (⟨database, some { process with phase := .idle }, history⟩, .done)

def publishWith (floor : Nat) (keepFromDayUtc : Int) (outcome : Outcome) : World × Output :=
  match publishRetention world.database keepFromDayUtc floor with
  | .error error =>
    (world.setProcess { process with phase := .idle }, .backend (.error error))
  | .ok database =>
    let database := if outcome.commits then database else world.database
    match outcome with
    | .succeeds =>
      ({ world with database, process := some { process with phase := .published floor } },
        .backend (.ok ()))
    | _ =>
      ({ world with database, process := some { process with phase := .idle } },
        .backend (.error unavailableBackend))

def stepProcess : Action → Option (World × Output)
  | .start => none
  | .crash => some ({ world with
      process := none
      history := { world.history with
        lost := world.history.lost + process.held world.history.committed } }, .done)
  | .beginRecord dayUtc dimensions =>
    match process.accumulator.allocate with
    | .error error => some (world, .allocated (.error error))
    | .ok (sequence, accumulator) => some (world.setProcess { process with
        accumulator, calls := process.calls ++ [⟨sequence, dayUtc, dimensions⟩] },
        .allocated (.ok sequence))
  | .finishRecord index =>
    match process.calls[index]? with
    | none => none
    | some call =>
      let process := { process with calls := process.calls.eraseIdx index }
      match StatsEvent.new call.sequence call.dayUtc call.dimensions with
      | .error error =>
        some (world.setProcess process, .recorded (.error (.invalidEvent error)))
      | .ok event => some (recordInto hashing world process event)
  | .recordEvent event => some (recordInto hashing world process event)
  | .beginFlush =>
    match process.phase with
    | .idle =>
      -- The epoch number has no successor after the last one: the swap panics.
      if u64Size ≤ process.accumulator.epoch + 1 then none
      else some (beginFlush world process)
    | _ => none
  | .enqueue =>
    match process.phase with
    | .swapped snapshot => some (enqueueSnapshot world process snapshot)
    | _ => none
  | .execute outcome =>
    match process.phase, process.ledger.nextPendingBatch with
    | .draining, some batch => some (executeBatch hashing world process batch outcome)
    | _, _ => none
  | .acknowledge =>
    match process.phase with
    | .executed batchId =>
      match process.ledger.commit batchId with
      | .ok ledger => some (world.setProcess { process with ledger, phase := .draining }, .done)
      | .error error => some (world.setProcess { process with phase := .idle }, .ledgerFailed error)
    | _ => none
  | .finishFlush =>
    match process.phase, process.ledger.nextPendingBatch with
    | .draining, none => some (world.setProcess { process with phase := .idle }, .done)
    | _, _ => none
  | .beginRetention =>
    match process.phase with
    | .idle => some (world.setProcess { process with
        phase := .retaining process.ledger.replayFloorBatchId }, .done)
    | _ => none
  | .publish keepFromDayUtc outcome =>
    match process.phase with
    | .retaining floor => some (publishWith world process floor keepFromDayUtc outcome)
    | _ => none
  | .reclaim =>
    match process.phase with
    | .published floor => some (world.setProcess { process with
        ledger := process.ledger.reclaimCommittedBefore floor, phase := .idle }, .done)
    | _ => none
  | .release =>
    match process.phase with
    | .retaining _ => some (world.setProcess { process with phase := .idle }, .done)
    | _ => none

/-- A step of the whole system. -/
def step (action : Action) : Option (World × Output) :=
  match world.process with
  | some process => stepProcess hashing world process action
  | none =>
    match action with
    | .start =>
      match retentionBootstrap world.database with
      | .error error => some (world, .started (.error error))
      | .ok nextBatchId => some (world.setProcess
          ⟨.withDefaultShards, .withNextBatchId nextBatchId, .idle, []⟩, .started (.ok nextBatchId))
    | _ => none

end FluxDns.Storage.Stats
