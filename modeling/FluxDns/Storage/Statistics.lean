import Mathlib.Data.List.Sort
import FluxDns.Ports
import FluxDns.Time
import FluxDns.Library.AssociationList

/-!
# Statistics events, batches and tables

Events are collected in the shards of an epoch.  A flush turns the epoch into a numbered batch that
waits in the in-memory ledger until the database has applied it; the database keeps the numbers of
the applied batches next to the counters.
-/

namespace FluxDns.Storage

open List AList PortError

inductive StatsDimensionKind where
  | clientBucket
  | transport
  | strategy
  | source
  | upstream
  | rcode
  | cacheStatus
  | attemptOutcome
  deriving DecidableEq

inductive ConfiguredIdKind where
  | clientBucket
  | strategy
  | upstream
  | listener
  | route
  deriving DecidableEq

/-- An id of the configuration. -/
structure ConfiguredId where
  kind : ConfiguredIdKind
  value : String
  deriving DecidableEq

inductive TransportClass where
  | datagram
  | stream
  | multiplexed
  deriving DecidableEq

inductive StatsSource where
  | cache
  | hosts
  | ruleSet
  | upstream
  deriving DecidableEq

inductive CacheStatus where
  | disabled
  | miss
  | fresh
  | stale
  | expired
  | storeUnavailable
  | writeRejected
  deriving DecidableEq

inductive OutcomeClass where
  | success
  | failure
  | timeout
  | cancelled
  | rejected
  | dropped
  deriving DecidableEq

inductive StatsDimensionValue where
  | configuredId (id : ConfiguredId)
  | transport (value : TransportClass)
  | source (value : StatsSource)
  | rcode (value : UInt16)
  | cacheStatus (value : CacheStatus)
  | attemptOutcome (value : OutcomeClass)
  deriving DecidableEq

/-- A dimension of an event. -/
structure StatsDimension where
  kind : StatsDimensionKind
  value : StatsDimensionValue
  deriving DecidableEq

inductive StatsEventError where
  | invalidDimension
  | configuredIdKindMismatch
  | duplicateDimension
  | tooManyDimensions

def configuredIdKindMatches : StatsDimensionKind → ConfiguredIdKind → Bool
  | .clientBucket, .clientBucket | .strategy, .strategy | .upstream, .upstream => true
  | _, _ => false

def StatsDimension.validate (dimension : StatsDimension) : Except StatsEventError Unit :=
  match dimension.value, dimension.kind with
  | .configuredId id, kind =>
    if configuredIdKindMatches kind id.kind then .ok () else .error .configuredIdKindMismatch
  | .transport _, .transport | .source _, .source | .rcode _, .rcode
  | .cacheStatus _, .cacheStatus | .attemptOutcome _, .attemptOutcome => .ok ()
  | _, _ => .error .invalidDimension

/-- The `dimension_kind` column. -/
def StatsDimensionKind.databaseName : StatsDimensionKind → String
  | .clientBucket => "client_bucket"
  | .transport => "transport"
  | .strategy => "strategy"
  | .source => "source"
  | .upstream => "upstream"
  | .rcode => "rcode"
  | .cacheStatus => "cache_status"
  | .attemptOutcome => "attempt_outcome"

/-- The `dimension_value` column. -/
def StatsDimensionValue.databaseText : StatsDimensionValue → String
  | .configuredId id => id.value
  | .transport .datagram => "datagram"
  | .transport .stream => "stream"
  | .transport .multiplexed => "multiplexed"
  | .source .cache => "cache"
  | .source .hosts => "hosts"
  | .source .ruleSet => "rule_set"
  | .source .upstream => "upstream"
  | .rcode value => toString value.toNat
  | .cacheStatus .disabled => "disabled"
  | .cacheStatus .miss => "miss"
  | .cacheStatus .fresh => "fresh"
  | .cacheStatus .stale => "stale"
  | .cacheStatus .expired => "expired"
  | .cacheStatus .storeUnavailable => "store_unavailable"
  | .cacheStatus .writeRejected => "write_rejected"
  | .attemptOutcome .success => "success"
  | .attemptOutcome .failure => "failure"
  | .attemptOutcome .timeout => "timeout"
  | .attemptOutcome .cancelled => "cancelled"
  | .attemptOutcome .rejected => "rejected"
  | .attemptOutcome .dropped => "dropped"

def StatsDimension.databaseParts (dimension : StatsDimension) : String × String :=
  (dimension.kind.databaseName, dimension.value.databaseText)

theorem StatsDimensionKind.databaseName_injective :
    Function.Injective StatsDimensionKind.databaseName := by
  intro left right
  cases left <;> cases right <;> simp [StatsDimensionKind.databaseName]

def maxStatsDimensions : Nat := 8

/-- The loop of `StatsEvent::new`: every dimension is valid and no kind comes twice. -/
def checkDimensions : List StatsDimensionKind → List StatsDimension → Except StatsEventError Unit
  | _, [] => .ok ()
  | seen, dimension :: dimensions =>
    match dimension.validate with
    | .error error => .error error
    | .ok () =>
      if dimension.kind ∈ seen then .error .duplicateDimension
      else checkDimensions (dimension.kind :: seen) dimensions

theorem kinds_nodup_of_checkDimensions {seen : List StatsDimensionKind}
    {dimensions : List StatsDimension} (checked : checkDimensions seen dimensions = .ok ()) :
    (dimensions.map (·.kind)).Nodup ∧ ∀ kind ∈ dimensions.map (·.kind), kind ∉ seen := by
  induction dimensions generalizing seen with
  | nil => simp
  | cons dimension dimensions induction =>
    rw [checkDimensions] at checked
    split at checked <;> try cases checked
    split at checked <;> try cases checked
    next fresh =>
    obtain ⟨nodup, unseen⟩ := induction checked
    simp only [map_cons, nodup_cons, forall_mem_cons]
    refine ⟨⟨fun again => unseen _ again mem_cons_self, nodup⟩, fresh, ?_⟩
    exact fun kind mem again => unseen kind mem (mem_cons_of_mem _ again)

/-- A request to be counted.  It has at most one dimension of each kind. -/
structure StatsEvent where
  sequence : Nat
  dayUtc : Int
  dimensions : List StatsDimension
  kinds_nodup : (dimensions.map (·.kind)).Nodup
  deriving DecidableEq

def StatsEvent.new (sequence : Nat) (dayUtc : Int) (dimensions : List StatsDimension) :
    Except StatsEventError StatsEvent :=
  if maxStatsDimensions < dimensions.length then .error .tooManyDimensions
  else
    match checked : checkDimensions [] dimensions with
    | .error error => .error error
    | .ok () => .ok ⟨sequence, dayUtc, dimensions, (kinds_nodup_of_checkDimensions checked).1⟩

/-- The rows of `stats_daily_dimension` that an event counts in. -/
def StatsEvent.dimensionRows (event : StatsEvent) : List (Int × String × String) :=
  event.dimensions.map fun dimension => (event.dayUtc, dimension.databaseParts)

theorem StatsEvent.nodup_dimensionRows (event : StatsEvent) : event.dimensionRows.Nodup := by
  have named := event.kinds_nodup.map StatsDimensionKind.databaseName_injective
  refine Nodup.of_map (fun row => row.2.1) ?_
  rw [StatsEvent.dimensionRows, map_map]
  rw [map_map] at named
  exact named

/-- The events of one epoch under a batch id. -/
structure StatsBatch where
  batchId : Nat
  maxEventSequence : Nat
  counterEpoch : Nat
  events : List StatsEvent

/-- The hash functions of the standard library. -/
structure StatsHashing where
  /-- The hash that selects a shard. -/
  shard : Int → List StatsDimension → Nat
  /-- `stats_fingerprint` and the equal `fingerprint` of the ledger. -/
  fingerprint : StatsBatch → UInt64

/-- One shard of the accumulator. -/
structure Shard where
  totals : Map Int Nat
  dimensions : Map (Int × StatsDimension) Nat
  events : List StatsEvent
  maxEventSequence : Nat

def Shard.empty : Shard := ⟨∅, ∅, [], 0⟩

def defaultShardCount : Nat := 16

/-- The events of the active epoch. -/
structure StatsAccumulator where
  nextEventSequence : Nat
  epoch : Nat
  shards : List Shard
  shards_length : shards.length = defaultShardCount

def StatsAccumulator.withDefaultShards : StatsAccumulator :=
  ⟨1, 0, replicate defaultShardCount .empty, by simp⟩

inductive StatsAccumulatorError where
  | invalidEvent (error : StatsEventError)
  | counterOverflow
  | sequenceExhausted

variable (accumulator : StatsAccumulator)

/-- `epoch_event_count`. -/
def StatsAccumulator.activeEventCount : Nat :=
  (accumulator.shards.map fun shard => shard.events.length).sum

/-- All events of the active epoch. -/
def StatsAccumulator.events (accumulator : StatsAccumulator) : List StatsEvent :=
  accumulator.shards.flatMap (·.events)

def StatsAccumulator.allocate : Except StatsAccumulatorError (Nat × StatsAccumulator) :=
  if accumulator.nextEventSequence + 1 < u64Size then
    .ok (accumulator.nextEventSequence,
      { accumulator with nextEventSequence := accumulator.nextEventSequence + 1 })
  else .error .sequenceExhausted

/-- Whether one of the counters of an event is full. -/
def Shard.overflows (shard : Shard) (event : StatsEvent) : Bool :=
  decide (u64Size ≤ shard.totals.tally event.dayUtc + 1) ||
    event.dimensions.any fun dimension =>
      decide (u64Size ≤ shard.dimensions.tally (event.dayUtc, dimension) + 1)

def Shard.push (shard : Shard) (event : StatsEvent) : Shard where
  totals := shard.totals.increment event.dayUtc
  dimensions := (event.dimensions.map fun dimension => (event.dayUtc, dimension)).foldl
    increment shard.dimensions
  events := shard.events ++ [event]
  maxEventSequence := max shard.maxEventSequence event.sequence

def StatsAccumulator.recordEvent (hashing : StatsHashing) (accumulator : StatsAccumulator)
    (event : StatsEvent) : Except StatsAccumulatorError StatsAccumulator :=
  if u64Size ≤ event.sequence + 1 then .error .sequenceExhausted
  else
    let index := hashing.shard event.dayUtc event.dimensions % accumulator.shards.length
    if maxStatsDimensions < event.dimensions.length then
      .error (.invalidEvent .tooManyDimensions)
    else if (accumulator.shards[index]?).any (·.overflows event) then .error .counterOverflow
    else .ok {
      nextEventSequence := max accumulator.nextEventSequence (event.sequence + 1)
      epoch := accumulator.epoch
      shards := accumulator.shards.modify index (·.push event)
      shards_length := by rw [length_modify, accumulator.shards_length] }

/-- The events of an epoch that has ended. -/
structure StatsSnapshot where
  counterEpoch : Nat
  maxEventSequence : Nat
  events : List StatsEvent

/-- `snapshot_epoch`: the events of all shards in the order of their sequence numbers. -/
def StatsAccumulator.snapshotEpoch : StatsSnapshot where
  counterEpoch := accumulator.epoch
  maxEventSequence := (accumulator.shards.map (·.maxEventSequence)).foldl max 0
  events := accumulator.events.insertionSort fun left right => left.sequence ≤ right.sequence

/-- `try_swap_epoch`: the epoch is kept when it has more events than allowed. -/
def StatsAccumulator.trySwapEpoch (maxEventCount : Nat) :
    Except Nat (StatsSnapshot × StatsAccumulator) :=
  if maxEventCount < accumulator.activeEventCount then .error accumulator.activeEventCount
  else .ok (accumulator.snapshotEpoch,
    { accumulator with
      epoch := accumulator.epoch + 1
      shards := replicate defaultShardCount .empty
      shards_length := by simp })

theorem events_modify {shards : List Shard} {index : Nat} (bound : index < shards.length)
    (event : StatsEvent) :
    ((shards.modify index (·.push event)).flatMap (·.events)).Perm
      (event :: shards.flatMap (·.events)) := by
  induction shards generalizing index with
  | nil => simp at bound
  | cons head tail induction =>
    cases index with
    | zero =>
      simp only [modify_zero_cons, flatMap_cons, Shard.push, append_assoc]
      exact perm_middle
    | succ index =>
      refine ((induction (Nat.lt_of_succ_lt_succ bound)).append_left _).trans ?_
      exact perm_middle

theorem events_recordEvent {hashing : StatsHashing} {accumulator next : StatsAccumulator}
    {event : StatsEvent} (recorded : accumulator.recordEvent hashing event = .ok next) :
    next.events.Perm (event :: accumulator.events) := by
  simp only [StatsAccumulator.recordEvent] at recorded
  split at recorded <;> try cases recorded
  split at recorded <;> try cases recorded
  split at recorded <;> cases recorded
  refine events_modify (Nat.mod_lt _ ?_) event
  rw [accumulator.shards_length]
  decide

theorem snapshotEpoch_events : accumulator.snapshotEpoch.events.Perm accumulator.events :=
  perm_insertionSort _ _

/-- A batch that is not acknowledged yet. -/
structure PendingStatsBatch where
  batch : StatsBatch
  attempts : Nat

/-- What is kept of an acknowledged batch. -/
structure BatchReceipt where
  batchId : Nat
  maxEventSequence : Nat
  counterEpoch : Nat

inductive BatchLedgerError where
  | emptySnapshot
  | batchIdExhausted
  | unknownBatch

/-- The in-memory ledger; the pending batches are listed in the order of their ids. -/
structure BatchLedger where
  nextBatchId : Nat
  pending : List PendingStatsBatch
  committed : Map Nat BatchReceipt

def BatchLedger.withNextBatchId (nextBatchId : Nat) : BatchLedger := ⟨nextBatchId, [], ∅⟩

def insertPending (entry : PendingStatsBatch) : List PendingStatsBatch → List PendingStatsBatch
  | [] => [entry]
  | head :: tail =>
    if entry.batch.batchId < head.batch.batchId then entry :: head :: tail
    else if entry.batch.batchId = head.batch.batchId then entry :: tail
    else head :: insertPending entry tail

def StatsSnapshot.intoBatch (snapshot : StatsSnapshot) (batchId : Nat) : StatsBatch :=
  ⟨batchId, snapshot.maxEventSequence, snapshot.counterEpoch, snapshot.events⟩

variable (ledger : BatchLedger)

def BatchLedger.enqueue (snapshot : StatsSnapshot) : Except BatchLedgerError BatchLedger :=
  if snapshot.events = [] then .error .emptySnapshot
  else if u64Size ≤ ledger.nextBatchId + 1 then .error .batchIdExhausted
  else .ok { ledger with
    nextBatchId := ledger.nextBatchId + 1
    pending := insertPending ⟨snapshot.intoBatch ledger.nextBatchId, 0⟩ ledger.pending }

def BatchLedger.nextPendingBatch : Option StatsBatch :=
  ledger.pending.head?.map (·.batch)

def BatchLedger.markFailed (batchId : Nat) : BatchLedger :=
  { ledger with
    pending := ledger.pending.map fun entry =>
      if entry.batch.batchId = batchId then
        { entry with attempts := min (entry.attempts + 1) (u32Size - 1) }
      else entry }

def BatchLedger.commit (batchId : Nat) : Except BatchLedgerError BatchLedger :=
  if (ledger.committed.lookup batchId).isSome then .ok ledger
  else
    match ledger.pending.find? (·.batch.batchId = batchId) with
    | none => .error .unknownBatch
    | some entry => .ok { ledger with
        pending := ledger.pending.filter (·.batch.batchId ≠ batchId)
        committed := ledger.committed.insert batchId
          ⟨batchId, entry.batch.maxEventSequence, entry.batch.counterEpoch⟩ }

def BatchLedger.pendingEventCount : Nat :=
  (ledger.pending.map fun entry => entry.batch.events.length).sum

def BatchLedger.replayFloorBatchId : Nat :=
  match ledger.pending with
  | [] => ledger.nextBatchId
  | entry :: _ => entry.batch.batchId

def BatchLedger.reclaimCommittedBefore (replayFloorBatchId : Nat) : BatchLedger :=
  { ledger with
    committed := ledger.committed.retain fun batchId _ => decide (replayFloorBatchId ≤ batchId) }

/-- A row of `stats_batch_ledger`. -/
structure LedgerRow where
  maxEventSeq : Nat
  counterEpoch : Nat
  payloadHash : UInt64
  deriving DecidableEq

/-- The row of `retention_state`. -/
structure RetentionState where
  retiredBeforeDayUtc : Int
  replayFloorBatchId : Nat

/-- The statistics tables. -/
structure StatsDatabase where
  dailyTotal : Map Int Nat
  dailyDimension : Map (Int × String × String) Nat
  batchLedger : Map Nat LedgerRow
  retentionState : Option RetentionState

def StatsDatabase.empty : StatsDatabase := ⟨∅, ∅, ∅, none⟩

variable (database : StatsDatabase)

/-- Whether a day is at or after the retention watermark. -/
def StatsDatabase.keepsDay (dayUtc : Int) : Bool :=
  database.retentionState.all fun state => decide (state.retiredBeforeDayUtc ≤ dayUtc)

/-- `apply_stats_batch`; on an error the transaction is rolled back. -/
def applyStatsBatch (hashing : StatsHashing) (database : StatsDatabase) (batch : StatsBatch) :
    Except PortError StatsDatabase :=
  let operation := "sqlite_storage.stats_batch"
  if batch.batchId = 0 ∨ batch.events = [] then
    .error ((new .invalidInput operation).withSafeContext "empty or invalid batch")
  else if i64Bound ≤ batch.batchId then .error (.new .resourceExhausted operation)
  else
    match database.batchLedger.lookup batch.batchId with
    | some row =>
      if row.maxEventSeq = min batch.maxEventSequence (i64Bound - 1) ∧
          row.counterEpoch = min batch.counterEpoch (i64Bound - 1) ∧
          row.payloadHash = hashing.fingerprint batch then .ok database
      else
        .error ((new .corruptData operation).withSafeContext "batch payload conflict")
    | none =>
      if (batch.events.map (·.sequence)).foldl max 0 ≠ batch.maxEventSequence ∨
          ¬(batch.events.map (·.sequence)).Nodup then
        .error ((new .invalidInput operation).withSafeContext "invalid event sequence")
      else if i64Bound ≤ batch.maxEventSequence ∨ i64Bound ≤ batch.counterEpoch then
        .error (.new .resourceExhausted operation)
      else
        let kept := batch.events.filter fun event => database.keepsDay event.dayUtc
        .ok { database with
          dailyTotal := (kept.map (·.dayUtc)).foldl increment database.dailyTotal
          dailyDimension :=
            (kept.flatMap (·.dimensionRows)).foldl increment database.dailyDimension
          batchLedger := database.batchLedger.insert batch.batchId
            ⟨batch.maxEventSequence, batch.counterEpoch, hashing.fingerprint batch⟩ }

/-- `publish_retention`: the watermark and the replay floor only grow, and what lies before them is
deleted. -/
def publishRetention (keepFromDayUtc : Int)
    (replayFloorBatchId : Nat) : Except PortError StatsDatabase :=
  if replayFloorBatchId = 0 ∨ i64Bound ≤ replayFloorBatchId then
    .error (.new .invalidInput "sqlite_storage.publish_retention")
  else
    let retiredBeforeDayUtc := database.retentionState.elim keepFromDayUtc fun state =>
      max state.retiredBeforeDayUtc keepFromDayUtc
    let floor := database.retentionState.elim replayFloorBatchId fun state =>
      max state.replayFloorBatchId replayFloorBatchId
    .ok {
      dailyTotal := database.dailyTotal.retain fun dayUtc _ =>
        decide (retiredBeforeDayUtc ≤ dayUtc)
      dailyDimension := database.dailyDimension.retain fun row _ =>
        decide (retiredBeforeDayUtc ≤ row.1)
      batchLedger := database.batchLedger.retain fun batchId _ => decide (floor ≤ batchId)
      retentionState := some ⟨retiredBeforeDayUtc, floor⟩ }

/-- The first number above the rows of the ledger. -/
def nextLedgerBatchId : Except PortError Nat :=
  match database.batchLedger.keys.max? with
  | none => .ok 1
  | some maxBatchId =>
    if 0 < maxBatchId then .ok (maxBatchId + 1)
    else .error (.new .corruptData "sqlite_storage.retention_bootstrap")

/-- `retention_bootstrap`: the batch id that a new process starts with. -/
def retentionBootstrap : Except PortError Nat :=
  match nextLedgerBatchId database with
  | .error error => .error error
  | .ok ledgerNext =>
    let next := database.retentionState.elim ledgerNext fun state =>
      max ledgerNext state.replayFloorBatchId
    if i64Bound ≤ next then
      .error (.new .resourceExhausted "sqlite_storage.retention_bootstrap")
    else .ok next

end FluxDns.Storage
