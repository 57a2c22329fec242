import FluxDns.Library.Execution
import FluxDns.Storage.StatsPersistence

/-!
# The invariant of the statistics pipeline

The tables count exactly the committed batches.  A committed batch is still in the batch ledger of
the database or lies below the stored replay floor, no pending batch lies below that floor, and so
no batch is applied twice and no committed number is given away again.
-/

namespace FluxDns.Storage.Stats

open BatchLedger List AList StatsDatabase

variable {hashing : StatsHashing}

def rowOf (hashing : StatsHashing) (batch : StatsBatch) : LedgerRow :=
  ⟨batch.maxEventSequence, batch.counterEpoch, hashing.fingerprint batch⟩

def batchIds (batches : List StatsBatch) : List Nat := batches.map (·.batchId)

/-- What a transaction checks of a batch before it applies it. -/
structure Storable (batch : StatsBatch) : Prop where
  batchId_pos : batch.batchId ≠ 0
  batchId_lt : batch.batchId < i64Bound
  events_nonempty : batch.events ≠ []
  maxEventSequence_lt : batch.maxEventSequence < i64Bound
  counterEpoch_lt : batch.counterEpoch < i64Bound

/-- What the database says about the committed batches. -/
structure DatabaseInvariant (hashing : StatsHashing) (database : StatsDatabase)
    (committed : List StatsBatch) : Prop where
  ids_nodup : (batchIds committed).Nodup
  storable : ∀ batch ∈ committed, Storable batch
  row_of_committed : ∀ batch ∈ committed,
    database.batchLedger.lookup batch.batchId = some (rowOf hashing batch) ∨
      ∃ state, database.retentionState = some state ∧ batch.batchId < state.replayFloorBatchId
  committed_of_row : ∀ batchId row, database.batchLedger.lookup batchId = some row →
    ∃ batch ∈ committed, batch.batchId = batchId
  total_eq : ∀ dayUtc, database.dailyTotal.tally dayUtc =
    if database.keepsDay dayUtc then
      ((committed.flatMap (·.events)).map (·.dayUtc)).count dayUtc else 0
  dimension_eq : ∀ row, database.dailyDimension.tally row =
    if database.keepsDay row.1 then
      ((committed.flatMap (·.events)).flatMap (·.dimensionRows)).count row else 0

/-- The batches that wait in memory. -/
def pendingBatches (ledger : BatchLedger) : List StatsBatch := ledger.pending.map (·.batch)

/-- What the in-memory ledger says about the committed batches. -/
structure LedgerInvariant (database : StatsDatabase) (committed : List StatsBatch)
    (ledger : BatchLedger) : Prop where
  floor_pos : 0 < ledger.replayFloorBatchId
  /-- The pending ids are consecutive and end before the next id. -/
  pending_ids : batchIds (pendingBatches ledger) =
    range' ledger.replayFloorBatchId (pendingBatches ledger).length
  floor_add : ledger.replayFloorBatchId + (pendingBatches ledger).length = ledger.nextBatchId
  stored_floor_le : ∀ state, database.retentionState = some state →
    state.replayFloorBatchId ≤ ledger.replayFloorBatchId
  committed_lt : ∀ batch ∈ committed, batch.batchId < ledger.nextBatchId
  committed_pending : ∀ batch ∈ committed, ∀ pending ∈ pendingBatches ledger,
    pending.batchId = batch.batchId → pending = batch
  acknowledged_lt : ∀ batchId receipt, ledger.committed.lookup batchId = some receipt →
    batchId < ledger.replayFloorBatchId
  floor_le : ledger.replayFloorBatchId ≤ i64Bound
  pending_le : (pendingBatches ledger).length ≤ maxPendingStatsBatches

/-- What the holder of the flush lock relies on. -/
def PhaseInvariant (committed : List StatsBatch) (ledger : BatchLedger) : Phase → Prop
  | .swapped _ => (pendingBatches ledger).length < maxPendingStatsBatches
  | .executed batchId => ∃ batch, ledger.nextPendingBatch = some batch ∧
      batch.batchId = batchId ∧ batch ∈ committed
  | .retaining floor => floor = ledger.replayFloorBatchId
  | .idle | .draining | .published _ => True

/-- What holds of a running process. -/
structure ProcessInvariant (database : StatsDatabase) (committed : List StatsBatch)
    (process : Process) : Prop where
  ledger : LedgerInvariant database committed process.ledger
  phase : PhaseInvariant committed process.ledger process.phase

/-- The events in the memory of the process, if there is one. -/
def World.held (world : World) : Multiset StatsEvent :=
  match world.process with
  | none => 0
  | some process => process.held world.history.committed

/-- What holds between any two steps. -/
structure Invariant (hashing : StatsHashing) (world : World) : Prop where
  database : DatabaseInvariant hashing world.database world.history.committed
  process : ∀ process, world.process = some process →
    ProcessInvariant world.database world.history.committed process
  conserved : world.history.accepted =
    world.history.lost + world.held + world.history.committedEvents

theorem invariant_initial : Invariant hashing initial where
  database := by
    constructor <;> simp [initial, empty, batchIds]
  process := by simp [initial]
  conserved := by simp [initial, World.held, History.committedEvents]

section Database

variable {database next : StatsDatabase} {committed : List StatsBatch} {batch : StatsBatch}
  {nextBatchId : Nat} {keepFromDayUtc : Int}

def applied (hashing : StatsHashing) (database : StatsDatabase) (batch : StatsBatch) :
    StatsDatabase :=
  let kept := batch.events.filter fun event => database.keepsDay event.dayUtc
  { database with
    dailyTotal := (kept.map (·.dayUtc)).foldl increment database.dailyTotal
    dailyDimension := (kept.flatMap (·.dimensionRows)).foldl increment database.dailyDimension
    batchLedger := database.batchLedger.insert batch.batchId (rowOf hashing batch) }

/-- A transaction either finds the number of the batch in the ledger or applies the batch. -/
theorem applyStatsBatch_eq_ok (success : applyStatsBatch hashing database batch = .ok next) :
    ((database.batchLedger.lookup batch.batchId).isSome ∧ next = database) ∨
      (database.batchLedger.lookup batch.batchId = none ∧ Storable batch ∧
        next = applied hashing database batch) := by
  unfold applyStatsBatch at success
  split at success <;> try cases success
  next nonempty =>
  split at success <;> try cases success
  next small =>
  split at success
  · next row found =>
    split at success <;> cases success
    simp [found]
  · next absent =>
    split at success <;> try cases success
    split at success <;> cases success
    next bounded =>
    simp only [not_or, not_le] at nonempty bounded
    exact .inr ⟨absent, ⟨nonempty.1, Nat.lt_of_not_le small, nonempty.2, bounded.1, bounded.2⟩, rfl⟩

/-- A batch whose row is in the ledger is accepted again and changes nothing. -/
theorem applyStatsBatch_again (storable : Storable batch)
    (found : database.batchLedger.lookup batch.batchId = some (rowOf hashing batch)) :
    applyStatsBatch hashing database batch = .ok database := by
  obtain ⟨positive, small, nonempty, sequence, epoch⟩ := storable
  have sequence_min : min batch.maxEventSequence (i64Bound - 1) = batch.maxEventSequence := by
    omega
  have epoch_min : min batch.counterEpoch (i64Bound - 1) = batch.counterEpoch := by omega
  simp [applyStatsBatch, found, rowOf, positive, nonempty, small, sequence_min, epoch_min]

theorem mem_dimensionRows_day {event : StatsEvent} {row : Int × String × String}
    (mem : row ∈ event.dimensionRows) : row.1 = event.dayUtc := by
  simp only [StatsEvent.dimensionRows, mem_map] at mem
  obtain ⟨dimension, -, rfl⟩ := mem
  rfl

/-- Rows that name the day of their event are kept or left out with the day. -/
theorem count_flatMap_filter_keepsDay {Row : Type} [BEq Row] [LawfulBEq Row]
    (database : StatsDatabase) (events : List StatsEvent) {rows : StatsEvent → List Row}
    (day : Row → Int) (dated : ∀ event, ∀ row ∈ rows event, day row = event.dayUtc) (row : Row) :
    ((events.filter fun event => database.keepsDay event.dayUtc).flatMap rows).count row =
      if database.keepsDay (day row) then (events.flatMap rows).count row else 0 := by
  induction events with
  | nil => simp
  | cons event events induction =>
    by_cases mem : row ∈ rows event
    · have day := dated event row mem
      cases kept : database.keepsDay event.dayUtc <;> simp_all
    · have absent : (rows event).count row = 0 := count_eq_zero.mpr mem
      cases kept : database.keepsDay event.dayUtc <;> simp_all

theorem keepsDay_applied (hashing : StatsHashing) (database : StatsDatabase) (batch : StatsBatch) :
    (applied hashing database batch).keepsDay = database.keepsDay := rfl

theorem publishRetention_eq_ok {floor : Nat}
    (success : publishRetention database keepFromDayUtc floor = .ok next) :
    (∃ state, next.retentionState = some state ∧
      (∀ dayUtc, state.retiredBeforeDayUtc ≤ dayUtc ↔
        database.keepsDay dayUtc = true ∧ keepFromDayUtc ≤ dayUtc) ∧
      (∀ old, database.retentionState = some old →
        old.replayFloorBatchId ≤ state.replayFloorBatchId) ∧
      (state.replayFloorBatchId ≤ floor ∨ ∃ old, database.retentionState = some old ∧
        state.replayFloorBatchId = old.replayFloorBatchId) ∧
      next.dailyTotal = database.dailyTotal.retain (fun dayUtc _ =>
      decide (state.retiredBeforeDayUtc ≤ dayUtc)) ∧
      next.dailyDimension = database.dailyDimension.retain (fun row _ =>
      decide (state.retiredBeforeDayUtc ≤ row.1)) ∧
      next.batchLedger = database.batchLedger.retain (fun batchId _ =>
      decide (state.replayFloorBatchId ≤ batchId))) := by
  unfold publishRetention at success
  split at success <;> cases success
  refine ⟨_, rfl, ?_, ?_, ?_, rfl, rfl, rfl⟩
  all_goals
    cases stored : database.retentionState with
    | none => simp [keepsDay, stored]
    | some state =>
      simp [keepsDay, stored]
      try omega

theorem nextLedgerBatchId_eq_ok (success : nextLedgerBatchId database = .ok nextBatchId) :
    0 < nextBatchId ∧
      ∀ batchId row, database.batchLedger.lookup batchId = some row → batchId < nextBatchId := by
  unfold nextLedgerBatchId at success
  split at success
  · next empty =>
    cases success
    refine ⟨Nat.one_pos, fun batchId row found => ?_⟩
    have mem := AList.mem_keys.mp (lookup_isSome.mp (Option.isSome_of_eq_some found))
    rw [max?_eq_none_iff.mp empty] at mem
    cases mem
  · next maxBatchId largest =>
    split at success <;> cases success
    refine ⟨Nat.succ_pos _, fun batchId row found => Nat.lt_succ_of_le ?_⟩
    have mem := AList.mem_keys.mp (lookup_isSome.mp (Option.isSome_of_eq_some found))
    exact (max?_eq_some_iff.mp largest).2 batchId mem

theorem retentionBootstrap_eq_ok (success : retentionBootstrap database = .ok nextBatchId) :
    0 < nextBatchId ∧ nextBatchId < i64Bound ∧
      (∀ state, database.retentionState = some state → state.replayFloorBatchId ≤ nextBatchId) ∧
      ∀ batchId row, database.batchLedger.lookup batchId = some row → batchId < nextBatchId := by
  unfold retentionBootstrap at success
  split at success <;> try cases success
  next ledgerNext ledger =>
  obtain ⟨positive, above_rows⟩ := nextLedgerBatchId_eq_ok ledger
  dsimp only at success
  split at success <;> cases success
  next small =>
  cases stored : database.retentionState with
  | none => simp_all
  | some state =>
    simp only [stored, Option.elim_some, not_le] at small ⊢
    refine ⟨Nat.lt_of_lt_of_le positive (le_max_left _ _), small, ?_, ?_⟩
    · rintro _ ⟨⟩
      exact le_max_right _ _
    · exact fun batchId row found =>
        Nat.lt_of_lt_of_le (above_rows batchId row found) (le_max_left _ _)

variable (inv : DatabaseInvariant hashing database committed)

include inv

theorem DatabaseInvariant.applied
    (fresh : batch.batchId ∉ batchIds committed) (storable : Storable batch) :
    DatabaseInvariant hashing (applied hashing database batch) (committed ++ [batch]) := by
  obtain ⟨nodup, all_storable, rows, committed_rows, totals, dimensions⟩ := inv
  have other_id : ∀ other ∈ committed, other.batchId ≠ batch.batchId := fun other mem same =>
    fresh (mem_map.mpr ⟨other, mem, same⟩)
  constructor
  case ids_nodup =>
    rw [batchIds, map_append, map_singleton, nodup_append]
    refine ⟨nodup, nodup_singleton _, ?_⟩
    rintro batchId mem other other_mem rfl
    rw [mem_singleton] at other_mem
    exact fresh (other_mem ▸ mem)
  case storable => simpa [or_imp, forall_and] using ⟨all_storable, storable⟩
  case row_of_committed =>
    simp only [mem_append, mem_singleton, Stats.applied, lookup_insert_eq_ite]
    rintro other (mem | rfl)
    · rw [if_neg (other_id other mem)]
      exact rows other mem
    · exact .inl (if_pos rfl)
  case committed_of_row =>
    intro batchId row
    simp only [Stats.applied, lookup_insert_eq_ite]
    split
    · next same => exact fun _ => ⟨batch, by simp, same.symm⟩
    · intro found
      obtain ⟨other, mem, same⟩ := committed_rows batchId row found
      exact ⟨other, mem_append_left _ mem, same⟩
  case total_eq =>
    intro dayUtc
    rw [keepsDay_applied, Stats.applied, tally_foldl_increment, totals]
    simp only [map_eq_flatMap]
    rw [count_flatMap_filter_keepsDay database _ id (by simp)]
    split <;> simp_all
  case dimension_eq =>
    intro row
    rw [keepsDay_applied, Stats.applied, tally_foldl_increment, dimensions,
      count_flatMap_filter_keepsDay database _ Prod.fst fun _ _ => mem_dimensionRows_day]
    split <;> simp

/-- Publishing retention deletes the days before the watermark and the rows below the floor. -/
theorem DatabaseInvariant.published {floor : Nat}
    (success : publishRetention database keepFromDayUtc floor = .ok next) :
    DatabaseInvariant hashing next committed := by
  obtain ⟨state, stored, days, grows, -, totals, dimensions, ledger⟩ :=
    publishRetention_eq_ok success
  have keeps : ∀ dayUtc, next.keepsDay dayUtc = decide (state.retiredBeforeDayUtc ≤ dayUtc) := by
    simp [keepsDay, stored]
  constructor
  case ids_nodup => exact inv.ids_nodup
  case storable => exact inv.storable
  case row_of_committed =>
    intro batch mem
    rw [ledger, lookup_retain]
    by_cases below : batch.batchId < state.replayFloorBatchId
    · exact .inr ⟨state, stored, below⟩
    · obtain found | ⟨old, old_stored, old_below⟩ := inv.row_of_committed batch mem
      · simp [found, Option.filter, Nat.le_of_not_lt below]
      · exact absurd (Nat.lt_of_lt_of_le old_below (grows old old_stored)) below
  case committed_of_row =>
    intro batchId row found
    rw [ledger, lookup_retain] at found
    exact inv.committed_of_row batchId row (Option.eq_some_of_filter_eq_some found)
  case total_eq =>
    intro dayUtc
    rw [totals, keeps, tally_retain, inv.total_eq]
    split <;> simp_all
  case dimension_eq =>
    intro row
    rw [dimensions, keeps,
      tally_retain fun row : Int × String × String =>
        decide (state.retiredBeforeDayUtc ≤ row.1),
      inv.dimension_eq]
    split <;> simp_all

/-- A new process starts above every committed batch. -/
theorem DatabaseInvariant.bootstrap (success : retentionBootstrap database = .ok nextBatchId) :
    0 < nextBatchId ∧ nextBatchId < i64Bound ∧
      (∀ state, database.retentionState = some state → state.replayFloorBatchId ≤ nextBatchId) ∧
      ∀ batch ∈ committed, batch.batchId < nextBatchId := by
  obtain ⟨positive, bounded, above_floor, above_rows⟩ := retentionBootstrap_eq_ok success
  refine ⟨positive, bounded, above_floor, ?_⟩
  intro batch mem
  obtain found | ⟨state, stored, below⟩ := inv.row_of_committed batch mem
  · exact above_rows batch.batchId _ found
  · exact Nat.lt_of_lt_of_le below (above_floor state stored)

end Database

section Ledger

variable {database : StatsDatabase} {committed : List StatsBatch} {ledger next : BatchLedger}

variable {batch : StatsBatch}

theorem insertPending_of_lt {entry : PendingStatsBatch} {pending : List PendingStatsBatch}
    (above : ∀ other ∈ pending, other.batch.batchId < entry.batch.batchId) :
    insertPending entry pending = pending ++ [entry] := by
  induction pending with
  | nil => rfl
  | cons head tail induction =>
    have head_lt := above head mem_cons_self
    rw [insertPending, if_neg (Nat.not_lt_of_gt head_lt), if_neg (Nat.ne_of_gt head_lt),
      induction fun other mem => above other (mem_cons_of_mem _ mem)]
    rfl

theorem replayFloorBatchId_eq (ledger : BatchLedger) : ledger.replayFloorBatchId =
      ((pendingBatches ledger).head?.map (·.batchId)).getD ledger.nextBatchId := by
  unfold replayFloorBatchId pendingBatches
  cases ledger.pending <;> rfl

theorem nextPendingBatch_eq (ledger : BatchLedger) :
    ledger.nextPendingBatch = (pendingBatches ledger).head? := by
  rw [nextPendingBatch, pendingBatches, head?_map]

theorem mem_of_nextPendingBatch (first : ledger.nextPendingBatch = some batch) :
    batch ∈ pendingBatches ledger := by
  rw [nextPendingBatch_eq] at first
  exact mem_of_head? first

variable (inv : LedgerInvariant database committed ledger)

include inv

theorem LedgerInvariant.pending_bounds (mem : batch ∈ pendingBatches ledger) :
    ledger.replayFloorBatchId ≤ batch.batchId ∧ batch.batchId < ledger.nextBatchId := by
  have listed : batch.batchId ∈ batchIds (pendingBatches ledger) := mem_map.mpr ⟨batch, mem, rfl⟩
  rwa [inv.pending_ids, mem_range'_1, inv.floor_add] at listed

theorem LedgerInvariant.ids_nodup : (batchIds (pendingBatches ledger)).Nodup := by
  rw [inv.pending_ids]
  exact nodup_range'

/-- The invariant reads the batches of the pending entries and not their attempts. -/
theorem LedgerInvariant.of_pendingBatches_eq (same_next : next.nextBatchId = ledger.nextBatchId)
    (same_pending : pendingBatches next = pendingBatches ledger)
    (fewer : ∀ batchId receipt, next.committed.lookup batchId = some receipt →
      ledger.committed.lookup batchId = some receipt) :
    LedgerInvariant database committed next := by
  have same_floor : next.replayFloorBatchId = ledger.replayFloorBatchId := by
    rw [replayFloorBatchId_eq, replayFloorBatchId_eq, same_next, same_pending]
  obtain ⟨floor_pos, ids, added, stored, below, equal, acknowledged, small, few⟩ := inv
  constructor <;> simp only [same_floor, same_next, same_pending]
  all_goals first | assumption | skip
  exact fun batchId receipt found => acknowledged batchId receipt (fewer batchId receipt found)

omit inv

variable (ledger) (snapshot : StatsSnapshot) (batch)

theorem pendingBatches_markFailed (batchId : Nat) :
    pendingBatches (ledger.markFailed batchId) = pendingBatches ledger := by
  simp only [pendingBatches, markFailed, map_map]
  refine map_congr_left fun entry _ => ?_
  simp only [Function.comp]
  split <;> rfl

def withSnapshot : BatchLedger :=
  { ledger with
    nextBatchId := ledger.nextBatchId + 1
    pending := ledger.pending ++ [⟨snapshot.intoBatch ledger.nextBatchId, 0⟩] }

theorem pendingBatches_withSnapshot :
    pendingBatches (withSnapshot ledger snapshot) =
      pendingBatches ledger ++ [snapshot.intoBatch ledger.nextBatchId] := by
  simp [pendingBatches, withSnapshot]

theorem replayFloorBatchId_withSnapshot :
    (withSnapshot ledger snapshot).replayFloorBatchId = ledger.replayFloorBatchId := by
  unfold replayFloorBatchId withSnapshot
  cases ledger.pending <;> rfl

def acknowledged : BatchLedger :=
  { ledger with
    pending := ledger.pending.tail
    committed := ledger.committed.insert batch.batchId
      ⟨batch.batchId, batch.maxEventSequence, batch.counterEpoch⟩ }

theorem pendingBatches_acknowledged :
    pendingBatches (acknowledged ledger batch) = (pendingBatches ledger).tail := by
  simp [pendingBatches, acknowledged, map_tail]

/-- No pending batch was acknowledged, and no id is pending twice. -/
structure Ready : Prop where
  ids_nodup : (batchIds (pendingBatches ledger)).Nodup
  unacknowledged : ∀ batch ∈ pendingBatches ledger,
    ledger.committed.lookup batch.batchId = none

variable {ledger batch}

theorem nextPendingBatch_eq_some (first : ledger.nextPendingBatch = some batch) :
    ∃ entry rest, ledger.pending = entry :: rest ∧ entry.batch = batch := by
  simp only [nextPendingBatch, Option.map_eq_some_iff, head?_eq_some_iff] at first
  obtain ⟨entry, ⟨rest, pending⟩, same⟩ := first
  exact ⟨entry, rest, pending, same⟩

variable (inv : LedgerInvariant database committed ledger)

include inv

variable (room : (pendingBatches ledger).length < maxPendingStatsBatches)

include room

theorem LedgerInvariant.enqueue_eq_ok {snapshot : StatsSnapshot} (nonempty : snapshot.events ≠ []) :
    ledger.enqueue snapshot = .ok (withSnapshot ledger snapshot) := by
  have bound : ¬u64Size ≤ ledger.nextBatchId + 1 := by
    have added := inv.floor_add
    have small := inv.floor_le
    simp only [maxPendingStatsBatches, i64Bound, u64Size] at room small ⊢
    omega
  rw [enqueue, if_neg nonempty, if_neg bound, insertPending_of_lt]
  · rfl
  · intro entry mem
    exact (inv.pending_bounds (mem_map_of_mem mem)).2

theorem LedgerInvariant.withSnapshot (snapshot : StatsSnapshot) :
    LedgerInvariant database committed (withSnapshot ledger snapshot) := by
  have added := inv.floor_add
  constructor
  case floor_pos | stored_floor_le | acknowledged_lt | floor_le =>
    rw [replayFloorBatchId_withSnapshot]
    first
      | exact inv.floor_pos
      | exact inv.stored_floor_le
      | exact inv.acknowledged_lt
      | exact inv.floor_le
  case pending_ids =>
    rw [replayFloorBatchId_withSnapshot, pendingBatches_withSnapshot, batchIds, map_append,
      ← batchIds, inv.pending_ids, length_append, length_singleton,
      range'_concat]
    simp [StatsSnapshot.intoBatch, ← added]
  case floor_add =>
    rw [replayFloorBatchId_withSnapshot, pendingBatches_withSnapshot, length_append,
      length_singleton, ← Nat.add_assoc, added]
    rfl
  case committed_lt =>
    exact fun batch mem => Nat.lt_succ_of_lt (inv.committed_lt batch mem)
  case committed_pending =>
    intro batch mem pending
    rw [pendingBatches_withSnapshot, mem_append, mem_singleton]
    rintro (waiting | rfl) same
    · exact inv.committed_pending batch mem pending waiting same
    · exact absurd (inv.committed_lt batch mem) (by rw [← same]; exact lt_irrefl _)
  case pending_le =>
    rw [pendingBatches_withSnapshot, length_append, length_singleton]
    exact room

omit room

theorem LedgerInvariant.ready : Ready ledger := by
  refine ⟨inv.ids_nodup, fun batch mem => Option.eq_none_iff_forall_ne_some.mpr ?_⟩
  intro receipt found
  have below := inv.acknowledged_lt _ _ found
  have above := (inv.pending_bounds mem).1
  omega

omit inv

theorem Ready.commit_eq_ok (ready : Ready ledger) (first : ledger.nextPendingBatch = some batch) :
    ledger.commit batch.batchId = .ok (acknowledged ledger batch) := by
  have new : ¬(ledger.committed.lookup batch.batchId).isSome := by
    simp [ready.unacknowledged batch (mem_of_nextPendingBatch first)]
  obtain ⟨entry, rest, pending, rfl⟩ := nextPendingBatch_eq_some first
  have nodup := ready.ids_nodup
  simp only [pendingBatches, batchIds, pending, map_cons, nodup_cons] at nodup
  have others : rest.filter (fun other => other.batch.batchId ≠ entry.batch.batchId) = rest := by
    rw [filter_eq_self]
    intro other mem
    rw [decide_eq_true_iff]
    intro same
    exact nodup.1 (mem_map.mpr ⟨other.batch, mem_map_of_mem mem, same⟩)
  rw [commit, if_neg new, pending, find?_cons_of_pos (by simp)]
  simp only [acknowledged, pending, tail_cons]
  rw [filter_cons_of_neg (by simp), others]

theorem Ready.acknowledged (ready : Ready ledger) (first : ledger.nextPendingBatch = some batch) :
    Ready (acknowledged ledger batch) := by
  obtain ⟨entry, rest, pending, rfl⟩ := nextPendingBatch_eq_some first
  have nodup := ready.ids_nodup
  have unacknowledged := ready.unacknowledged
  simp only [pendingBatches, batchIds, pending, map_cons, nodup_cons,
    forall_mem_cons] at nodup unacknowledged
  refine ⟨?_, fun other mem => ?_⟩
  · rw [pendingBatches_acknowledged, pendingBatches, pending]
    exact nodup.2
  · rw [pendingBatches_acknowledged, pendingBatches, pending] at mem
    rw [Stats.acknowledged, AList.lookup_insert_ne]
    · exact unacknowledged.2 other mem
    · exact fun same => nodup.1 (mem_map.mpr ⟨other, mem, same⟩)

variable (inv : LedgerInvariant database committed ledger)

include inv

theorem LedgerInvariant.replayFloorBatchId_eq_first (first : ledger.nextPendingBatch = some batch) :
    ledger.replayFloorBatchId = batch.batchId ∧
      (Stats.acknowledged ledger batch).replayFloorBatchId = batch.batchId + 1 := by
  obtain ⟨entry, rest, pending, rfl⟩ := nextPendingBatch_eq_some first
  have floor : ledger.replayFloorBatchId = entry.batch.batchId := by
    rw [replayFloorBatchId, pending]
  have ids := inv.pending_ids
  have added := inv.floor_add
  simp only [pendingBatches, pending, batchIds, floor] at ids added
  refine ⟨floor, ?_⟩
  simp only [replayFloorBatchId, Stats.acknowledged, pending, tail_cons]
  cases rest with
  | nil => simpa using added.symm
  | cons second rest =>
    simp only [map_cons, length_cons, range'_succ, cons.injEq] at ids
    exact ids.2.1

theorem LedgerInvariant.acknowledged
    (first : ledger.nextPendingBatch = some batch) (small : batch.batchId < i64Bound) :
    LedgerInvariant database committed (acknowledged ledger batch) := by
  obtain ⟨floor, next_floor⟩ := inv.replayFloorBatchId_eq_first first
  obtain ⟨floor_pos, ids, added, stored, below, equal, acknowledged, -, few⟩ := inv
  obtain ⟨entry, rest, pending, rfl⟩ := nextPendingBatch_eq_some first
  have pending_eq : pendingBatches ledger = entry.batch :: rest.map (·.batch) := by
    simp [pendingBatches, pending]
  have next_pending : pendingBatches (Stats.acknowledged ledger entry.batch) =
      rest.map (·.batch) := by rw [pendingBatches_acknowledged, pending_eq, tail_cons]
  simp only [floor, pending_eq, length_cons] at ids added stored equal acknowledged few
  constructor
  all_goals try rw [next_floor]
  all_goals try rw [next_pending]
  case floor_pos => exact Nat.succ_pos _
  case pending_ids =>
    exact (cons.inj ids).2
  case floor_add =>
    change _ = ledger.nextBatchId
    omega
  case stored_floor_le => exact fun state found => Nat.le_succ_of_le (stored state found)
  case committed_lt => exact below
  case committed_pending =>
    exact fun batch mem pending waiting =>
      equal batch mem pending (mem_cons_of_mem _ waiting)
  case acknowledged_lt =>
    intro batchId receipt found
    simp only [Stats.acknowledged, lookup_insert_eq_ite] at found
    split at found
    · omega
    · exact Nat.lt_succ_of_lt (acknowledged batchId receipt found)
  case floor_le => exact small
  case pending_le => exact Nat.le_of_succ_le few

theorem LedgerInvariant.committed_append (waiting : batch ∈ pendingBatches ledger) :
    LedgerInvariant database (committed ++ [batch]) ledger := by
  refine { inv with committed_lt := ?_, committed_pending := ?_ }
  · intro other mem
    rw [mem_append, mem_singleton] at mem
    obtain mem | rfl := mem
    · exact inv.committed_lt other mem
    · exact (inv.pending_bounds waiting).2
  · intro other mem pending also_waiting same
    rw [mem_append, mem_singleton] at mem
    obtain mem | rfl := mem
    · exact inv.committed_pending other mem pending also_waiting same
    · exact inj_on_of_nodup_map inv.ids_nodup also_waiting waiting same

theorem LedgerInvariant.fresh_of_absent (stored : DatabaseInvariant hashing database committed)
    (waiting : batch ∈ pendingBatches ledger)
    (absent : database.batchLedger.lookup batch.batchId = none) :
    batch.batchId ∉ batchIds committed := by
  intro listed
  obtain ⟨other, mem, same⟩ := mem_map.mp listed
  obtain found | ⟨state, retention, below⟩ := stored.row_of_committed other mem
  · rw [same, absent] at found
    cases found
  · have floor := inv.stored_floor_le state retention
    have above := (inv.pending_bounds waiting).1
    omega

/-- A pending batch whose number has a row in the ledger table is the committed one. -/
theorem LedgerInvariant.committed_of_present (stored : DatabaseInvariant hashing database committed)
    (waiting : batch ∈ pendingBatches ledger)
    (present : (database.batchLedger.lookup batch.batchId).isSome) : batch ∈ committed := by
  obtain ⟨row, found⟩ := Option.isSome_iff_exists.mp present
  obtain ⟨other, mem, same⟩ := stored.committed_of_row _ _ found
  rwa [inv.committed_pending other mem batch waiting same.symm]

/-- Another database keeps the invariant when its floor is not above the first pending batch. -/
theorem LedgerInvariant.of_database {other : StatsDatabase}
    (floor : ∀ state, other.retentionState = some state →
      state.replayFloorBatchId ≤ ledger.replayFloorBatchId) :
    LedgerInvariant other committed ledger :=
  { inv with stored_floor_le := floor }

end Ledger

end FluxDns.Storage.Stats
