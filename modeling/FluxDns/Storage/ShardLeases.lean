import FluxDns.Library.Execution
import FluxDns.Library.Guards
import FluxDns.Storage.Retention

/-!
# Leases on the detail shards and the retention of their days

Calls that want a lease on a day, publications of a watermark and reclaims run next to each other.
Leases hold the gate for reading and the lock of their day, a publication holds the gate for
writing, and a reclaim holds the lock of the day whose files it deletes.
-/

namespace FluxDns.Storage.Retention

/-- The files of a shard. -/
inductive FileKind where
  | wal
  | shm
  | journal
  | main
  deriving DecidableEq

/-- The order in which `reclaim` deletes them. -/
def reclaimOrder : List FileKind := [.wal, .shm, .journal, .main]

/-- What the shard store has in memory. -/
structure DetailShardState where
  stopping : Bool
  retiredBefore : Option Int
  retiringDays : List Int

def DetailShardState.initial : DetailShardState := ⟨false, none, []⟩

def DetailShardState.dayIsVisible (state : DetailShardState) (dayUtc : Int) : Bool :=
  !state.stopping && state.retiredBefore.all (· ≤ dayUtc) && !state.retiringDays.contains dayUtc

def DetailShardState.publishRetiredBefore (state : DetailShardState) (dayUtc : Int) :
    DetailShardState :=
  if state.retiredBefore.all (· < dayUtc) then { state with retiredBefore := some dayUtc }
  else state

/-- What stays the same in a run. -/
structure Setting where
  calendar : Calendar
  maxActive : Nat

inductive RetentionError where
  | policy (error : RetentionPolicyError)
  | sample (error : PortError)
  | stats (error : PortError)
  | detail (error : PortError)
  | backend (error : PortError)

/-- `publish` with its frozen plan, or `run_daily`. -/
inductive PublicationCall where
  | publish (plan : RetentionPlan)
  | runDaily (policy : RetentionPolicy) (referenceDayUtc : Int)

def PublicationCall.plan (calendar : Calendar) (call : PublicationCall) (sampledBytes : Nat) :
    Except RetentionError RetentionPlan :=
  match call with
  | .publish plan => .ok plan
  | .runDaily policy referenceDayUtc =>
    (RetentionPlan.calculate calendar policy referenceDayUtc sampledBytes).mapError .policy

/-- What a reclaim reports. -/
structure ReclaimSummary where
  attempted : Nat
  reclaimed : Nat
  failed : Nat
  reclaimedBytes : Nat

def ReclaimSummary.zero : ReclaimSummary := ⟨0, 0, 0, 0⟩

/-- `saturating_add` of a `u32`. -/
def saturatingSucc (value : Nat) : Nat := min (value + 1) (u32Size - 1)

def ReclaimSummary.attempt (summary : ReclaimSummary) : ReclaimSummary :=
  { summary with attempted := saturatingSucc summary.attempted }

def ReclaimSummary.record (summary : ReclaimSummary) : Except PortError Nat → ReclaimSummary
  | .ok bytes =>
    { summary with
      reclaimed := saturatingSucc summary.reclaimed
      reclaimedBytes := min (summary.reclaimedBytes + bytes) (u64Size - 1) }
  | .error _ => { summary with failed := saturatingSucc summary.failed }

/-- The place of an `acquire` call in its code. -/
inductive LeasePhase where
  /-- It waits for the gate. -/
  | gate
  | admitted
  /-- The day was visible. -/
  | checked
  /-- The path is known and, for a reader, exists. -/
  | located
  | dayWait (lock : Nat)
  | permitWait (lock : Nat)
  | permitted (lock : Nat)
  /-- The day was visible under its lock. -/
  | opening (lock : Nat)
  /-- The lease is outstanding. -/
  | granted (lock : Nat)

/-- The place of `publish` and `run_daily` in their code. -/
inductive PublicationPhase where
  | runLock
  | gate
  | entered
  | sampling
  | stats (plan : RetentionPlan) (manifestDays : List Int)
  | committing (plan : RetentionPlan) (manifestDays : List Int) (replayFloorBatchId : Nat)
  /-- The transaction is committed and the gate still held. -/
  | publishing (state : RetentionState)
  | published (state : RetentionState)

/-- The place of `reclaim_pending` in its code. -/
inductive ReclaimPhase where
  | runLock
  | listing
  | next (entries : List Int) (summary : ReclaimSummary)
  /-- The day is retiring. -/
  | retiring (dayUtc : Int) (rest : List Int) (summary : ReclaimSummary)
  | dayWait (dayUtc : Int) (lock : Nat) (rest : List Int) (summary : ReclaimSummary)
  | reclaiming (dayUtc : Int) (lock : Nat) (rest : List Int) (summary : ReclaimSummary)
  | deleting (dayUtc : Int) (lock : Nat) (bytes : Nat) (remaining : List FileKind)
      (rest : List Int) (summary : ReclaimSummary)
  /-- The day's lock is returned, its row is to be updated. -/
  | finishing (dayUtc : Int) (result : Except PortError Nat) (rest : List Int)
      (summary : ReclaimSummary)

inductive Task where
  | lease (dayUtc : Int) (writable : Bool) (phase : LeasePhase)
  | publication (call : PublicationCall) (phase : PublicationPhase)
  | reclaim (phase : ReclaimPhase)

inductive Guard where
  | gateRead
  | gateWrite
  | runLock
  | dayLock (lock : Nat)

def Guard.excludes : Guard → Guard → Bool
  | .gateRead, .gateWrite | .gateWrite, .gateRead | .gateWrite, .gateWrite => true
  | .runLock, .runLock => true
  | .dayLock lock, .dayLock other => lock == other
  | _, _ => false

def LeasePhase.holds : LeasePhase → List Guard
  | .gate => []
  | .admitted | .checked | .located | .dayWait _ => [.gateRead]
  | .permitWait lock | .permitted lock | .opening lock | .granted lock => [.gateRead, .dayLock lock]

def PublicationPhase.holds : PublicationPhase → List Guard
  | .runLock => []
  | .gate | .published _ => [.runLock]
  | .entered | .sampling | .stats _ _ | .committing _ _ _ | .publishing _ => [.runLock, .gateWrite]

def ReclaimPhase.holds : ReclaimPhase → List Guard
  | .runLock => []
  | .listing | .next _ _ | .retiring _ _ _ | .dayWait _ _ _ _ | .finishing _ _ _ _ => [.runLock]
  | .reclaiming _ lock _ _ | .deleting _ lock _ _ _ _ => [.runLock, .dayLock lock]

def Task.holds : Task → List Guard
  | .lease _ _ phase => phase.holds
  | .publication _ phase => phase.holds
  | .reclaim phase => phase.holds

/-- The day and the lock that a call keeps alive. -/
def Task.lockRef : Task → Option (Int × Nat)
  | .lease dayUtc _ (.dayWait lock) | .lease dayUtc _ (.permitWait lock)
  | .lease dayUtc _ (.permitted lock) | .lease dayUtc _ (.opening lock)
  | .lease dayUtc _ (.granted lock) => some (dayUtc, lock)
  | .reclaim (.dayWait dayUtc lock _ _) | .reclaim (.reclaiming dayUtc lock _ _)
  | .reclaim (.deleting dayUtc lock _ _ _ _) => some (dayUtc, lock)
  | _ => none

def Task.holdsPermit : Task → Bool
  | .lease _ _ (.permitted _) | .lease _ _ (.opening _) | .lease _ _ (.granted _) => true
  | _ => false

def Task.leaseDay : Task → Option Int
  | .lease dayUtc _ (.granted _) => some dayUtc
  | _ => none

/-- The database, the files and the running calls. -/
structure World where
  database : Database
  /-- The entries of the managed directory: the name of a shard and which of its files it is. -/
  files : List (List Char × FileKind)
  memory : DetailShardState
  /-- The lock of each day; an entry does not keep its lock alive. -/
  dayLocks : Map Int Nat
  nextLock : Nat
  tasks : Map Nat Task
  /-- The watermarks that `publish` and `run_daily` have returned. -/
  returned : List Int

/-- A process that has just started. -/
def World.start (database : Database) (files : List (List Char × FileKind)) : World where
  database
  files
  memory :=
    match database.watermark with
    | some watermark => DetailShardState.initial.publishRetiredBefore watermark
    | none => .initial
  dayLocks := ∅
  nextLock := 0
  tasks := ∅
  returned := []

section Operations

variable (setting : Setting) (world : World)

/-- No other call holds a guard that excludes the given one. -/
def World.free (guard : Guard) : Bool := Guards.free Guard.excludes Task.holds world.tasks guard

variable (dayUtc : Int)

def World.exists (kind : FileKind) : Bool :=
  (formatShardFileName setting.calendar dayUtc).any fun name => (name, kind) ∈ world.files

/-- The directory has the shard of a day. -/
def World.hasShard : Bool :=
  world.files.any fun file =>
    file.2 = .main ∧ parseShardFileName setting.calendar file.1 = some dayUtc

/-- The days of the shards in the directory, as `sample_managed_storage` lists them. -/
def World.shardDays : List Int :=
  (world.files.filterMap fun file =>
    if file.2 = .main then parseShardFileName setting.calendar file.1 else none).dedup.insertionSort
      (· ≤ ·)

def World.create (kinds : List FileKind) : World :=
  match formatShardFileName setting.calendar dayUtc with
  | some name => { world with files := world.files ++ kinds.map fun kind => (name, kind) }
  | none => world

def World.remove (kind : FileKind) : World :=
  match formatShardFileName setting.calendar dayUtc with
  | some name => { world with files := world.files.filter fun file => file ≠ (name, kind) }
  | none => world

/-- The part of `validate_shard_path` that looks at the name. -/
def validShardName : Bool :=
  ((formatShardFileName setting.calendar dayUtc).bind
    (parseShardFileName setting.calendar)).isSome

/-- A lock that some call keeps alive. -/
def World.live (lock : Nat) : Bool :=
  world.tasks.entries.any fun entry => entry.2.lockRef.any fun ref => ref.2 = lock

def World.dayLock : World × Nat :=
  let locks := world.dayLocks.retain fun _ lock => world.live lock
  match locks.lookup dayUtc with
  | some lock => ({ world with dayLocks := locks }, lock)
  | none =>
    ({ world with
        dayLocks := locks.insert dayUtc world.nextLock
        nextLock := world.nextLock + 1 }, world.nextLock)

def World.goto (id : Nat) (task : Task) : World :=
  { world with tasks := world.tasks.insert id task }

def World.mark (dayUtc : Int) : World :=
  { world with memory :=
    { world.memory with retiringDays := dayUtc :: world.memory.retiringDays } }

/-- A call returns or is dropped. -/
def World.leave (id : Nat) : World := { world with tasks := world.tasks.erase id }

end Operations

/-- How a transaction ends for its caller. -/
inductive Outcome where
  | succeeds
  | failsBeforeCommit (error : PortError)
  | failsAfterCommit (error : PortError)

/-- What a step gets from outside. -/
inductive Input where
  | proceed
  /-- The deadline has passed. -/
  | timeout
  /-- The files that opening a shard makes, and how it ends. -/
  | open (created : List FileKind) (result : Except PortError Unit)
  | sample (result : Except PortError Nat)
  | stats (replayFloorBatchId : Nat)
  | list (result : Except PortError Unit)
  /-- `reclaim` until its first deletion, with the number of reclaimed bytes. -/
  | checkpoint (created : List FileKind) (result : Except PortError Nat)
  | delete (result : Except PortError Unit)
  | backend (outcome : Outcome)

inductive Report where
  | none
  /-- `acquire` returns a lease or `None`. -/
  | acquired (result : Except PortError Bool)
  | published (result : Except RetentionError RetentionState)
  | reclaimed (result : Except RetentionError ReclaimSummary)

def pathError : PortError := .new .invalidInput "detail_shard.path"

def resultCode : Except PortError Nat → Option String
  | .ok _ => none
  | .error error => some (reclaimErrorCode error)

/-- The files that a connection may make besides the main one. -/
def sidecars (created : List FileKind) : List FileKind := created.filter (· ≠ .main)

section Steps

variable (setting : Setting) (world : World) (id : Nat)

/-- `acquire` -/
def stepLease (dayUtc : Int) (writable : Bool) : LeasePhase → Input → Option (World × Report)
  | .gate, .proceed =>
    if world.free .gateRead then some (world.goto id (.lease dayUtc writable .admitted), .none)
    else none
  | .gate, .timeout =>
    some (world.leave id, .acquired (.error (.new .timeout "detail_shard.retention_gate")))
  | .admitted, .proceed =>
    if world.memory.dayIsVisible dayUtc then
      some (world.goto id (.lease dayUtc writable .checked), .none)
    else some (world.leave id, .acquired (.ok false))
  | .checked, .proceed =>
    if formatShardFileName setting.calendar dayUtc = none then
      some (world.leave id,
        .acquired (.error (pathError.withSafeContext "UTC day is outside supported range")))
    else if !writable && !world.exists setting dayUtc .main then
      some (world.leave id, .acquired (.ok false))
    else some (world.goto id (.lease dayUtc writable .located), .none)
  | .located, .proceed =>
    let (next, lock) := world.dayLock dayUtc
    some (next.goto id (.lease dayUtc writable (.dayWait lock)), .none)
  | .dayWait lock, .proceed =>
    if world.free (.dayLock lock) then
      some (world.goto id (.lease dayUtc writable (.permitWait lock)), .none)
    else none
  | .dayWait _, .timeout =>
    some (world.leave id, .acquired (.error (.new .timeout "detail_shard.day_lease")))
  | .permitWait lock, .proceed =>
    if world.tasks.count Task.holdsPermit < setting.maxActive then
      some (world.goto id (.lease dayUtc writable (.permitted lock)), .none)
    else none
  | .permitWait _, .timeout =>
    some (world.leave id, .acquired (.error (.new .timeout "detail_shard.connection_lease")))
  | .permitted lock, .proceed =>
    if world.memory.dayIsVisible dayUtc then
      some (world.goto id (.lease dayUtc writable (.opening lock)), .none)
    else some (world.leave id, .acquired (.ok false))
  | .opening lock, .open created result =>
    if !writable && !world.exists setting dayUtc .main then
      some (world.leave id, .acquired (.ok false))
    else if validShardName setting dayUtc = false then
      some (world.leave id, .acquired (.error pathError))
    else
      match result with
      | .ok () =>
        let files := if writable then .main :: created else sidecars created
        some ((world.create setting dayUtc files).goto id
          (.lease dayUtc writable (.granted lock)), .acquired (.ok true))
      | .error error =>
        let files := if writable then created else sidecars created
        some ((world.create setting dayUtc files).leave id, .acquired (.error error))
  | _, _ => none

/-- `publish` and `run_daily` -/
def stepPublication (call : PublicationCall) : PublicationPhase → Input → Option (World × Report)
  | .runLock, .proceed =>
    if world.free .runLock then some (world.goto id (.publication call .gate), .none) else none
  | .runLock, .timeout =>
    some (world.leave id, .published (.error (.backend (.new .timeout "retention.run_lock"))))
  | .gate, .proceed =>
    if world.free .gateWrite then some (world.goto id (.publication call .entered), .none)
    else none
  | .gate, .timeout =>
    some (world.leave id,
      .published (.error (.detail (.new .timeout "detail_shard.retention_publication"))))
  | .entered, .proceed =>
    if world.memory.stopping then
      some (world.leave id,
        .published (.error (.detail (.new .unavailable "detail_shard.retention_publication"))))
    else some (world.goto id (.publication call .sampling), .none)
  | .sampling, .sample (.error error) => some (world.leave id, .published (.error (.sample error)))
  | .sampling, .sample (.ok bytes) =>
    match call.plan setting.calendar bytes with
    | .error error => some (world.leave id, .published (.error error))
    | .ok plan =>
      some (world.goto id (.publication call (.stats plan (world.shardDays setting))), .none)
  | .stats _ _, .timeout =>
    some (world.leave id,
      .published (.error (.stats (.new .timeout "stats_persistence.retention_lock"))))
  | .stats plan manifestDays, .stats floor =>
    some (world.goto id (.publication call (.committing plan manifestDays floor)), .none)
  | .committing plan manifestDays floor, .backend outcome =>
    match publishRetention setting.calendar world.database plan manifestDays floor with
    | .error error => some (world.leave id, .published (.error (.backend error)))
    | .ok database =>
      match outcome with
      | .failsBeforeCommit error => some (world.leave id, .published (.error (.backend error)))
      | .failsAfterCommit error =>
        some ({ world.leave id with database }, .published (.error (.backend error)))
      | .succeeds =>
        let state := nextState world.database.retentionState plan floor
        some ({ world.goto id (.publication call (.publishing state)) with database }, .none)
  | .publishing state, .proceed =>
    some ({ world.goto id (.publication call (.published state)) with
      memory := world.memory.publishRetiredBefore state.retiredBeforeDayUtc }, .none)
  | .published state, .proceed =>
    some ({ world.leave id with returned := state.retiredBeforeDayUtc :: world.returned },
      .published (.ok state))
  | _, _ => none

/-- `reclaim_pending` -/
def stepReclaim : ReclaimPhase → Input → Option (World × Report)
  | .runLock, .proceed =>
    if world.free .runLock then some (world.goto id (.reclaim .listing), .none) else none
  | .runLock, .timeout =>
    some (world.leave id, .reclaimed (.error (.backend (.new .timeout "retention.run_lock"))))
  | .listing, .list (.error error) => some (world.leave id, .reclaimed (.error (.backend error)))
  | .listing, .list (.ok ()) =>
    some (world.goto id (.reclaim (.next (pendingRetentionReclaims world.database) .zero)), .none)
  | .next [] summary, .proceed => some (world.leave id, .reclaimed (.ok summary))
  | .next (_ :: _) _, .timeout =>
    some (world.leave id, .reclaimed (.error (.detail (.new .timeout "retention.reclaim"))))
  | .next (dayUtc :: rest) summary, .proceed =>
    let summary := summary.attempt
    if world.memory.stopping then
      some (world.goto id (.reclaim (.finishing dayUtc
        (.error (.new .unavailable "detail_shard.retire")) rest summary)), .none)
    else
      let next := world.mark dayUtc
      if formatShardFileName setting.calendar dayUtc = none then
        some (next.goto id (.reclaim (.finishing dayUtc
          (.error (pathError.withSafeContext "UTC day is outside supported range")) rest summary)),
          .none)
      else some (next.goto id (.reclaim (.retiring dayUtc rest summary)), .none)
  | .retiring dayUtc rest summary, .proceed =>
    let (next, lock) := world.dayLock dayUtc
    some (next.goto id (.reclaim (.dayWait dayUtc lock rest summary)), .none)
  | .dayWait dayUtc lock rest summary, .proceed =>
    if world.free (.dayLock lock) then
      some (world.goto id (.reclaim (.reclaiming dayUtc lock rest summary)), .none)
    else none
  | .dayWait dayUtc _ rest summary, .timeout =>
    some (world.goto id (.reclaim (.finishing dayUtc
      (.error (.new .timeout "detail_shard.retire")) rest summary)), .none)
  | .reclaiming dayUtc lock rest summary, .checkpoint created result =>
    if validShardName setting dayUtc = false then
      some (world.goto id (.reclaim (.finishing dayUtc (.error pathError) rest summary)), .none)
    else
      let next := world.create setting dayUtc (sidecars created)
      match result with
      | .error error =>
        some (next.goto id (.reclaim (.finishing dayUtc (.error error) rest summary)), .none)
      | .ok bytes =>
        some (next.goto id (.reclaim (.deleting dayUtc lock bytes reclaimOrder rest summary)),
          .none)
  | .deleting dayUtc _ _ (_ :: _) rest summary, .delete (.error error) =>
    some (world.goto id (.reclaim (.finishing dayUtc (.error error) rest summary)), .none)
  | .deleting dayUtc lock bytes (kind :: remaining) rest summary, .delete (.ok ()) =>
    let next := world.remove setting dayUtc kind
    if remaining = [] then
      some (next.goto id (.reclaim (.finishing dayUtc (.ok bytes) rest summary)), .none)
    else
      some (next.goto id (.reclaim (.deleting dayUtc lock bytes remaining rest summary)), .none)
  | .finishing dayUtc result rest summary, .backend outcome =>
    match finishRetentionReclaim setting.calendar world.database dayUtc (resultCode result) with
    | .error error => some (world.leave id, .reclaimed (.error (.backend error)))
    | .ok database =>
      match outcome with
      | .failsBeforeCommit error => some (world.leave id, .reclaimed (.error (.backend error)))
      | .failsAfterCommit error =>
        some ({ world.leave id with database }, .reclaimed (.error (.backend error)))
      | .succeeds =>
        some ({ world.goto id (.reclaim (.next rest (summary.record result))) with database },
          .none)
  | _, _ => none

def stepTask (task : Task) (input : Input) : Option (World × Report) :=
  match task with
  | .lease dayUtc writable phase => stepLease setting world id dayUtc writable phase input
  | .publication call phase => stepPublication setting world id call phase input
  | .reclaim phase => stepReclaim setting world id phase input

end Steps

inductive Action where
  | acquire (id : Nat) (dayUtc : Int) (writable : Bool)
  | publish (id : Nat) (call : PublicationCall)
  | reclaimPending (id : Nat)
  | step (id : Nat) (input : Input)
  /-- A lease or a call that waits is dropped, with all its guards. -/
  | drop (id : Nat)
  /-- The connection of a lease makes files next to the main one. -/
  | use (id : Nat) (created : List FileKind)
  /-- `shutdown` of the store. -/
  | shutdown
  /-- The process ends at any point, and a new one starts on what is stored. -/
  | restart

def step (setting : Setting) (world : World) : Action → Option (World × Report)
  | .acquire id dayUtc writable => begin id (.lease dayUtc writable .gate)
  | .publish id call => begin id (.publication call .runLock)
  | .reclaimPending id => begin id (.reclaim .runLock)
  | .step id input =>
    match world.tasks.lookup id with
    | some task => stepTask setting world id task input
    | none => none
  | .drop id => some (world.leave id, .none)
  | .use id created =>
    match (world.tasks.lookup id).bind Task.leaseDay with
    | some dayUtc => some (world.create setting dayUtc (sidecars created), .none)
    | none => none
  | .shutdown => some ({ world with memory := { world.memory with stopping := true } }, .none)
  | .restart =>
    some ({ World.start world.database world.files with returned := world.returned }, .none)
where
  /-- A call starts under an unused number. -/
  begin (id : Nat) (task : Task) : Option (World × Report) :=
    if (world.tasks.lookup id).isSome then none else some (world.goto id task, .none)

end FluxDns.Storage.Retention
