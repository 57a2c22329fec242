import FluxDns.Cache.Moka

/-!
# The owner of the cache snapshot

The periodic worker, the final write of a shutdown and the switches between sources, as steps that
interleave with each other and with the steps of the stores.  A writer takes the records from its
store while the store goes on working, and replaces the file only after a check under the publish
lock.
-/

namespace FluxDns.Cache.SnapshotOwner

open Function

/-- The settings of a source that decide whether and where it is written. -/
structure CacheSnapshotSettings where
  enabled : Bool
  path : String
  deriving DecidableEq

/-- The store whose records the owner writes. -/
structure SnapshotSource where
  ownerRevision : UInt64
  generation : Nat
  store : Nat
  settings : CacheSnapshotSettings
  deriving DecidableEq

/-- The records that a writer has taken. -/
abbrev Content := List (CacheKey × CacheRecord)

/-- What a writer holds against the current state before it publishes. -/
structure Ticket where
  source : SnapshotSource
  resetGeneration : UInt64
  allowStopped : Bool
  deriving DecidableEq

/-- The place of a writer in its code. -/
inductive Phase where
  /-- Before the reading of the source generation. -/
  | reading
  /-- Before the look at the state of the store. -/
  | spawned
  /-- Before the reading of the clock and the start of the iteration. -/
  | admitted
  /-- In the iteration; the pending keys are those it must still yield. -/
  | capturing (now : Instant) (pending : List CacheKey) (content : Content)
  /-- The temporary file is complete. -/
  | written (content : Content)
  /-- The check has passed and the publish lock is held. -/
  | publishing (content : Content)
  /-- The file is replaced and the publish lock still held. -/
  | replaced (content : Content)
  /-- The writer is done and its result not yet seen. -/
  | finished (content : Content)

/-- A snapshot in progress. -/
structure Attempt where
  ticket : Ticket
  /-- The source generation read before the capture; the final write reads none. -/
  generation : Option UInt64
  phase : Phase

inductive Worker where
  | periodic
  | final
  deriving DecidableEq

/-- A record that `invalidate` has removed. -/
structure Removal where
  store : Nat
  key : CacheKey
  entry : CacheEntry
  deriving DecidableEq

/-- What `invalidate` has removed and no write has stored again; no operation reads it. -/
structure Notes where
  /-- The removals of running calls, with the number of the call. -/
  removing : List (Nat × Removal)
  /-- The removals of calls that have returned. -/
  removed : List Removal

/-- The owner with the stores and the files. -/
structure World where
  stores : Nat → Moka.World
  source : SnapshotSource
  lastPersistedSourceGeneration : Option UInt64
  stopped : Bool
  /-- The periodic worker has decided to write and still holds the state lock. -/
  deciding : Bool
  /-- The writer that holds the publish lock. -/
  publish : Option Worker
  attempts : Worker → Option Attempt
  /-- The source that a shutdown has still to write. -/
  ending : Option SnapshotSource
  files : String → Option Content
  notes : Notes

inductive Action where
  /-- A step of one of the stores. -/
  | store (id : Nat) (action : Moka.Action)
  /-- The interval of the periodic worker ends. -/
  | wake
  /-- The periodic worker reads the reset generation and gives up the state lock. -/
  | prepare
  | advance (worker : Worker)
  /-- The iteration of a writer yields a key. -/
  | visit (worker : Worker) (key : CacheKey)
  /-- A writer fails: a deadline, an input or output error, or an invalid path. -/
  | fail (worker : Worker)
  | publishSwitch (ownerRevision : UInt64) (store : Nat) (settings : CacheSnapshotSettings)
  | shutdown
  /-- The shutdown starts its final write. -/
  | startFinal
  /-- The shutdown gives up its final write. -/
  | giveUp

inductive Output where
  | quiet
  | stored (answer : Moka.Answer)
  | skipped
  | published (ticket : Ticket) (content : Content)

variable (store : Moka.World)

def snapshotGeneration : UInt64 := UInt64.ofNat store.nextVersion

def snapshotResetGeneration : UInt64 :=
  UInt64.ofNat store.snapshotResetGeneration

/-- The iteration need not yield a key that has left the store. -/
def Phase.forget : Phase → Phase
  | .capturing now pending content =>
    .capturing now (pending.filter fun key => (store.cache.lookup key).isSome) content
  | phase => phase

def Attempt.forget (id : Nat) (store : Moka.World) (attempt : Attempt) : Attempt :=
  if attempt.ticket.source.store = id then { attempt with phase := attempt.phase.forget store }
  else attempt

/-- A removal is noted as it happens, counts as done when its call returns and is forgotten when
its record is stored again. -/
def Notes.advance (notes : Notes) (id : Nat) (store : Moka.World) (call : Nat) : Notes :=
  match store.calls.lookup call with
  | some (.invalidating (key :: _) _) =>
    match store.cache.lookup key with
    | none => notes
    | some record => { notes with removing := (call, ⟨id, key, record.entry⟩) :: notes.removing }
  | some (.invalidating [] _) =>
    let returned : Nat × Removal → Bool := fun entry => entry.1 = call ∧ entry.2.store = id
    { removing := notes.removing.filter fun entry => !returned entry
      removed := (notes.removing.filter returned).map (·.2) ++ notes.removed }
  | some (.swapInserting write _ _) =>
    let again : Removal → Bool := fun removal => removal = ⟨id, write.key, write.entry⟩
    { removing := notes.removing.filter fun entry => !again entry.2
      removed := notes.removed.filter fun removal => !again removal }
  | _ => notes

def Notes.step (notes : Notes) (id : Nat) (store : Moka.World) : Moka.Action → Notes
  | .advance call => notes.advance id store call
  | _ => notes

def stepStore (limits : Nat → Moka.Limits) (world : World) (id : Nat) (action : Moka.Action) :
    Option (World × Output) :=
  match Moka.step (limits id) (world.stores id) action with
  | none => none
  | some (store, answer) =>
    some ({ world with
      stores := update world.stores id store
      attempts := fun worker => (world.attempts worker).map (·.forget id store)
      notes := world.notes.step id (world.stores id) action }, .stored answer)

variable (world : World) (worker : Worker)

/-- The writer goes on with this state. -/
def World.setAttempt (attempt : Option Attempt) : World :=
  { world with attempts := update world.attempts worker attempt }

/-- The writer goes on to the phase. -/
def World.goto (attempt : Attempt) (phase : Phase) : World :=
  world.setAttempt worker (some { attempt with phase := phase })

/-- The publish lock, without a writer that held it. -/
def World.released : Option Worker :=
  if world.publish = some worker then none else world.publish

/-- The start of `snapshot_current`, under the state lock. -/
def wake : Option (World × Output) :=
  if world.deciding ∨ (world.attempts .periodic).isSome then none
  else if world.stopped ∨ ¬world.source.settings.enabled then some (world, .quiet)
  else if world.lastPersistedSourceGeneration =
      some (snapshotGeneration (world.stores world.source.store)) then some (world, .skipped)
  else some ({ world with deciding := true }, .quiet)

/-- The attempt that the periodic worker prepares. -/
def World.prepared : Attempt where
  ticket := {
    source := world.source
    resetGeneration := snapshotResetGeneration (world.stores world.source.store)
    allowStopped := false }
  generation := none
  phase := .reading

def prepare : Option (World × Output) :=
  if world.deciding then
    some ({ world with deciding := false }.setAttempt .periodic (some world.prepared), .quiet)
  else none

def snapshotPublishIsCurrent (ticket : Ticket) : Bool :=
  decide (world.source.generation = ticket.source.generation ∧
    world.source.store = ticket.source.store ∧
    (world.stopped = false ∨ ticket.allowStopped = true) ∧
    snapshotResetGeneration (world.stores ticket.source.store) = ticket.resetGeneration)

/-- The end of `snapshot_current` after a successful write. -/
def complete (attempt : Attempt) : World :=
  match attempt.generation with
  | none => world
  | some generation =>
    if world.source.generation = attempt.ticket.source.generation ∧ world.stopped = false then
      { world with
        lastPersistedSourceGeneration :=
          if snapshotGeneration (world.stores attempt.ticket.source.store) = generation then
            some generation
          else none }
    else world

/-- One step of a writer; a writer that waits for a lock or for its iteration has none. -/
def advance : Option (World × Output) :=
  match world.attempts worker with
  | none => none
  | some attempt =>
    let store := world.stores attempt.ticket.source.store
    match attempt.phase with
    | .reading =>
      some (world.setAttempt worker (some { attempt with
        generation := some (snapshotGeneration store)
        phase := .spawned }), .quiet)
    | .spawned =>
      if store.holder.isSome then none
      else if store.state.shuttingDown then some (world.setAttempt worker none, .quiet)
      else some (world.goto worker attempt .admitted, .quiet)
    | .admitted =>
      some (world.goto worker attempt (.capturing store.clock store.cache.keys []), .quiet)
    | .capturing _ [] content => some (world.goto worker attempt (.written content), .quiet)
    | .capturing _ (_ :: _) _ => none
    | .written content =>
      if world.deciding ∨ world.publish.isSome then none
      else if snapshotPublishIsCurrent world attempt.ticket then
        some ({ world.goto worker attempt (.publishing content) with
          publish := some worker }, .quiet)
      else some (world.setAttempt worker none, .quiet)
    | .publishing content =>
      some ({ world.goto worker attempt (.replaced content) with
        files := update world.files attempt.ticket.source.settings.path
          (some content) }, .published attempt.ticket content)
    | .replaced content =>
      some ({ world.goto worker attempt (.finished content) with
        publish := world.released worker }, .quiet)
    | .finished _ =>
      if world.deciding then none
      else some ((complete world attempt).setAttempt worker none, .quiet)

/-- The content of a capture after the visit of a record: it is written when it is visible and no
record of its key is written yet. -/
def visited (now : Instant) (key : CacheKey) (record : CacheRecord) (content : Content) : Content :=
  if record.isVisible now ∧ key ∉ content.map (·.1) then content ++ [(key, record)] else content

/-- The iteration yields a key. -/
def visit (key : CacheKey) : Option (World × Output) :=
  match world.attempts worker with
  | none => none
  | some attempt =>
    match attempt.phase, (world.stores attempt.ticket.source.store).cache.lookup key with
    | .capturing now pending content, some record =>
      some (world.goto worker attempt (.capturing now (pending.filter (· ≠ key))
        (visited now key record content)), .quiet)
    | _, _ => none

/-- A writer fails and gives up the publish lock if it holds it. -/
def fail : Option (World × Output) :=
  match world.attempts worker with
  | none | some ⟨_, _, .reading⟩ | some ⟨_, _, .finished _⟩ => none
  | some _ => some ({ world.setAttempt worker none with publish := world.released worker }, .quiet)

/-- The next generation of a source. -/
def saturatingSucc (generation : Nat) : Nat := min (generation + 1) (u64Size - 1)

/-- No lock of the owner is held. -/
def World.unlocked : Bool := !world.deciding && world.publish.isNone

/-- The source that replaces the current one in a switch. -/
def World.nextSource (ownerRevision : UInt64) (store : Nat)
    (settings : CacheSnapshotSettings) : SnapshotSource :=
  ⟨ownerRevision, saturatingSucc world.source.generation, store, settings⟩

def publishSwitch (ownerRevision : UInt64) (store : Nat)
    (settings : CacheSnapshotSettings) : Option (World × Output) :=
  if world.unlocked then
    some ({ world with
      source := world.nextSource ownerRevision store settings
      lastPersistedSourceGeneration := none }, .quiet)
  else none

/-- The source of the final write. -/
def World.lastSource : SnapshotSource :=
  { world.source with generation := saturatingSucc world.source.generation }

/-- The start of `shutdown`; a second shutdown has nothing to write. -/
def shutdown : Option (World × Output) :=
  if world.unlocked then
    if world.stopped then some (world, .quiet)
    else
      some ({ world with
        stopped := true
        source := world.lastSource
        ending := some world.lastSource }, .quiet)
  else none

def World.lastAttempt (source : SnapshotSource) : Attempt where
  ticket := {
    source := source
    resetGeneration := snapshotResetGeneration (world.stores source.store)
    allowStopped := true }
  generation := none
  phase := .spawned

def startFinal : Option (World × Output) :=
  match world.ending with
  | none => none
  | some source =>
    if source.settings.enabled then
      some ({ world with ending := none }.setAttempt .final (some (world.lastAttempt source)),
        .quiet)
    else none

/-- One step of the system. -/
def step (limits : Nat → Moka.Limits) (world : World) : Action → Option (World × Output)
  | .store id action => stepStore limits world id action
  | .wake => wake world
  | .prepare => prepare world
  | .advance worker => advance world worker
  | .visit worker key => visit world worker key
  | .fail worker => fail world worker
  | .publishSwitch ownerRevision store settings => publishSwitch world ownerRevision store settings
  | .shutdown => shutdown world
  | .startFinal => startFinal world
  | .giveUp => some ({ world with ending := none }, .quiet)

end FluxDns.Cache.SnapshotOwner
