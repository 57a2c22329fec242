import FluxDns.Library.Execution
import FluxDns.Library.AssociationList
import FluxDns.Cache.Entry

/-!
# The Moka store

The calls of `MokaCacheStore` as sequences of small steps.  `get` reads and removes without the
state lock, `compare_and_swap` and `invalidate` hold it; steps of different calls interleave freely.
Moka itself is a linearizable map from which records may be evicted at any time.  `MokaExpiry` fixes
the expiry of an entry when it is created; a record that replaces another one keeps that expiry.
-/

namespace FluxDns.Cache.Moka

open CacheWriteOutcome

/-- The construction parameters of a store. -/
structure Limits where
  maxWeight : Option Nat
  /-- The encoded size of a response, zero when it cannot be encoded. -/
  responseSize : CanonicalResponse → Nat

def weight (limits : Limits) (key : CacheKey) (entry : CacheEntry) : Nat :=
  min (key.encoded.length + 64 + limits.responseSize entry.response) (u64Size - 1)

/-- The counters and the flag behind the state lock. -/
structure MokaState where
  hits : Nat
  misses : Nat
  conflicts : Nat
  shuttingDown : Bool

/-- A conditional write in progress. -/
structure Write where
  key : CacheKey
  condition : CacheCondition
  entry : CacheEntry

/-- The place of a running call in its code. -/
inductive Call where
  | getStarted (key : CacheKey)
  | getReading (key : CacheKey) (now : Instant)
  | getRemoving (key : CacheKey) (now : Instant)
  | getFinishing (record : Option CacheRecord) (now : Instant)
  | swapLocking (write : Write)
  | swapLocked (write : Write)
  | swapReading (write : Write) (now : Instant)
  | swapRemoving (write : Write) (now : Instant)
  | swapDeciding (write : Write) (current : Option CacheRecord) (now : Instant)
  | swapInserting (write : Write) (version : UInt64) (outcome : CacheWriteOutcome)
  | invalidateLocking (scope : CacheInvalidation)
  | invalidating (keys : List CacheKey) (count : Nat)
  | shutdownLocking
  | shutdownClearing

def Call.holdsLock : Call → Bool
  | .swapLocked _ | .swapReading _ _ | .swapRemoving _ _ | .swapDeciding _ _ _
  | .swapInserting _ _ _ | .invalidating _ _ => true
  | _ => false

/-- The store, its running calls and the clock. -/
structure World where
  /-- The records that Moka returns. -/
  cache : Map CacheKey CacheRecord
  /-- The expiry of each entry in Moka's table; an expired entry leaves the table only with Moka's
  maintenance. -/
  expiry : Map CacheKey Instant
  state : MokaState
  /-- The number of increments of `next_version`. -/
  nextVersion : Nat
  snapshotResetGeneration : Nat
  evictionCount : Nat
  calls : Map Nat Call
  nextCall : Nat
  /-- The call that holds the state lock. -/
  holder : Option Nat
  clock : Instant
  /-- The record of the last successful write of each key, unless it was evicted or explicitly
  invalidated since; no operation reads it. -/
  promised : Map CacheKey CacheRecord

def World.initial : World where
  cache := ∅
  expiry := ∅
  state := ⟨0, 0, 0, false⟩
  nextVersion := 0
  snapshotResetGeneration := 0
  evictionCount := 0
  calls := ∅
  nextCall := 0
  holder := none
  clock := 0
  promised := ∅

inductive Action where
  | get (key : CacheKey) (deadline : Deadline)
  | compareAndSwap (write : Write) (deadline : Deadline)
  | invalidate (scope : CacheInvalidation) (deadline : Deadline)
  | shutdown
  /-- One step of a running call. -/
  | advance (call : Nat)
  /-- Moka evicts an entry for its capacity. -/
  | evict (key : CacheKey)
  /-- Moka stops returning an entry whose expiry has passed, and later drops it. -/
  | expire (key : CacheKey)
  | tick (duration : Duration)

inductive Answer where
  | running
  | got (result : Except PortErrorClass (Option CacheRecord))
  | swapped (result : Except PortErrorClass CacheWriteOutcome)
  | invalidated (result : Except PortErrorClass Nat)
  | done

variable (world : World)

def World.start (call : Call) : World :=
  { world with
    calls := world.calls.insert world.nextCall call
    nextCall := world.nextCall + 1 }

/-- The call goes on with its next step. -/
def World.goto (id : Nat) (call : Call) : World :=
  { world with calls := world.calls.insert id call }

/-- The call returns and gives up the lock if it holds it. -/
def World.finish (id : Nat) : World :=
  { world with
    calls := world.calls.erase id
    holder := if world.holder = some id then none else world.holder }

def World.acquire (id : Nat) : World := { world with holder := some id }

def World.remove (key : CacheKey) : World :=
  { world with
    cache := world.cache.erase key
    expiry := world.expiry.erase key }

/-- Remove a key from Moka together with the promise to keep its record. -/
def World.discard (key : CacheKey) : World :=
  { world with
    cache := world.cache.erase key
    expiry := world.expiry.erase key
    promised := world.promised.erase key }

/-- `expire_after_create`: the time until the end of the retention, counted from now. -/
def expireAfterCreate (record : CacheRecord) (now : Instant) : Duration :=
  record.entry.retentionDeadline - now

/-- An insertion creates an entry with its own expiry, or replaces the record of an entry that is
still in the table; `MokaExpiry` leaves the expiry of an updated entry as it is. -/
def World.insert (world : World) (key : CacheKey) (record : CacheRecord) : World :=
  { world with
    cache := world.cache.insert key record
    expiry :=
      if (world.expiry.lookup key).isSome then world.expiry
      else world.expiry.insert key (world.clock + expireAfterCreate record world.clock)
    promised := world.promised.insert key record }

/-- The result of `get`: only answerable records count as hits. -/
def finishGet (id : Nat) (record : Option CacheRecord) (now : Instant) :
    World × Answer :=
  if world.state.shuttingDown then (world.finish id, .got (.error .unavailable))
  else
    let state :=
      if record.any (·.isAnswerable now) then
        { world.state with hits := min (world.state.hits + 1) (u64Size - 1) }
      else { world.state with misses := min (world.state.misses + 1) (u64Size - 1) }
    ({ world with state := state }.finish id, .got (.ok record))

/-- The decision of `compare_and_swap` on the visible record. -/
def decideSwap (limits : Limits) (world : World) (id : Nat) (write : Write)
    (current : Option CacheRecord) (now : Instant) : World × Answer :=
  if ¬ write.condition.holds (current.map (·.version)) then
    let state := { world.state with conflicts := min (world.state.conflicts + 1) (u64Size - 1) }
    ({ world with state := state }.finish id, .swapped (.ok (.conflict (current.map (·.version)))))
  else if current.any fun record =>
      decide (write.entry.quality.rank < record.entry.quality.rank) && record.isFresh now then
    (world.finish id, .swapped (.ok .rejectedQuality))
  else if limits.maxWeight.any fun limit =>
      decide (limit < weight limits write.key write.entry) then
    (world.finish id, .swapped (.error .resourceExhausted))
  else
    let version := UInt64.ofNat (world.nextVersion + 1)
    let outcome :=
      if current.isSome then replaced version
      else inserted version
    ({ world with nextVersion := world.nextVersion + 1 }.goto id
      (.swapInserting write version outcome), .running)

/-- One step of a running call; a call that waits for the lock has none. -/
def advance (limits : Limits) (world : World) (id : Nat) : Option (World × Answer) :=
  match world.calls.lookup id with
  | none => none
  | some (.getStarted key) => some (world.goto id (.getReading key world.clock), .running)
  | some (.getReading key now) =>
    match world.cache.lookup key with
    | none => some (world.goto id (.getFinishing none now), .running)
    | some record =>
      if record.isVisible now then
        some (world.goto id (.getFinishing (some record) now), .running)
      else some (world.goto id (.getRemoving key now), .running)
  | some (.getRemoving key now) =>
    some ((world.remove key).goto id (.getFinishing none now), .running)
  | some (.getFinishing record now) =>
    if world.holder.isNone then some (finishGet world id record now) else none
  | some (.swapLocking write) =>
    if world.holder.isSome then none
    else if world.state.shuttingDown then
      some (world.finish id, .swapped (.error .unavailable))
    else some ((world.acquire id).goto id (.swapLocked write), .running)
  | some (.swapLocked write) => some (world.goto id (.swapReading write world.clock), .running)
  | some (.swapReading write now) =>
    match world.cache.lookup write.key with
    | none => some (world.goto id (.swapDeciding write none now), .running)
    | some record =>
      if record.isVisible now then
        some (world.goto id (.swapDeciding write (some record) now), .running)
      else some (world.goto id (.swapRemoving write now), .running)
  | some (.swapRemoving write now) =>
    some ((world.remove write.key).goto id (.swapDeciding write none now), .running)
  | some (.swapDeciding write current now) => some (decideSwap limits world id write current now)
  | some (.swapInserting write version outcome) =>
    some ((world.insert write.key ⟨version, write.entry⟩).finish id, .swapped (.ok outcome))
  | some (.invalidateLocking scope) =>
    if world.holder.isSome then none
    else if world.state.shuttingDown then
      some (world.finish id, .invalidated (.error .unavailable))
    else
      let keys := (world.cache.entries.filter fun entry => scope.matches entry.1 entry.2.entry).map
        (·.1)
      some ((world.acquire id).goto id (.invalidating keys keys.length), .running)
  | some (.invalidating (key :: keys) count) =>
    some ((world.discard key).goto id (.invalidating keys count), .running)
  | some (.invalidating [] count) =>
    let bumped :=
      if count = 0 then world
      else { world with
        nextVersion := world.nextVersion + 1
        snapshotResetGeneration := world.snapshotResetGeneration + 1 }
    some (bumped.finish id, .invalidated (.ok count))
  | some .shutdownLocking =>
    if world.holder.isSome then none
    else
      some ({ world with state := { world.state with shuttingDown := true } }.goto id
        .shutdownClearing, .running)
  | some .shutdownClearing =>
    some ({ world with cache := ∅, expiry := ∅, promised := ∅ }.finish id, .done)

/-- One step of the system. -/
def step (limits : Limits) (world : World) : Action → Option (World × Answer)
  | .get key deadline =>
    if deadline.isExpired world.clock then some (world, .got (.error .timeout))
    else some (world.start (.getStarted key), .running)
  | .compareAndSwap write deadline =>
    if deadline.isExpired world.clock then some (world, .swapped (.error .timeout))
    else some (world.start (.swapLocking write), .running)
  | .invalidate scope deadline =>
    if deadline.isExpired world.clock then some (world, .invalidated (.error .timeout))
    else some (world.start (.invalidateLocking scope), .running)
  | .shutdown => some (world.start .shutdownLocking, .running)
  | .advance id => advance limits world id
  | .evict key =>
    if (world.cache.lookup key).isSome then
      some ({ world with evictionCount := world.evictionCount + 1 }.discard key, .done)
    else none
  | .expire key =>
    if (world.expiry.lookup key).any fun expiry => decide (expiry ≤ world.clock) then
      if (world.cache.lookup key).isSome then
        some ({ world with cache := world.cache.erase key }, .done)
      else some ({ world with expiry := world.expiry.erase key }, .done)
    else none
  | .tick duration => some ({ world with clock := world.clock + duration }, .done)

end FluxDns.Cache.Moka
