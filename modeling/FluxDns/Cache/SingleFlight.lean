import FluxDns.Library.Execution
import FluxDns.Library.AssociationList
import FluxDns.Cache.Entry

/-!
# Single-flight loads of the memory store

The load table of `MemoryCacheStore`, the callers' leases and waiters, and every operation that can
interleave on them.  The state is extended by what the callers hold and by a log of the completions
that were recorded; the operations never read the log.
-/

namespace FluxDns.Cache.SingleFlight

/-- The identity of a task's waker, as compared by `will_wake`. -/
abbrev Waker := Nat

/-- A load generation, by the number of loads started up to it. -/
structure Generation where
  count : Nat
  deriving DecidableEq

/-- The `u64` that the store keeps and compares. -/
def Generation.value (generation : Generation) : Nat := generation.count % u64Size

/-- A load and those who wait for it. -/
structure MemoryLoad where
  generation : Generation
  completion : Option CacheLoadCompletion
  followers : Nat
  waiters : List Waker

/-- The load after its completion, with nobody left to wake. -/
abbrev MemoryLoad.complete (load : MemoryLoad) (completion : CacheLoadCompletion) : MemoryLoad :=
  { load with completion := some completion, waiters := [] }

/-- The load table and the shutdown flag of the store. -/
structure MemoryState where
  loads : Map CacheKey MemoryLoad
  shuttingDown : Bool

/-- The answer of a reservation; a waiter is named by its token. -/
inductive CacheLoadReservation where
  | leader (generation : Generation)
  | follower (token : Nat) (generation : Generation)

variable (state : MemoryState) (key : CacheKey) (generation : Generation)

/-- Record a completion: the wakers to wake, and the state without a load nobody follows. -/
def completeLoad (completion : CacheLoadCompletion) :
    Except PortErrorClass (List Waker × MemoryState) :=
  match state.loads.lookup key with
  | none => .error .protocolViolation
  | some load =>
    if load.generation.value ≠ generation.value ∨ load.completion.isSome then
      .error .protocolViolation
    else
      let loads :=
        if load.followers = 0 then state.loads.erase key
        else state.loads.insert key (load.complete completion)
      .ok (load.waiters, { state with loads := loads })

/-- Give back the place of a waiter in its load. -/
def releaseWaiter : MemoryState :=
  match state.loads.lookup key with
  | none => state
  | some load =>
    if load.generation.value ≠ generation.value ∨ load.followers = 0 then state
    else
      let released := { load with followers := load.followers - 1 }
      let loads :=
        if released.completion.isSome ∧ released.followers = 0 then state.loads.erase key
        else state.loads.insert key released
      { state with loads := loads }

/-- The outcome of polling a future. -/
inductive Poll (α : Type) where
  | pending
  | ready (value : α)

abbrev LoadPoll := Poll (Except PortErrorClass CacheLoadCompletion)

/-- Poll the load of a waiter, registering the waker of the task when it is still running. -/
def pollLoad (deadline : Deadline) (now : Instant) (waker : Waker) : MemoryState × LoadPoll :=
  match state.loads.lookup key with
  | none => (state, .ready (.error .protocolViolation))
  | some load =>
    if load.generation.value ≠ generation.value then
      (state, .ready (.error .protocolViolation))
    else
      match load.completion with
      | some completion => (state, .ready (.ok completion))
      | none =>
        if deadline.isExpired now then (state, .ready (.error .timeout))
        else if waker ∈ load.waiters then (state, .pending)
        else
          let registered := { load with waiters := load.waiters ++ [waker] }
          ({ state with loads := state.loads.insert key registered }, .pending)

/-- The branches of the `select!` in `wait_load`. -/
inductive WaitBranch where
  | load
  | timer
  | cancellation

/-- What one poll of `wait_load` finds in its environment. -/
structure WaitPoll where
  /-- The branch that the random rotation of `select!` starts with. -/
  start : Fin 3
  now : Instant
  deadline : Deadline
  /-- The sleep until the deadline has elapsed. -/
  timerElapsed : Bool
  /-- The waiter was cancelled, with the reason that was kept. -/
  cancelled : Option (Option CancelReason)
  waker : Waker

/-- The order in which one poll visits the branches. -/
def WaitPoll.branches (poll : WaitPoll) : List WaitBranch :=
  [.load, .timer, .cancellation].rotate poll.start

/-- Poll the branches in order until one is ready. -/
def pollBranches (poll : WaitPoll) (key : CacheKey) (generation : Generation) :
    List WaitBranch → MemoryState → MemoryState × LoadPoll
  | [], state => (state, .pending)
  | .load :: branches, state =>
    match pollLoad state key generation poll.deadline poll.now poll.waker with
    | (next, .pending) => pollBranches poll key generation branches next
    | (next, .ready result) => (next, .ready result)
  | .timer :: branches, state =>
    if poll.timerElapsed then (state, .ready (.error .timeout))
    else pollBranches poll key generation branches state
  | .cancellation :: branches, state =>
    match poll.cancelled with
    | some reason => (state, .ready (.error (.cancelled (reason.getD .deadlineExceeded))))
    | none => pollBranches poll key generation branches state

/-- One poll of the future of `wait_load`. -/
def waitLoad (poll : WaitPoll) (key : CacheKey) (generation : Generation) (state : MemoryState) :
    MemoryState × LoadPoll :=
  pollBranches poll key generation poll.branches state

def shutdownCompletion (load : MemoryLoad) : CacheLoadCompletion :=
  load.completion.getD (.failed (.cancelled .shutdown))

def shutdown : List Waker × MemoryState :=
  let complete (_ : CacheKey) (load : MemoryLoad) := load.complete (shutdownCompletion load)
  (state.loads.entries.flatMap (·.2.waiters),
    { loads := (state.loads.mapValues complete).retain fun _ load => 0 < load.followers
      shuttingDown := true })

/-- A lease that a caller holds and that is still armed. -/
structure Lease where
  key : CacheKey
  generation : Generation
  /-- The lease was moved into a publication that failed; only its drop is left. -/
  consumed : Bool

/-- A waiter that a caller holds. -/
structure Waiter where
  key : CacheKey
  generation : Generation
  /-- The waker left by the last poll, when that poll was pending. -/
  pending : Option Waker
  /-- That waker was woken after the completion of the load was recorded. -/
  woken : Bool
  /-- `wait_load` has returned; only the drop of the waiter is left. -/
  finished : Bool

/-- The store together with everything that its callers hold. -/
structure World where
  store : MemoryState
  /-- The number of increments of `next_generation`. -/
  nextGeneration : Nat
  leases : Map Nat Lease
  waiters : Map Nat Waiter
  nextWaiter : Nat
  /-- Wakers that an operation took out of a load and has not woken yet. -/
  waking : List Waker
  /-- The completions recorded so far, with the generation of their load. -/
  recorded : List (Generation × CacheLoadCompletion)

def World.initial : World where
  store := { loads := ∅, shuttingDown := false }
  nextGeneration := 0
  leases := ∅
  waiters := ∅
  nextWaiter := 0
  waking := []
  recorded := []

/-- The operations of the callers, with every choice that the environment makes. -/
inductive Action where
  | reserveLoad (key : CacheKey) (deadline : Deadline) (now : Instant)
  | publishLoad (lease : Nat) (completion : CacheLoadCompletion)
  | abandonLoad (lease : Nat) (failure : CacheLoadFailure)
  | dropLease (lease : Nat)
  | dropWaiter (waiter : Nat)
  | pollWait (waiter : Nat) (poll : WaitPoll)
  | shutdown
  | wake (waker : Waker)

/-- What an operation answers its caller. -/
inductive Answer where
  | reserved (result : Except PortErrorClass CacheLoadReservation)
  | published (result : Except PortErrorClass Unit)
  | polled (result : LoadPoll)
  | done

variable (world : World)

/-- The generation of the next load that is started. -/
def World.freshGeneration : Generation := ⟨world.nextGeneration + 1⟩

/-- A caller becomes the leader of a new load. -/
def World.lead (key : CacheKey) : World :=
  { world with
    store := { world.store with
      loads := world.store.loads.insert key ⟨world.freshGeneration, none, 0, []⟩ }
    nextGeneration := world.nextGeneration + 1
    leases := world.leases.insert world.freshGeneration.count
      ⟨key, world.freshGeneration, false⟩ }

/-- A caller joins a load of the table. -/
def World.follow (key : CacheKey) (load : MemoryLoad) : World :=
  { world with
    store := { world.store with
      loads := world.store.loads.insert key
        { load with followers := min (load.followers + 1) (u64Size - 1) } }
    waiters := world.waiters.insert world.nextWaiter ⟨key, load.generation, none, false, false⟩
    nextWaiter := world.nextWaiter + 1 }

/-- Reserve the load of a key.  Every live waiter owns an allocation, so their number fits a `u64`:
an allocation that does not fit the address space aborts the process. -/
def reserveLoad (key : CacheKey) (deadline : Deadline) (now : Instant) :
    Option (World × Answer) :=
  if deadline.isExpired now then some (world, .reserved (.error .timeout))
  else if world.store.shuttingDown then some (world, .reserved (.error .unavailable))
  else
    match world.store.loads.lookup key with
    | some load =>
      if world.waiters.entries.length + 1 < u64Size then
        some (world.follow key load, .reserved (.ok (.follower world.nextWaiter load.generation)))
      else none
    | none => some (world.lead key, .reserved (.ok (.leader world.freshGeneration)))

variable (token : Nat)

def World.complete (lease : Lease) (completion : CacheLoadCompletion)
    (taken : List Waker) (store : MemoryState) : World :=
  { world with
    store := store
    leases := world.leases.erase token
    waking := world.waking ++ taken
    recorded := world.recorded ++ [(lease.generation, completion)] }

/-- End a lease with a completion; when that is refused, `refused` are the leases left. -/
def endLease (lease : Lease) (completion : CacheLoadCompletion)
    (refused : Map Nat Lease) : World × Answer :=
  match completeLoad world.store lease.key lease.generation completion with
  | .ok (taken, store) => (world.complete token lease completion taken store, .published (.ok ()))
  | .error error => ({ world with leases := refused }, .published (.error error))

/-- Publish a completion through a lease; when it is refused, the moved lease awaits its drop. -/
def publishLoad (completion : CacheLoadCompletion) : Option (World × Answer) :=
  match world.leases.lookup token with
  | some lease =>
    if lease.consumed then none
    else
      some (endLease world token lease completion
        (world.leases.insert token { lease with consumed := true }))
  | none => none

/-- Dropping an armed lease abandons its load. -/
def dropLease : Option (World × Answer) :=
  match world.leases.lookup token with
  | some lease =>
    let dropped := endLease world token lease (.failed .abandoned) (world.leases.erase token)
    some (dropped.1, .done)
  | none => none

def dropWaiter : Option (World × Answer) :=
  match world.waiters.lookup token with
  | some waiter =>
    some ({ world with
      store := releaseWaiter world.store waiter.key waiter.generation
      waiters := world.waiters.erase token }, .done)
  | none => none

def Waiter.afterPoll (waiter : Waiter) (waker : Waker) : LoadPoll → Waiter
  | .pending => { waiter with pending := some waker, woken := false }
  | .ready _ => { waiter with pending := none, woken := false, finished := true }

def pollWait (poll : WaitPoll) : Option (World × Answer) :=
  match world.waiters.lookup token with
  | some waiter =>
    if waiter.finished then none
    else
      let polled := waitLoad poll waiter.key waiter.generation world.store
      some ({ world with
        store := polled.1
        waiters := world.waiters.insert token (waiter.afterPoll poll.waker polled.2) },
        .polled polled.2)
  | none => none

variable (state : MemoryState)

/-- The load of a waiter has a recorded completion. -/
def MemoryState.isCompleted (key : CacheKey) : Bool :=
  (state.loads.lookup key).any (·.completion.isSome)

def shutdownRecords : List (Generation × CacheLoadCompletion) :=
  (state.loads.entries.filter (·.2.completion.isNone)).map fun entry =>
    (entry.2.generation, shutdownCompletion entry.2)

def Waiter.afterWake (waker : Waker) (waiter : Waiter) : Waiter :=
  if waiter.pending = some waker ∧ state.isCompleted waiter.key then { waiter with woken := true }
  else waiter

/-- Every load is ended by a shutdown. -/
def World.shutdown (world : World) : World :=
  { world with
    store := (SingleFlight.shutdown world.store).2
    waking := world.waking ++ (SingleFlight.shutdown world.store).1
    recorded := world.recorded ++ shutdownRecords world.store }

/-- A task is woken. -/
def World.wake (waker : Waker) : World :=
  { world with
    waking := world.waking.erase waker
    waiters := world.waiters.mapValues fun _ => Waiter.afterWake world.store waker }

/-- One operation of a caller, or the wakeup of one task. -/
def step : Action → Option (World × Answer)
  | .reserveLoad key deadline now => reserveLoad world key deadline now
  | .publishLoad token completion => publishLoad world token completion
  | .abandonLoad token failure => publishLoad world token (.failed failure)
  | .dropLease token => dropLease world token
  | .dropWaiter token => dropWaiter world token
  | .pollWait token poll => pollWait world token poll
  | .shutdown => some (world.shutdown, .done)
  | .wake waker => if waker ∈ world.waking then some (world.wake waker, .done) else none

end FluxDns.Cache.SingleFlight
