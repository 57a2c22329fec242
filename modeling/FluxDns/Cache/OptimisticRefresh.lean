import FluxDns.Cache.Admission
import FluxDns.Cache.MokaSwap

/-!
# Optimistic refreshes

A lookup that finds a stale record carries a permit, and its request may schedule a refresh with it.
The requests and the background tasks of several cores take their steps in any order; a core has its
own facade and finalizer, while cores may share a store.
-/

namespace FluxDns.Cache.Refresh

/-- The largest `usize`. -/
def usizeMax : Nat := 2 ^ 64 - 1

inductive CacheFacadeBuildError where
  | zeroRefreshCapacity

/-- The refreshes that run at once, and their bound. -/
structure RefreshAdmission where
  maxConcurrency : Nat
  inFlight : Nat

namespace RefreshAdmission

def new : Option Nat → Except CacheFacadeBuildError RefreshAdmission
  | some 0 => .error .zeroRefreshCapacity
  | some value => .ok ⟨value, 0⟩
  | none => .ok ⟨usizeMax, 0⟩

/-- The loop of `try_acquire` at the exchange or the load that ends it. -/
def tryAcquire (admission : RefreshAdmission) : Option RefreshAdmission :=
  if admission.maxConcurrency ≤ admission.inFlight ∨ admission.inFlight = usizeMax then none
  else some { admission with inFlight := admission.inFlight + 1 }

/-- The drop of a lease. -/
def release (admission : RefreshAdmission) : RefreshAdmission :=
  { admission with inFlight := admission.inFlight - 1 }

end RefreshAdmission

/-- The right to refresh a stale record once. -/
structure CacheRefreshPermit where
  key : CacheKey
  version : UInt64
  consumed : Bool
  /-- The permit holds a lease. -/
  admitted : Bool
  deriving DecidableEq

/-- Only one caller gets the right to refresh from a permit. -/
def CacheRefreshPermit.tryConsume (permit : CacheRefreshPermit) : CacheRefreshPermit × Bool :=
  if permit.admitted && !permit.consumed then ({ permit with consumed := true }, true)
  else (permit, false)

/-- The options of a cache facade. -/
structure CacheFacadeOptions where
  enabled : Bool
  optimisticEnabled : Bool
  admission : CacheAdmissionPolicy

inductive CacheLookup where
  | disabled
  | miss
  | fresh (record : CacheRecord)
  | stale (record : CacheRecord) (refresh : CacheRefreshPermit)
  | expired (record : CacheRecord)
  | storeUnavailable
  deriving DecidableEq

/-- `lookup_at` after the store has answered. -/
def lookupAt (options : CacheFacadeOptions) (admission : RefreshAdmission)
    (got : Except PortErrorClass (Option CacheRecord)) (key : CacheKey) (now : Instant) :
    RefreshAdmission × Except PortErrorClass CacheLookup :=
  if ¬ options.enabled then (admission, .ok .disabled)
  else
    match got with
    | .ok none => (admission, .ok .miss)
    | .error .unavailable => (admission, .ok .storeUnavailable)
    | .error error => (admission, .error error)
    | .ok (some record) =>
      if now < record.entry.expiresAt then (admission, .ok (.fresh record))
      else if options.optimisticEnabled && record.entry.staleUntil.any (now < ·) then
        match admission.tryAcquire with
        | some acquired => (acquired, .ok (.stale record ⟨key, record.version, false, true⟩))
        | none => (admission, .ok (.stale record ⟨key, record.version, false, false⟩))
      else (admission, .ok (.expired record))

inductive CacheDecision where
  | disabled
  | pool (namespace_ : CacheNamespace)
      (optimisticAnswerTtl optimisticMaxAge optimisticNegativeMaxAge : Option Duration)

namespace CacheDecision

def optimisticAnswerTtl : CacheDecision → Option Duration
  | .disabled => none
  | .pool _ answerTtl _ _ => answerTtl

def optimisticMaxAge : CacheDecision → Option Duration
  | .disabled => none
  | .pool _ _ maxAge _ => maxAge

def optimisticNegativeMaxAge : CacheDecision → Option Duration
  | .disabled => none
  | .pool _ _ _ negativeMaxAge => negativeMaxAge

end CacheDecision

/-- The TTL of a stale answer, nothing when the window of the pool has ended. -/
def staleAnswerTtl (decision : CacheDecision) (entry : CacheEntry) (now : Instant) :
    Option Duration := do
  let answerTtl ← decision.optimisticAnswerTtl
  let maxAge ← match entry.quality with
    | .complete => decision.optimisticMaxAge
    | .negative => decision.optimisticNegativeMaxAge
    | .failure => none
  if maxAge = 0 then none
  else if (Instant.checkedAdd entry.expiresAt maxAge).any (now < ·) then some answerTtl
  else none

/-- `DEFAULT_LATE_CACHE_FINALIZER_CAPACITY` -/
def finalizerCapacity : Nat := 64

/-- The refresh admission and the finalizer of a core. -/
structure Core where
  admission : RefreshAdmission
  /-- The free permits of the finalizer's semaphore. -/
  permits : Nat
  /-- The finalizer's tasks that are not refreshes. -/
  others : Nat
  shutdown : Bool

/-- What `build_cache_facade` builds. -/
def buildCacheFacade : Core where
  admission := ⟨usizeMax, 0⟩
  permits := finalizerCapacity
  others := 0
  shutdown := false

inductive Phase where
  | found (record : CacheRecord)
  /-- It is going to submit the refresh. -/
  | consumed
  /-- It is going to return and drop the permit. -/
  | leaving

/-- A request that holds a refresh permit. -/
structure Request where
  core : Nat
  permit : CacheRefreshPermit
  phase : Phase

inductive Stage where
  | spawned
  /-- The condition comes from a second lookup, whose permit still holds its lease. -/
  | chosen (key : CacheKey) (condition : CacheCondition)
  | exchanging (key : CacheKey) (condition : CacheCondition)
  | answered (key : CacheKey) (condition : CacheCondition) (response : CanonicalResponse)
      (upstream : CacheUpstreamProvenance)

/-- A background refresh. -/
structure Task where
  /-- The request that scheduled it. -/
  request : Nat
  /-- The core that runs it. -/
  core : Nat
  /-- The stale record comes from the store of that core. -/
  sameStore : Bool
  staleKey : CacheKey
  staleVersion : UInt64
  stage : Stage

/-- A refresh that has replaced a record under the condition on its version. -/
structure Replacement where
  store : Nat
  key : CacheKey
  version : UInt64

/-- All cores and stores with their requests and tasks. -/
structure World where
  cores : Nat → Core
  stores : Nat → Moka.World
  requests : Map Nat Request
  tasks : Map Nat Task
  nextId : Nat
  /-- The requests that scheduled a refresh; no operation reads it. -/
  scheduled : List Nat
  /-- The successful writes on a version; no operation reads it. -/
  replacements : List Replacement

def World.initial : World where
  cores _ := buildCacheFacade
  stores _ := .initial
  requests := ∅
  tasks := ∅
  nextId := 0
  scheduled := []
  replacements := []

/-- What stays the same in a run. -/
structure Setting where
  limits : Moka.Limits
  codec : WireCodec
  options : Nat → CacheFacadeOptions
  /-- The store of a core. -/
  store : Nat → Nat

inductive CacheActivityOutcome where
  | inserted
  | updated
  | rejected
  | conflict
  | failed
  | skipped
  | coalesced
  deriving DecidableEq

inductive Action where
  /-- Any other operation on a store. -/
  | store (store : Nat) (operation : Moka.Operation)
  /-- A lookup; the store may fail instead of answering with the visible record. -/
  | lookup (core : Nat) (key : CacheKey) (now : Instant) (failure : Option PortErrorClass)
  | answer (request : Nat) (decision : CacheDecision) (now : Instant)
  /-- `schedule_optimistic_refresh` with the latest core. -/
  | schedule (request : Nat) (core : Nat)
  | leave (request : Nat)
  /-- The first poll of a task, with the key of the prepared query. -/
  | prepare (task : Nat) (prepared : Option CacheKey) (now : Instant)
      (failure : Option PortErrorClass)
  /-- The permit of the second lookup is dropped. -/
  | proceed (task : Nat)
  /-- The exchange ends with a response or without one. -/
  | exchange (task : Nat) (reply : Option (CanonicalResponse × CacheUpstreamProvenance))
      (matchesQuery : Bool)
  /-- The second preparation and the write. -/
  | write (task : Nat) (unchanged : Bool) (now : Instant) (revision : UInt64)
      (deadline : Deadline)
  /-- Another background task enters the finalizer. -/
  | enter (core : Nat)
  | exit (core : Nat)
  | shutdown (core : Nat)
  /-- A task of a finalizer that was shut down ends. -/
  | cancelled (task : Nat)

inductive Answer where
  | done
  | looked (result : Except PortErrorClass CacheLookup)
  /-- The permit was consumed. -/
  | refreshing
  /-- The finalizer took the task. -/
  | submitted
  | refused
  | finished (outcome : CacheActivityOutcome)
  deriving DecidableEq

def World.setCore (world : World) (id : Nat) (core : Core) : World :=
  { world with cores := Function.update world.cores id core }

def World.setStore (world : World) (id : Nat) (store : Moka.World) : World :=
  { world with stores := Function.update world.stores id store }

/-- Give back a lease of the facade of a core. -/
def World.release (world : World) (core : Nat) : World :=
  world.setCore core { world.cores core with admission := (world.cores core).admission.release }

variable (setting : Setting) (world : World)

/-- What `get` answers: the visible record, unless the call fails. -/
def World.got (core : Nat) (key : CacheKey)
    (failure : Option PortErrorClass) : Except PortErrorClass (Option CacheRecord) :=
  match failure with
  | some error => .error error
  | none => .ok ((world.stores (setting.store core)).visible key)

def World.lookup (core : Nat) (key : CacheKey) (now : Instant)
    (failure : Option PortErrorClass) : World × Except PortErrorClass CacheLookup :=
  let result := lookupAt (setting.options core) (world.cores core).admission
    (world.got setting core key failure) key now
  (world.setCore core { world.cores core with admission := result.1 }, result.2)

variable (id : Nat) (task : Task)

/-- The task leaves the finalizer. -/
def World.endTask : World :=
  { world.setCore task.core
      { world.cores task.core with permits := (world.cores task.core).permits + 1 } with
    tasks := world.tasks.erase id }

def World.setTask (stage : Stage) : World :=
  { world with tasks := world.tasks.insert id { task with stage } }

def cacheActivityOutcome : Except PortErrorClass CacheWriteOutcome → CacheActivityOutcome
  | .ok (.inserted _) => .inserted
  | .ok (.replaced _) => .updated
  | .ok (.conflict _) => .conflict
  | .ok .rejectedQuality => .rejected
  | .error _ => .failed

/-- The request looks at the stale record and consumes its permit. -/
def answer (request : Request) (record : CacheRecord)
    (decision : CacheDecision) (now : Instant) : World × Answer :=
  match staleAnswerTtl decision record.entry now with
  | none =>
    ({ world with requests := world.requests.insert id { request with phase := .leaving } }, .done)
  | some _ =>
    match request.permit.tryConsume with
    | (permit, true) =>
      ({ world with
          requests := world.requests.insert id { request with permit, phase := .consumed } },
        .refreshing)
    | (permit, false) =>
      ({ world with
          requests := world.requests.insert id { request with permit, phase := .leaving } },
        .finished .coalesced)

/-- `submit_task` on the finalizer of the latest core. -/
def submit (request : Request) (target : Nat) : World × Answer :=
  let left := { world with requests := world.requests.insert id { request with phase := .leaving } }
  let core := world.cores target
  if core.shutdown then (left, .refused)
  else if core.permits = 0 then (left, .refused)
  else
    ({ left.setCore target { core with permits := core.permits - 1 } with
        tasks := world.tasks.insert world.nextId
          { request := id
            core := target
            sameStore := setting.store request.core == setting.store target
            staleKey := request.permit.key
            staleVersion := request.permit.version
            stage := .spawned }
        nextId := world.nextId + 1
        scheduled := id :: world.scheduled },
      .submitted)

/-- The task chooses the condition of its write. -/
def prepare
    (prepared : Option CacheKey) (now : Instant) (failure : Option PortErrorClass) :
    World × Answer :=
  match prepared with
  | none => (world.endTask id task, .finished .skipped)
  | some key =>
    if task.sameStore && key == task.staleKey then
      (world.setTask id task (.exchanging key (.version task.staleVersion)), .done)
    else
      match world.lookup setting task.core key now failure with
      | (world, .ok .miss) => (world.setTask id task (.exchanging key .absent), .done)
      | (world, .ok (.stale record permit)) =>
        if permit.admitted then
          (world.setTask id task (.chosen key (.version record.version)), .done)
        else (world.setTask id task (.exchanging key (.version record.version)), .done)
      | (world, .ok (.expired record)) =>
        (world.setTask id task (.exchanging key (.version record.version)), .done)
      | (world, .ok (.fresh _)) => (world.endTask id task, .finished .skipped)
      | (world, _) => (world.endTask id task, .finished .failed)

/-- The write of a refresh; nothing while the store is locked. -/
def write (key : CacheKey)
    (condition : CacheCondition) (entry : CacheEntry) (deadline : Deadline) :
    Option (World × Answer) :=
  let store := setting.store task.core
  match Moka.linearStep setting.limits (world.stores store) (.swap ⟨key, condition, entry⟩ deadline)
    with
  | some (next, .swapped result) =>
    let written := (world.setStore store next).endTask id task
    let replaced := match condition, result with
      | .version version, .ok outcome =>
        if outcome.assigned.isSome then [⟨store, key, version⟩] else []
      | _, _ => []
    some ({ written with replacements := replaced ++ world.replacements },
      .finished (cacheActivityOutcome result))
  | _ => none

def step : Action → Option (World × Answer)
  | .store store operation =>
    match Moka.linearStep setting.limits (world.stores store) operation with
    | none => none
    | some (next, _) => some (world.setStore store next, .done)
  | .lookup core key now failure =>
    let (next, result) := world.lookup setting core key now failure
    match result with
    | .ok (.stale record permit) =>
      some ({ next with
          requests := next.requests.insert next.nextId ⟨core, permit, .found record⟩
          nextId := next.nextId + 1 },
        .looked result)
    | _ => some (next, .looked result)
  | .answer id decision now =>
    match world.requests.lookup id with
    | some request =>
      match request.phase with
      | .found record => some (answer world id request record decision now)
      | _ => none
    | none => none
  | .schedule id target =>
    match world.requests.lookup id with
    | some request =>
      match request.phase with
      | .consumed => some (submit setting world id request target)
      | _ => none
    | none => none
  | .leave id =>
    match world.requests.lookup id with
    | some request =>
      match request.phase with
      | .leaving =>
        let left := { world with requests := world.requests.erase id }
        some (if request.permit.admitted then left.release request.core else left, .done)
      | _ => none
    | none => none
  | .prepare id prepared now failure =>
    match world.tasks.lookup id with
    | some task =>
      match task.stage with
      | .spawned => some (prepare setting world id task prepared now failure)
      | _ => none
    | none => none
  | .proceed id =>
    match world.tasks.lookup id with
    | some task =>
      match task.stage with
      | .chosen key condition =>
        some ((world.release task.core).setTask id task (.exchanging key condition), .done)
      | _ => none
    | none => none
  | .exchange id reply matchesQuery =>
    match world.tasks.lookup id with
    | some task =>
      match task.stage with
      | .exchanging key condition =>
        match reply with
        | none => some (world.endTask id task, .finished .failed)
        | some (response, upstream) =>
          if matchesQuery then
            some (world.setTask id task (.answered key condition response upstream), .done)
          else some (world.endTask id task, .finished .rejected)
      | _ => none
    | none => none
  | .write id unchanged now revision deadline =>
    match world.tasks.lookup id with
    | some task =>
      match task.stage with
      | .answered key condition response upstream =>
        if ¬ unchanged then some (world.endTask id task, .finished .skipped)
        else if ¬ (setting.options task.core).enabled then
          some (world.endTask id task, .finished .rejected)
        else
          match admitResponse setting.codec (setting.options task.core).admission response
              upstream now revision with
          | none => some (world.endTask id task, .finished .failed)
          | some (.rejected _) => some (world.endTask id task, .finished .rejected)
          | some (.accepted entry) => write setting world id task key condition entry deadline
      | _ => none
    | none => none
  | .enter id =>
    let core := world.cores id
    if core.shutdown ∨ core.permits = 0 then none
    else
      some (world.setCore id { core with permits := core.permits - 1, others := core.others + 1 },
        .done)
  | .exit id =>
    let core := world.cores id
    if core.others = 0 then none
    else
      some (world.setCore id { core with permits := core.permits + 1, others := core.others - 1 },
        .done)
  | .shutdown core => some (world.setCore core { world.cores core with shutdown := true }, .done)
  | .cancelled id =>
    match world.tasks.lookup id with
    | some task =>
      if (world.cores task.core).shutdown then
        match task.stage with
        | .chosen _ _ => some ((world.release task.core).endTask id task, .done)
        | _ => some (world.endTask id task, .done)
      else none
    | none => none

end FluxDns.Cache.Refresh
