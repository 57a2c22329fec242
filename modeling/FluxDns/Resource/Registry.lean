import FluxDns.Library.AssociationList
import FluxDns.Resource.Indexes
import FluxDns.Resource.Schedule

/-!
# Registries and refreshes of resources

The published snapshots by the names of their resources, and the refreshes of one worker.  A
reservation gives out the next epoch, and its candidate is published against the version that was
current when the reservation was made.
-/

namespace FluxDns.Resource

open Config Option

abbrev ResourceRegistrySnapshot (Index : Type) := Map ConfigId (ResourceSnapshot Index)

inductive ResourcePublishError where
  | compareAndSwapFailed (expected actual : Option ResourceVersion)
  | staleEpoch (current candidate : ResourceVersion)

namespace ResourceRegistrySnapshot

variable {Index : Type} (registry : ResourceRegistrySnapshot Index)

def version? (id : ConfigId) : Option ResourceVersion :=
  (registry.lookup id).map (·.version)

/-- `publish_arc`; without an expected version nothing is compared. -/
def publishArc (candidate : ResourceSnapshot Index) (expected : Option (Option ResourceVersion)) :
    Except ResourcePublishError (ResourceRegistrySnapshot Index) :=
  let actual := registry.version? candidate.resourceId
  match expected.filter (· ≠ actual) with
  | some expected => .error (.compareAndSwapFailed expected actual)
  | none =>
    match actual.filter (candidate.version.epoch ≤ ·.epoch) with
    | some current => .error (.staleEpoch current candidate.version)
    | none => .ok (registry.insert candidate.resourceId candidate)

def publish (candidate : ResourceSnapshot Index) :
    Except ResourcePublishError (ResourceRegistrySnapshot Index) :=
  registry.publishArc candidate none

def compareAndPublish (expected : Option ResourceVersion) (candidate : ResourceSnapshot Index) :
    Except ResourcePublishError (ResourceRegistrySnapshot Index) :=
  registry.publishArc candidate (some expected)

/-- The candidate takes over the allowed snapshots that are newer than its own. -/
def mergeNewerFrom (registry incoming : ResourceRegistrySnapshot Index)
    (allowed : ConfigId → Bool) : ResourceRegistrySnapshot Index :=
  incoming.foldl (fun merged id snapshot =>
    if allowed id && (merged.version? id).all (· < snapshot.version) then merged.insert id snapshot
    else merged) registry

theorem compareAndPublish_eq_ok {registry : ResourceRegistrySnapshot Index}
    {candidate : ResourceSnapshot Index}
    (newer : ∀ current ∈ registry.version? candidate.resourceId,
      current.epoch < candidate.version.epoch) :
    registry.compareAndPublish (registry.version? candidate.resourceId) candidate =
      .ok (registry.insert candidate.resourceId candidate) := by
  simp only [compareAndPublish, publishArc, ne_eq, not_true_eq_false, decide_false,
    filter_some, Bool.false_eq_true, if_false]
  have fresh : (registry.version? candidate.resourceId).filter
      (candidate.version.epoch ≤ ·.epoch) = none := by
    rw [filter_eq_none_iff]
    intro current found
    simpa using newer current found
  rw [fresh]

theorem version?_mergeNewerFrom (registry incoming : ResourceRegistrySnapshot Index)
    (allowed : ConfigId → Bool) (id : ConfigId) :
    (registry.mergeNewerFrom incoming allowed).version? id =
      (incoming.lookup id).elim (registry.version? id) fun snapshot =>
        if allowed id && (registry.version? id).all (· < snapshot.version) then
          some snapshot.version
        else registry.version? id := by
  refine AList.foldl_at _ (version? · id) (fun current snapshot =>
    if allowed id && current.all (· < snapshot.version) then some snapshot.version else current)
    ?_ ?_ incoming registry
  · intro merged snapshot
    split_ifs <;> simp [version?]
  · intro merged other snapshot differs
    split_ifs <;> simp [version?, Ne.symm differs]

end ResourceRegistrySnapshot

/-- A running refresh. -/
structure InFlight where
  epoch : UInt64
  token : UInt64
  expected : Option ResourceVersion

/-- The refreshes of one resource. -/
structure ResourceState where
  nextEpoch : UInt64
  inFlight : Option InFlight
  consecutiveFailures : Nat
  retryNotBefore : Nat

/-- `ResourceRefreshRuntime` with the state of its coordinator. -/
structure ResourceRefreshRuntime (Index : Type) where
  registry : ResourceRegistrySnapshot Index
  resources : Map ConfigId ResourceState
  nextToken : UInt64
  schedules : Map ConfigId ResourceSchedule
  backoff : RefreshBackoff

/-- The permit of a running refresh. -/
structure RefreshPermit where
  resourceId : ConfigId
  epoch : UInt64
  token : UInt64

inductive RefreshBeginError where
  | unknownResource
  | notDue (decision : ResourceScheduleDecision)
  | alreadyRefreshing (epoch : UInt64)
  | backoff (retryNotBefore consecutiveFailures : Nat)
  | epochExhausted

inductive RefreshPublishError where
  | unknownAttempt
  | resourceMismatch (expected actual : ConfigId)
  | epochMismatch (expected actual : UInt64)
  | registry (error : ResourcePublishError)

/-- How the source of a resource is read. -/
inductive Reading (Index : Type) where
  | loaded (contentHash : String) (index : Index)
  | failed (reason : String)
  /-- The request was cancelled or met its deadline. -/
  | interrupted (reason : String)
  /-- The caller dropped the refresh while it waited. -/
  | dropped

inductive RefreshWorkerError where
  | unsupportedSource (resource : String)
  | begin (error : RefreshBeginError)
  | load (reason : String)
  | publish (error : RefreshPublishError)
  | release (error : RefreshPublishError)
  | dropped

namespace ResourceRefreshRuntime

variable {Index : Type}

def new (registry : ResourceRegistrySnapshot Index) (policy : ResourceSchedulePolicy)
    (initialDue : Nat) : ResourceRefreshRuntime Index where
  registry := registry
  resources := ∅
  nextToken := 0
  schedules := registry.foldl (fun schedules id _ => schedules.insert id (.new policy initialDue)) ∅
  backoff := policy.backoff

variable (runtime : ResourceRefreshRuntime Index) (id : ConfigId)

def state : ResourceState :=
  (runtime.resources.lookup id).getD ⟨0, none, 0, 0⟩

/-- `begin` of the coordinator. -/
def begin (now : Nat) : Except RefreshBeginError (RefreshPermit × ResourceRefreshRuntime Index) :=
  let current := runtime.registry.version? id
  let state := runtime.state id
  match state.inFlight with
  | some inFlight => .error (.alreadyRefreshing inFlight.epoch)
  | none =>
    if now < state.retryNotBefore then
      .error (.backoff state.retryNotBefore state.consecutiveFailures)
    else
      let last := max state.nextEpoch ((current.map (·.epoch)).getD 0)
      if last.toNat + 1 = u64Size then .error .epochExhausted
      else
        let epoch := last + 1
        let token := runtime.nextToken
        .ok (⟨id, epoch, token⟩, { runtime with
          nextToken := token + 1
          resources := runtime.resources.insert id { state with
            nextEpoch := epoch
            inFlight := some ⟨epoch, token, current⟩ } })

def beginDue (now : Nat) :
    Except RefreshBeginError (RefreshPermit × ResourceRefreshRuntime Index) :=
  match runtime.schedules.lookup id with
  | none => .error .unknownResource
  | some schedule =>
    match schedule.decision now with
    | .due _ _ _ => runtime.begin id now
    | decision => .error (.notDue decision)

variable (permit : RefreshPermit)

/-- The attempt of a permit, if it is still the one in flight. -/
def attempt : Option InFlight :=
  (runtime.state permit.resourceId).inFlight.filter (·.token = permit.token)

def updateSchedule (update : ResourceSchedule → ResourceSchedule) : ResourceRefreshRuntime Index :=
  match runtime.schedules.lookup id with
  | some schedule => { runtime with schedules := runtime.schedules.insert id (update schedule) }
  | none => runtime

def publish (candidate : ResourceSnapshot Index) (completedAt : Nat) :
    Except RefreshPublishError (ResourceRefreshRuntime Index) :=
  if candidate.resourceId ≠ permit.resourceId then
    .error (.resourceMismatch permit.resourceId candidate.resourceId)
  else if candidate.version.epoch ≠ permit.epoch then
    .error (.epochMismatch permit.epoch candidate.version.epoch)
  else
    match runtime.attempt permit with
    | none => .error .unknownAttempt
    | some inFlight =>
      match runtime.registry.compareAndPublish inFlight.expected candidate with
      | .error error => .error (.registry error)
      | .ok registry =>
        let state := { runtime.state permit.resourceId with
          inFlight := none, consecutiveFailures := 0, retryNotBefore := 0 }
        .ok ({ runtime with
          registry
          resources := runtime.resources.insert permit.resourceId state }.updateSchedule
            permit.resourceId (·.recordSuccess completedAt))

def fail (failedAt : Nat) : Except RefreshPublishError (ResourceRefreshRuntime Index) :=
  match runtime.attempt permit with
  | none => .error .unknownAttempt
  | some _ =>
    let state := runtime.state permit.resourceId
    let failures := min (state.consecutiveFailures + 1) (u32Size - 1)
    let state := { state with
      inFlight := none
      consecutiveFailures := failures
      retryNotBefore :=
        saturatingAdd failedAt (ResourceSchedule.backoffDelay runtime.backoff failures) }
    .ok ({ runtime with resources := runtime.resources.insert permit.resourceId state
      }.updateSchedule permit.resourceId (·.recordFailure failedAt))

/-- `abandon`, with whether there was something to release. -/
def abandon : Bool × ResourceRefreshRuntime Index :=
  match runtime.attempt permit with
  | none => (false, runtime)
  | some _ =>
    (true, { runtime with
      resources := runtime.resources.insert permit.resourceId
        { runtime.state permit.resourceId with inFlight := none } })

/-- One refresh of a worker; only a remote one ignores that its reservation cannot be released. -/
def refresh (remote : Bool) (id : ConfigId) (now : Nat) (reading : Reading Index) :
    ResourceRefreshRuntime Index × Except RefreshWorkerError (ResourceSnapshot Index) :=
  match runtime.beginDue id now with
  | .error error => (runtime, .error (.begin error))
  | .ok (permit, runtime) =>
    match reading with
    | .dropped => (runtime, .error .dropped)
    | .interrupted reason => ((runtime.abandon permit).2, .error (.load reason))
    | .failed reason =>
      match runtime.fail permit now with
      | .error error => (runtime, .error (if remote then .load reason else .release error))
      | .ok runtime => (runtime, .error (.load reason))
    | .loaded contentHash index =>
      let candidate : ResourceSnapshot Index := ⟨id, ⟨permit.epoch, 0⟩, contentHash, index⟩
      match runtime.publish permit candidate now with
      | .ok runtime => (runtime, .ok candidate)
      | .error error =>
        match runtime.abandon permit with
        | (false, runtime) => (runtime, .error (.release error))
        | (true, runtime) => (runtime, .error (.publish error))

/-- Stable state of another worker is taken over, but no reservation. -/
def mergeStateFrom (incoming : ResourceRefreshRuntime Index) : ResourceRefreshRuntime Index :=
  { runtime with
    registry := runtime.registry.mergeNewerFrom incoming.registry fun _ => true
    schedules := runtime.schedules.mapValues fun id schedule =>
      (incoming.schedules.lookup id).elim schedule schedule.mergeStableStateFrom }

@[simp]
theorem registry_updateSchedule (id : ConfigId) (update : ResourceSchedule → ResourceSchedule) :
    (runtime.updateSchedule id update).registry = runtime.registry := by
  unfold updateSchedule
  split <;> rfl

@[simp]
theorem registry_abandon (permit : RefreshPermit) :
    (runtime.abandon permit).2.registry = runtime.registry := by
  unfold abandon
  split <;> rfl

variable {runtime} {permit : RefreshPermit}

private theorem lt_succ_max {next current : UInt64}
    (room : (max next current).toNat + 1 ≠ u64Size) :
    next < max next current + 1 ∧ current < max next current + 1 := by
  have below :
      next.toNat ≤ (max next current).toNat ∧ current.toNat ≤ (max next current).toNat := by
    change _ ≤ (if next ≤ current then current else next).toNat ∧
      _ ≤ (if next ≤ current then current else next).toNat
    split_ifs with ordered
    · exact ⟨ordered, le_rfl⟩
    · exact ⟨le_rfl, Nat.le_of_lt (not_le.mp ordered)⟩
  generalize max next current = last at room below ⊢
  have bound := last.toNat_lt
  have size : u64Size = 2 ^ 64 := rfl
  rw [UInt64.lt_iff_toNat_lt, UInt64.lt_iff_toNat_lt, UInt64.toNat_add, UInt64.toNat_one,
    Nat.mod_eq_of_lt (by omega)]
  omega

theorem begin_ok {begun : ResourceRefreshRuntime Index} {id : ConfigId} {now : Nat}
    (reserved : runtime.begin id now = .ok (permit, begun)) :
    permit.resourceId = id ∧ permit.token = runtime.nextToken ∧
    (∀ current ∈ runtime.registry.version? id, current.epoch < permit.epoch) ∧
    (runtime.state id).nextEpoch < permit.epoch ∧
    begun = { runtime with
      nextToken := permit.token + 1
      resources := runtime.resources.insert id { runtime.state id with
        nextEpoch := permit.epoch
        inFlight := some ⟨permit.epoch, permit.token, runtime.registry.version? id⟩ } } := by
  unfold begin at reserved
  dsimp only at reserved
  split at reserved <;> try cases reserved
  split_ifs at reserved with waits exhausted
  cases reserved
  refine ⟨rfl, rfl, fun current found => ?_, (lt_succ_max exhausted).1, rfl⟩
  rw [mem_def.mp found, map_some, getD_some] at exhausted ⊢
  exact (lt_succ_max exhausted).2

theorem beginDue_ok {id : ConfigId} {now : Nat}
    {reserved : RefreshPermit × ResourceRefreshRuntime Index}
    (due : runtime.beginDue id now = .ok reserved) : runtime.begin id now = .ok reserved := by
  unfold beginDue at due
  split at due <;> try cases due
  split at due
  · exact due
  · cases due

theorem publish_ok {inFlight : InFlight}
    (candidate : ResourceSnapshot Index) (named : candidate.resourceId = permit.resourceId)
    (numbered : candidate.version.epoch = permit.epoch)
    (attempted : runtime.attempt permit = some inFlight)
    (expected : inFlight.expected = runtime.registry.version? permit.resourceId)
    (newer : ∀ current ∈ runtime.registry.version? permit.resourceId, current.epoch < permit.epoch)
    (completedAt : Nat) :
    ∃ next, runtime.publish permit candidate completedAt = .ok next ∧
      next.registry = runtime.registry.insert permit.resourceId candidate := by
  rw [← named] at expected newer
  rw [← numbered] at newer
  simp only [publish, named, numbered, attempted, ne_eq, not_true_eq_false, if_false, expected]
  rw [named.symm, ResourceRegistrySnapshot.compareAndPublish_eq_ok newer]
  exact ⟨_, rfl, by simp⟩

/-- A refresh keeps the registry and reports an error, or replaces the snapshot of its resource by
the one of a later epoch that it returns. -/
theorem refresh_cases (runtime : ResourceRefreshRuntime Index) (remote : Bool) (id : ConfigId)
    (now : Nat) (reading : Reading Index) :
    (∃ error, (runtime.refresh remote id now reading).2 = .error error ∧
      (runtime.refresh remote id now reading).1.registry = runtime.registry) ∨
    ∃ candidate, (runtime.refresh remote id now reading).2 = .ok candidate ∧
      candidate.resourceId = id ∧ reading = .loaded candidate.contentHash candidate.compiled ∧
      (∀ current ∈ runtime.registry.version? id, current.epoch < candidate.version.epoch) ∧
      (runtime.refresh remote id now reading).1.registry =
        runtime.registry.insert id candidate := by
  unfold refresh
  split
  · exact .inl ⟨_, rfl, rfl⟩
  · next permit begun due =>
    obtain ⟨rfl, -, newer, -, begun_eq⟩ := begin_ok (beginDue_ok due)
    have registry_eq : begun.registry = runtime.registry := by rw [begun_eq]
    have attempted : begun.attempt permit =
        some ⟨permit.epoch, permit.token, runtime.registry.version? permit.resourceId⟩ := by
      simp [begun_eq, attempt, state]
    cases reading with
    | dropped => exact .inl ⟨_, rfl, registry_eq⟩
    | interrupted reason => exact .inl ⟨_, rfl, by rw [registry_abandon, registry_eq]⟩
    | failed reason =>
      have failed : ∃ next, begun.fail permit now = .ok next ∧
          next.registry = begun.registry := by
        simp only [fail, attempted]
        exact ⟨_, rfl, by simp⟩
      obtain ⟨next, failed_eq, kept⟩ := failed
      rw [failed_eq]
      exact .inl ⟨_, rfl, kept.trans registry_eq⟩
    | loaded contentHash index =>
      dsimp only
      obtain ⟨next, published_eq, replaced⟩ := publish_ok
        ⟨permit.resourceId, ⟨permit.epoch, 0⟩, contentHash, index⟩ rfl rfl attempted
        (by rw [registry_eq]) (by rwa [registry_eq]) now
      rw [published_eq]
      exact .inr ⟨_, rfl, rfl, rfl, newer, registry_eq ▸ replaced⟩

end ResourceRefreshRuntime

end FluxDns.Resource
