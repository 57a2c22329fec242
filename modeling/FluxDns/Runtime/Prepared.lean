import FluxDns.Policy.PublicationLoop
import FluxDns.Resource.Registry

/-!
# Prepared runtimes

The resources of a runtime: the snapshots that its preparation loaded, the workers that refresh
them, and the policy and the metadata registry that take over what a worker has published.  A
candidate takes over the state of the runtime before it for all resources that are defined as
before.
-/

namespace FluxDns.Runtime

open Config Resource Policy Traversal RefreshedResourceSnapshot

inductive PrepareError where
  | fileHostsResource (resource reason : String)
  | fileRuleSetResource (resource reason : String)
  | remoteResource (resource reason : String)
  | resourceRefresh (resource reason : String)
  | policyCore (reason : PolicyBuildError)

inductive PreparedResourceWorker where
  | remoteRule (runtime : ResourceRefreshRuntime RuleIndex)
  | fileRule (runtime : ResourceRefreshRuntime RuleIndex) (resource : ResolvedRuleSet)
  | fileHosts (runtime : ResourceRefreshRuntime HostsIndex) (resource : ResolvedHostsResource)

abbrev ResourceWorkers := Map ConfigId PreparedResourceWorker

def refreshPolicy (id : ConfigId) (interval : Option Duration) :
    Except PrepareError (Nat × ResourceSchedulePolicy) :=
  let interval := interval.elim 0 fun value => max value.asSecs 1
  match ResourceSchedulePolicy.new interval 3 3 ⟨1, 300⟩ with
  | none => .error (.resourceRefresh id.text "auto_update requires a positive update interval")
  | some policy => .ok (interval, policy)

/-- The worker of a resource with automatic updates, which starts with the snapshot of the
preparation. -/
def workerOf {Index : Type} (failure : String → PrepareError) (missing : String)
    (snapshots : Snapshots Index) (initialDue : Nat) (automatic : Bool) (id : ConfigId)
    (updateInterval : Option Duration)
    (wrap : ResourceRefreshRuntime Index → PreparedResourceWorker) :
    Except PrepareError (Option PreparedResourceWorker) :=
  if automatic then do
    let (interval, policy) ← refreshPolicy id updateInterval
    match snapshots.lookup id with
    | none => .error (failure missing)
    | some snapshot =>
      let registry ← (ResourceRegistrySnapshot.publish ∅ snapshot).mapError fun _ =>
        failure "refresh registry could not be initialized"
      return some (wrap (.new registry policy (saturatingAdd initialDue interval)))
  else .ok none

-- A constant resource has no automatic updates, so the loops of the source pass over it.

def hostsWorker (snapshots : Snapshots HostsIndex) (initialDue : Nat)
    (resource : ResolvedHostsResource) : Except PrepareError (Option PreparedResourceWorker) :=
  workerOf (.fileHostsResource resource.id.text) "compiled file hosts snapshot is missing"
    snapshots initialDue resource.autoUpdate resource.id resource.updateInterval
    (.fileHosts · resource)

def PreparedResourceWorker.forRuleSet (runtime : ResourceRefreshRuntime RuleIndex) :
    ResolvedRuleSet → PreparedResourceWorker
  | .remote .. => .remoteRule runtime
  | resource => .fileRule runtime resource

def ruleSetWorker (snapshots : Snapshots RuleIndex) (initialDue : Nat)
    (resource : ResolvedRuleSet) : Except PrepareError (Option PreparedResourceWorker) :=
  workerOf (.fileRuleSetResource resource.id.text)
    "compiled file or remote rule-set snapshot is missing" snapshots initialDue
    resource.autoUpdate resource.id resource.updateInterval (.forRuleSet · resource)

variable (config : ResolvedConfig)

/-- The workers of both kinds of resources, under the names of their resources. -/
def buildResourceWorkers (hostSnapshots : Snapshots HostsIndex)
    (ruleSnapshots : Snapshots RuleIndex) (initialDue : Nat) :
    Except PrepareError ResourceWorkers := do
  let workers ← insertEach ResolvedHostsResource.id
    (hostsWorker hostSnapshots initialDue) ∅ config.hosts
  insertEach ResolvedRuleSet.id (ruleSetWorker ruleSnapshots initialDue) workers
    config.ruleSets

/-- What was read from a source. -/
structure Loaded (Index : Type) where
  contentHash : String
  index : Index

/-- What reading the sources of resources gives at some time. -/
structure Sources where
  loadHosts : ResolvedHostsResource → Except String (Loaded HostsIndex)
  loadRuleSet : ResolvedRuleSet → Except String (Loaded RuleIndex)
  restoreRemoteRuleSet : ResolvedRuleSet → Except String (Loaded RuleIndex)
  fetchRemoteRuleSet : ResolvedRuleSet → Reading RuleIndex

/-- The content of a local resource that was read by its worker. -/
def Loaded.reading {Index : Type} : Except String (Loaded Index) → Reading Index
  | .ok loaded => .loaded loaded.contentHash loaded.index
  | .error reason => .failed reason

variable (sources : Sources)

def localHostsSnapshot :
    ResolvedHostsResource → Except PrepareError (Option (ResourceSnapshot HostsIndex))
  | .const .. => .ok none
  | .file id format path autoUpdate updateInterval => do
      let loaded ← (sources.loadHosts (.file id format path autoUpdate updateInterval)).mapError
        (.fileHostsResource id.text)
      return some ⟨id, ⟨1, 1⟩, loaded.contentHash, loaded.index⟩

def localRuleSnapshot : ResolvedRuleSet → Except PrepareError (Option (ResourceSnapshot RuleIndex))
  | .const .. | .remote .. => .ok none
  | .file id format path autoUpdate updateInterval => do
      let loaded ← (sources.loadRuleSet (.file id format path autoUpdate updateInterval)).mapError
        (.fileRuleSetResource id.text)
      return some ⟨id, ⟨1, 1⟩, loaded.contentHash, loaded.index⟩

/-- A remote rule set is restored, or else fetched. -/
def remoteRuleSnapshot (resource : ResolvedRuleSet) :
    Except PrepareError (Option (ResourceSnapshot RuleIndex)) :=
  match resource with
  | .const .. | .file .. => .ok none
  | .remote id .. =>
    match sources.restoreRemoteRuleSet resource with
    | .ok loaded => .ok (some ⟨id, ⟨0, 0⟩, loaded.contentHash, loaded.index⟩)
    | .error restoreError =>
      match sources.fetchRemoteRuleSet resource with
      | .loaded contentHash index => .ok (some ⟨id, ⟨0, 0⟩, contentHash, index⟩)
      | .failed reason | .interrupted reason =>
        .error (.remoteResource id.text
          s!"restore failed: {restoreError}; fetch failed: {reason}")
      | .dropped => .error (.remoteResource id.text "the preparation was dropped")

def resourceMetadata {Index : Type} (snapshot : ResourceSnapshot Index) : ResourceSnapshot Unit :=
  ⟨snapshot.resourceId, snapshot.version, snapshot.contentHash, ()⟩

/-- The metadata of all resources before anything was loaded. -/
def initialMetadata (normalizedHash : String) (config : ResolvedConfig) :
    ResourceRegistrySnapshot Unit :=
  (config.hosts.map (·.id) ++ config.ruleSets.map (·.id)).foldl (fun registry id =>
    match registry.publish ⟨id, ⟨0, 0⟩, normalizedHash, ()⟩ with
    | .ok next => next
    | .error _ => registry) ∅

def replaceMetadata {Index : Type} (registry : ResourceRegistrySnapshot Unit)
    (snapshots : Snapshots Index) : ResourceRegistrySnapshot Unit :=
  snapshots.foldl (fun registry id snapshot => registry.insert id (resourceMetadata snapshot))
    registry

/-- The part of `PreparedRuntime` and of its snapshot that concerns resources. -/
structure PreparedRuntime where
  config : ResolvedConfig
  policy : PolicyState
  metadata : ResourceRegistrySnapshot Unit
  resourceSnapshots : Snapshots RuleIndex
  hostResourceSnapshots : Snapshots HostsIndex
  resourceWorkers : ResourceWorkers

/-- `prepare_with_policy_core_and_remote_resources` -/
def prepare (fallback : FallbackHashes) (normalizedHash : String)
    (initialDue : Nat) (config : ResolvedConfig) : Except PrepareError PreparedRuntime := do
  let hostSnapshots ← insertEach ResolvedHostsResource.id (localHostsSnapshot sources) ∅
    config.hosts
  let fileSnapshots ← insertEach ResolvedRuleSet.id (localRuleSnapshot sources) ∅
    config.ruleSets
  let ruleSnapshots ← insertEach ResolvedRuleSet.id (remoteRuleSnapshot sources)
    fileSnapshots config.ruleSets
  let loader : ResourceLoader := ⟨fun resource => (sources.loadHosts resource).map (·.index),
    fun resource => (sources.loadRuleSet resource).map (·.index)⟩
  let policy ← (PolicyState.fromConfig loader fallback config hostSnapshots ruleSnapshots).mapError
    .policyCore
  let resourceWorkers ← buildResourceWorkers config hostSnapshots ruleSnapshots initialDue
  return {
    config
    policy
    metadata := replaceMetadata (replaceMetadata (initialMetadata normalizedHash config)
      hostSnapshots) ruleSnapshots
    resourceSnapshots := ruleSnapshots
    hostResourceSnapshots := hostSnapshots
    resourceWorkers }

/-- The definition of a resource, which is also the source that its content is read from. -/
inductive ResourceDefinition where
  | hosts (resource : ResolvedHostsResource)
  | ruleSet (resource : ResolvedRuleSet)
  deriving DecidableEq

def ResourceDefinition.id : ResourceDefinition → ConfigId
  | .hosts resource => resource.id
  | .ruleSet resource => resource.id

def findHostResource (id : ConfigId) : Option ResolvedHostsResource :=
  config.hosts.find? (·.id = id)

def findRuleSet (id : ConfigId) : Option ResolvedRuleSet :=
  config.ruleSets.find? (·.id = id)

/-- What a worker reads: a local one has its definition, a remote one is given the rule set of its
name. -/
def PreparedResourceWorker.source (id : ConfigId) :
    PreparedResourceWorker → Option ResourceDefinition
  | .fileHosts _ resource => some (.hosts resource)
  | .fileRule _ resource => some (.ruleSet resource)
  | .remoteRule _ => (findRuleSet config id).map .ruleSet

inductive RefreshResourceError where
  | notConfigured (resource : String)
  | worker (resource : String) (error : RefreshWorkerError)
  | policy (resource : String) (error : PolicyResourcePublishError)
  | snapshot (resource : String) (error : ResourcePublishError)

/-- `refresh_resource` up to the publication by the worker. -/
def PreparedResourceWorker.refresh (config : ResolvedConfig) (sources : Sources) (id : ConfigId)
    (now : Nat) : PreparedResourceWorker →
      PreparedResourceWorker × Except RefreshResourceError RefreshedResourceSnapshot
  | .remoteRule runtime =>
    match findRuleSet config id with
    | none => (.remoteRule runtime, .error (.notConfigured id.text))
    | some (.const other ..) | some (.file other ..) =>
      (.remoteRule runtime, .error (.worker id.text (.unsupportedSource other.text)))
    | some (.remote own format url proxy autoUpdate updateInterval) =>
      let reading := sources.fetchRemoteRuleSet
        (.remote own format url proxy autoUpdate updateInterval)
      let (runtime, result) := runtime.refresh true own now reading
      (.remoteRule runtime, (result.map .ruleSet).mapError (.worker id.text))
  | .fileRule runtime resource =>
    match resource with
    | .const other .. | .remote other .. =>
      (.fileRule runtime resource, .error (.worker id.text (.unsupportedSource other.text)))
    | .file own .. =>
      let reading := Loaded.reading (sources.loadRuleSet resource)
      let (runtime, result) := runtime.refresh false own now reading
      (.fileRule runtime resource, (result.map .ruleSet).mapError (.worker id.text))
  | .fileHosts runtime resource =>
    match resource with
    | .const other .. =>
      (.fileHosts runtime resource, .error (.worker id.text (.unsupportedSource other.text)))
    | .file own .. =>
      let reading := Loaded.reading (sources.loadHosts resource)
      let (runtime, result) := runtime.refresh false own now reading
      (.fileHosts runtime resource, (result.map .hosts).mapError (.worker id.text))

def refreshedMetadata : RefreshedResourceSnapshot → ResourceSnapshot Unit
  | .hosts snapshot => resourceMetadata snapshot
  | .ruleSet snapshot => resourceMetadata snapshot

/-- `publish_resource`, which has nothing to do when the metadata are as new. -/
def publishMetadata (registry : ResourceRegistrySnapshot Unit) (candidate : ResourceSnapshot Unit) :
    Except ResourcePublishError (ResourceRegistrySnapshot Unit) :=
  let current := registry.version? candidate.resourceId
  if current.any (candidate.version ≤ ·) then .ok registry
  else registry.compareAndPublish current candidate

def PreparedRuntime.refreshResource (runtime : PreparedRuntime) (sources : Sources)
    (id : ConfigId) (now : Nat) :
    PreparedRuntime × Except RefreshResourceError RefreshedResourceSnapshot :=
  match runtime.resourceWorkers.lookup id with
  | none => (runtime, .error (.notConfigured id.text))
  | some worker =>
    let (worker, result) := worker.refresh runtime.config sources id now
    let runtime := { runtime with resourceWorkers := runtime.resourceWorkers.insert id worker }
    match result with
    | .error error => (runtime, .error error)
    | .ok refreshed =>
      match runtime.policy.publish refreshed with
      | .error error => (runtime, .error (.policy id.text error))
      | .ok policy =>
        let runtime := { runtime with policy }
        match publishMetadata runtime.metadata (refreshedMetadata refreshed) with
        | .error error => (runtime, .error (.snapshot id.text error))
        | .ok metadata => ({ runtime with metadata }, .ok refreshed)

variable (candidate incoming : ResolvedConfig) (id : ConfigId)

def sameHostResource : Bool :=
  findHostResource candidate id = findHostResource incoming id

def sameRuleSet : Bool :=
  findRuleSet candidate id = findRuleSet incoming id

def sameResource : Bool :=
  match findHostResource candidate id, findHostResource incoming id,
    findRuleSet candidate id, findRuleSet incoming id with
  | some left, some right, none, none => left = right
  | none, none, some left, some right => left = right
  | _, _, _, _ => false

def currentSnapshot {Index : Type} (runtime : ResourceRefreshRuntime Index) :
    Option (ResourceSnapshot Index) :=
  runtime.registry.entries.head?.map (·.2)

namespace PreparedResourceWorker

def currentHostsSnapshot : PreparedResourceWorker → Option (ResourceSnapshot HostsIndex)
  | .fileHosts runtime _ => currentSnapshot runtime
  | .remoteRule _ | .fileRule _ _ => none

def currentRuleSnapshot : PreparedResourceWorker → Option (ResourceSnapshot RuleIndex)
  | .remoteRule runtime | .fileRule runtime _ => currentSnapshot runtime
  | .fileHosts _ _ => none

def mergeStateFrom : PreparedResourceWorker → PreparedResourceWorker → PreparedResourceWorker
  | .remoteRule current, .remoteRule incoming => .remoteRule (current.mergeStateFrom incoming)
  | .fileRule current resource, .fileRule incoming _ =>
    .fileRule (current.mergeStateFrom incoming) resource
  | .fileHosts current resource, .fileHosts incoming _ =>
    .fileHosts (current.mergeStateFrom incoming) resource
  | current, _ => current

end PreparedResourceWorker

namespace PreparedRuntime

/-- The snapshots that an incoming runtime offers, in the order of the four loops. -/
def offered (candidate : ResolvedConfig) (incoming : PreparedRuntime) :
    List (ConfigId × RefreshedResourceSnapshot) :=
  let hosts (id : ConfigId) (snapshot : Option (ResourceSnapshot HostsIndex)) :=
    if sameHostResource candidate incoming.config id then snapshot.map fun snapshot =>
      (id, hosts snapshot)
    else none
  let rules (id : ConfigId) (snapshot : Option (ResourceSnapshot RuleIndex)) :=
    if sameRuleSet candidate incoming.config id then snapshot.map fun snapshot =>
      (id, ruleSet snapshot)
    else none
  (incoming.resourceWorkers.entries.filterMap fun entry =>
      hosts entry.1 entry.2.currentHostsSnapshot) ++
    (incoming.resourceWorkers.entries.filterMap fun entry =>
      rules entry.1 entry.2.currentRuleSnapshot) ++
    (incoming.hostResourceSnapshots.entries.filterMap fun entry => hosts entry.1 (some entry.2)) ++
    incoming.resourceSnapshots.entries.filterMap fun entry => rules entry.1 (some entry.2)

variable (runtime : PreparedRuntime)

/-- The snapshot that was kept since the preparation or since a merge. -/
def held : ResourceKey → Option RefreshedResourceSnapshot
  | .hosts id => (runtime.hostResourceSnapshots.lookup id).map .hosts
  | .ruleSet id => (runtime.resourceSnapshots.lookup id).map .ruleSet

def keep (id : ConfigId) : RefreshedResourceSnapshot → PreparedRuntime
  | .hosts snapshot =>
    { runtime with hostResourceSnapshots := runtime.hostResourceSnapshots.insert id snapshot }
  | .ruleSet snapshot =>
    { runtime with resourceSnapshots := runtime.resourceSnapshots.insert id snapshot }

/-- The name of a resource of the kind of a snapshot. -/
def keyed (id : ConfigId) : RefreshedResourceSnapshot → ResourceKey
  | .hosts _ => .hosts id
  | .ruleSet _ => .ruleSet id

/-- One round of the four loops: a newer snapshot is kept and offered to the policy, which may
refuse it. -/
def mergeSnapshot (offer : ConfigId × RefreshedResourceSnapshot) :
    PreparedRuntime :=
  if (runtime.held (keyed offer.1 offer.2)).all (·.version < offer.2.version) then
    { runtime.keep offer.1 offer.2 with policy := runtime.policy.afterPublish offer.2 }
  else runtime

def mergeStateFrom (runtime incoming : PreparedRuntime) : PreparedRuntime :=
  let same := sameResource runtime.config incoming.config
  let merged := (offered runtime.config incoming).foldl mergeSnapshot runtime
  { merged with
    metadata := merged.metadata.mergeNewerFrom incoming.metadata same
    resourceWorkers := merged.resourceWorkers.mapValues fun id worker =>
      if same id then (incoming.resourceWorkers.lookup id).elim worker worker.mergeStateFrom
      else worker }

end PreparedRuntime

end FluxDns.Runtime
