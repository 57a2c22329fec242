import FluxDns.Policy.Plan

/-!
# Publications of refreshed resources

A running policy takes over the content of one resource at a time.  A publication reads the current
state, prepares the next one and exchanges them unless another publication came first, so that it
has its effect in one step.
-/

namespace FluxDns.Policy

open Config Resource ResourceVersion

/-- A running policy with its versions. -/
structure PolicyState where
  index : PolicyIndex
  hostVersions : Map ConfigId ResourceVersion
  ruleSetVersions : Map ConfigId ResourceVersion
  hostContentHashes : Map ConfigId String
  ruleSetContentHashes : Map ConfigId String

abbrev Snapshots (Index : Type) := Map ConfigId (ResourceSnapshot Index)

def Snapshots.indexes {Index : Type} (snapshots : Snapshots Index) : Map ConfigId Index :=
  snapshots.mapValues fun _ snapshot => snapshot.compiled

/-- The hashes of resources without a snapshot. -/
structure FallbackHashes where
  hosts : ResolvedHostsResource → String
  ruleSet : ResolvedRuleSet → String

/-- A map with one entry for each resource, the last one of a name. -/
def collect {Resource Value : Type} (id : Resource → ConfigId) (value : Resource → Value)
    (resources : List Resource) : Map ConfigId Value :=
  resources.foldl (fun collected resource => collected.insert (id resource) (value resource)) ∅

/-- `from_config_with_upstream_runtime_and_resource_snapshots`, without the upstreams. -/
def PolicyState.fromConfig (loader : ResourceLoader) (fallback : FallbackHashes)
    (config : ResolvedConfig) (hostSnapshots : Snapshots HostsIndex)
    (ruleSnapshots : Snapshots RuleIndex) : Except PolicyBuildError PolicyState := do
  let index ← PolicyIndex.fromConfig loader config hostSnapshots.indexes ruleSnapshots.indexes
  return {
    index
    hostVersions := collect ResolvedHostsResource.id (fun _ => ⟨1, 1⟩) config.hosts
    ruleSetVersions := collect ResolvedRuleSet.id
      (fun resource => ((ruleSnapshots.lookup resource.id).map (·.version)).getD ⟨1, 1⟩)
      config.ruleSets
    hostContentHashes := collect ResolvedHostsResource.id
      (fun resource => ((hostSnapshots.lookup resource.id).map (·.contentHash)).getD
        (fallback.hosts resource)) config.hosts
    ruleSetContentHashes := collect ResolvedRuleSet.id
      (fun resource => ((ruleSnapshots.lookup resource.id).map (·.contentHash)).getD
        (fallback.ruleSet resource)) config.ruleSets }

inductive PolicyResourcePublishError where
  | unknownResource (resource : String)
  | staleVersion (resource : String) (current candidate : ResourceVersion)

namespace PolicyState

def publishHostsResource (state : PolicyState) (snapshot : ResourceSnapshot HostsIndex) :
    Except PolicyResourcePublishError PolicyState :=
  let resource := snapshot.resourceId
  match state.hostVersions.lookup resource with
  | none => .error (.unknownResource resource.text)
  | some current =>
    if snapshot.version.le current then
      .error (.staleVersion resource.text current snapshot.version)
    else
      match state.index.replaceHostsResource resource snapshot.compiled with
      | .error _ => .error (.unknownResource resource.text)
      | .ok index =>
        .ok { state with
          index
          hostVersions := state.hostVersions.insert resource snapshot.version
          hostContentHashes := state.hostContentHashes.insert resource snapshot.contentHash }

def publishRuleSetResource (state : PolicyState) (snapshot : ResourceSnapshot RuleIndex) :
    Except PolicyResourcePublishError PolicyState :=
  let resource := snapshot.resourceId
  match state.ruleSetVersions.lookup resource with
  | none => .error (.unknownResource resource.text)
  | some current =>
    if snapshot.version.le current then
      .error (.staleVersion resource.text current snapshot.version)
    else
      match state.index.replaceRuleSetResource resource snapshot.compiled with
      | .error _ => .error (.unknownResource resource.text)
      | .ok index =>
        .ok { state with
          index
          ruleSetVersions := state.ruleSetVersions.insert resource snapshot.version
          ruleSetContentHashes := state.ruleSetContentHashes.insert resource snapshot.contentHash }

end PolicyState

inductive RefreshedResourceSnapshot where
  | hosts (snapshot : ResourceSnapshot HostsIndex)
  | ruleSet (snapshot : ResourceSnapshot RuleIndex)

inductive ResourceRefreshError where
  | notConfigured (resource : String)
  | worker (resource reason : String)
  | policy (resource : String) (reason : PolicyResourcePublishError)
  | snapshot (resource reason : String)

variable (state : PolicyState)

def PolicyState.publish : RefreshedResourceSnapshot → Except PolicyResourcePublishError PolicyState
  | .hosts snapshot => state.publishHostsResource snapshot
  | .ruleSet snapshot => state.publishRuleSetResource snapshot

/-- What happens to a running policy. -/
inductive Publication where
  | publish (snapshot : RefreshedResourceSnapshot)
  /-- `refresh_resource` with the result of the worker, if the resource has one, and with the
  result of publishing the metadata afterwards. -/
  | refresh (resource : ConfigId) (loaded : Option (Except String RefreshedResourceSnapshot))
      (metadata : Except String Unit)

/-- The snapshot that an action hands to the policy. -/
def Publication.snapshot? : Publication → Option RefreshedResourceSnapshot
  | .publish snapshot => some snapshot
  | .refresh _ (some (.ok snapshot)) _ => some snapshot
  | .refresh _ _ _ => none

inductive PublicationReport where
  | published (result : Except PolicyResourcePublishError Unit)
  | refreshed (result : Except ResourceRefreshError Unit)

/-- A publication that is refused leaves the policy as it is. -/
def PolicyState.afterPublish (snapshot : RefreshedResourceSnapshot) : PolicyState :=
  match state.publish snapshot with
  | .ok next => next
  | .error _ => state

def PolicyState.refreshResource (resource : ConfigId)
    (loaded : Option (Except String RefreshedResourceSnapshot)) (metadata : Except String Unit) :
    PolicyState × Except ResourceRefreshError Unit :=
  match loaded with
  | none => (state, .error (.notConfigured resource.text))
  | some (.error reason) => (state, .error (.worker resource.text reason))
  | some (.ok snapshot) =>
    match state.publish snapshot with
    | .error reason => (state, .error (.policy resource.text reason))
    | .ok next => (next, metadata.mapError (.snapshot resource.text))

/-- One action on a running policy. -/
def publicationStep : Publication → Option (PolicyState × PublicationReport)
  | .publish snapshot =>
    some (state.afterPublish snapshot, .published ((state.publish snapshot).map fun _ => ()))
  | .refresh resource loaded metadata =>
    let (next, result) := state.refreshResource resource loaded metadata
    some (next, .refreshed result)

variable {state next : PolicyState}

theorem publicationStep_effect {action : Publication}
    {report : PublicationReport} (taken : publicationStep state action = some (next, report)) :
    next = state ∨
      ∃ snapshot, action.snapshot? = some snapshot ∧ state.publish snapshot = .ok next := by
  cases action with
  | publish snapshot =>
    obtain rfl := Execution.eq_fst_of_some taken
    rw [PolicyState.afterPublish]
    cases published : state.publish snapshot with
    | error reason => exact .inl rfl
    | ok after => exact .inr ⟨snapshot, rfl, published⟩
  | refresh resource loaded metadata =>
    obtain rfl := Execution.eq_fst_of_some taken
    match loaded with
    | none => exact .inl rfl
    | some (.error reason) => exact .inl rfl
    | some (.ok snapshot) =>
      dsimp only
      cases published : state.publish snapshot with
      | error reason => exact .inl rfl
      | ok after => exact .inr ⟨snapshot, rfl, published⟩

theorem publishHostsResource_eq_ok {snapshot : ResourceSnapshot HostsIndex} :
    state.publishHostsResource snapshot = .ok next ↔
      ∃ current, state.hostVersions.lookup snapshot.resourceId = some current ∧
        current < snapshot.version ∧ snapshot.resourceId ∈ state.index.hosts ∧
        { state with
          index := { state.index with
            hosts := state.index.hosts.insert snapshot.resourceId snapshot.compiled }
          hostVersions := state.hostVersions.insert snapshot.resourceId snapshot.version
          hostContentHashes := state.hostContentHashes.insert snapshot.resourceId
            snapshot.contentHash } = next := by
  simp only [PolicyState.publishHostsResource, PolicyIndex.replaceHostsResource, ← not_le,
    ← le_iff]
  grind

theorem publishRuleSetResource_eq_ok {snapshot : ResourceSnapshot RuleIndex} :
    state.publishRuleSetResource snapshot = .ok next ↔
      ∃ current, state.ruleSetVersions.lookup snapshot.resourceId = some current ∧
        current < snapshot.version ∧ snapshot.resourceId ∈ state.index.ruleSets ∧
        { state with
          index := { state.index with
            ruleSets := state.index.ruleSets.insert snapshot.resourceId snapshot.compiled }
          ruleSetVersions := state.ruleSetVersions.insert snapshot.resourceId snapshot.version
          ruleSetContentHashes := state.ruleSetContentHashes.insert snapshot.resourceId
            snapshot.contentHash } = next := by
  simp only [PolicyState.publishRuleSetResource, PolicyIndex.replaceRuleSetResource, ← not_le,
    ← le_iff]
  grind

end FluxDns.Policy
