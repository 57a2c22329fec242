import FluxDns.Runtime.ResourceVersions

/-!
# Runtimes stay in step

A prepared runtime starts in step, and refreshes and merges keep all runtimes in step, so that the
policy never refuses what a worker has accepted.
-/

namespace FluxDns.Runtime

open Config Resource Policy ByteReader Execution Traversal ResourceRegistrySnapshot Option Function

variable {config : ResolvedConfig} {fallback : FallbackHashes}

theorem lookup_collect_iff {Resource Value : Type} {id : Resource → ConfigId}
    {value : Resource → Value} {resources : List Resource} (distinct : (resources.map id).Nodup)
    (at_ : ConfigId) (image : Value) :
    (collect id value resources).lookup at_ = some image ↔
      ∃ resource ∈ resources, id resource = at_ ∧ value resource = image := by
  have built (map : Map ConfigId Value) :
      insertEach (ε := PrepareError) id (fun resource => .ok (some (value resource))) map
          resources = .ok (resources.foldl
        (fun map resource => map.insert (id resource) (value resource)) map) := by
    clear distinct
    induction resources generalizing map with
    | nil => rfl
    | cons resource resources induction => exact induction _
  rw [collect, lookup_insertEach distinct (built ∅)]
  simp

theorem version?_replaceMetadata {Index : Type} (registry : ResourceRegistrySnapshot Unit)
    (snapshots : Snapshots Index) (id : ConfigId) :
    (replaceMetadata registry snapshots).version? id =
      (snapshots.lookup id).elim (registry.version? id) (some ·.version) := by
  refine AList.foldl_at _ (version? · id)
    (fun _ snapshot => some snapshot.version) ?_ ?_ snapshots registry
  · simp [version?, resourceMetadata]
  · intro state other snapshot differs
    simp [version?, Ne.symm differs]

/-- A local hosts file starts with the version that the policy assumes. -/
theorem localHostsSnapshot_spec {sources : Sources} {resource : ResolvedHostsResource}
    {snapshot : ResourceSnapshot HostsIndex}
    (loaded : localHostsSnapshot sources resource = .ok (some snapshot)) :
    snapshot.resourceId = resource.id ∧ snapshot.version = ⟨1, 1⟩ := by
  cases resource with
  | const id format text => cases loaded
  | file id format path autoUpdate updateInterval =>
    obtain ⟨content, _, made⟩ := bind_eq_ok.mp loaded
    cases made
    exact ⟨rfl, rfl⟩

theorem versions_of_fromConfig (accepted : ResourcesAccepted config) {loader : ResourceLoader}
    {hostSnapshots : Snapshots HostsIndex}
    {ruleSnapshots : Snapshots RuleIndex} {policy : PolicyState}
    (prepared : PolicyState.fromConfig loader fallback config hostSnapshots ruleSnapshots =
      .ok policy) :
    (∀ key, (policy.entry key).version.isSome → (policy.entry key).index.isSome) ∧
    (∀ resource ∈ config.hosts, (policy.entry (.hosts resource.id)).version = some ⟨1, 1⟩) ∧
    ∀ resource ∈ config.ruleSets, ∀ snapshot, ruleSnapshots.lookup resource.id = some snapshot →
      (policy.entry (.ruleSet resource.id)).version = some snapshot.version := by
  simp only [PolicyState.fromConfig, PolicyIndex.fromConfig, compileResources, buildWithResources,
    bind_eq_ok] at prepared
  obtain ⟨index, ⟨_, ⟨hosts, hosts_eq, ruleSets, ruleSets_eq, compiled⟩, _, _, routes, _, configs,
    _, clients, _, made⟩, state⟩ := prepared
  cases compiled
  cases made
  cases state
  refine ⟨?_, fun resource listed => ?_, fun resource listed snapshot found => ?_⟩
  · rintro (id | id) found
    · obtain ⟨version, version_eq⟩ := isSome_iff_exists.mp found
      obtain ⟨resource, listed, rfl, _⟩ :=
        (lookup_collect_iff accepted.hosts_distinct _ _).mp version_eq
      obtain ⟨content, content_eq⟩ := lookup_of_insertUnique hosts_eq listed
      exact isSome_map.trans (by rw [content_eq]; rfl)
    · obtain ⟨version, version_eq⟩ := isSome_iff_exists.mp found
      obtain ⟨resource, listed, rfl, _⟩ :=
        (lookup_collect_iff accepted.ruleSets_distinct _ _).mp version_eq
      obtain ⟨content, content_eq⟩ := lookup_of_insertUnique ruleSets_eq listed
      exact isSome_map.trans (by rw [content_eq]; rfl)
  · exact (lookup_collect_iff accepted.hosts_distinct _ _).mpr ⟨resource, listed, rfl, rfl⟩
  · exact (lookup_collect_iff accepted.ruleSets_distinct _ _).mpr
      ⟨resource, listed, rfl, by rw [found]; rfl⟩

theorem InStep.of_prepare {sources : Sources} {normalizedHash : String}
    {initialDue : Nat} {runtime : PreparedRuntime} (accepted : ResourcesAccepted config)
    (disjoint : ∀ hosts ∈ config.hosts, ∀ ruleSet ∈ config.ruleSets, hosts.id ≠ ruleSet.id)
    (prepared : prepare sources fallback normalizedHash initialDue config = .ok runtime) :
    InStep runtime := by
  simp only [prepare, bind_eq_ok] at prepared
  obtain ⟨hostSnapshots, hosts_loaded, fileSnapshots, files_loaded, ruleSnapshots, rules_loaded,
    policy, policy_eq, workers, built, made⟩ := prepared
  cases made
  have host_spec {id : ConfigId} {snapshot : ResourceSnapshot HostsIndex}
      (found : hostSnapshots.lookup id = some snapshot) :
      snapshot.resourceId = id ∧ snapshot.version = ⟨1, 1⟩ := by
    rcases (lookup_insertEach accepted.hosts_distinct hosts_loaded _ _).mp found with
      ⟨resource, _, rfl, loaded⟩ | ⟨_, absent⟩
    · exact localHostsSnapshot_spec loaded
    · cases absent
  have rule_spec {id : ConfigId} {snapshot : ResourceSnapshot RuleIndex}
      (found : ruleSnapshots.lookup id = some snapshot) :
      snapshot.resourceId = id ∧ ∃ resource ∈ config.ruleSets, resource.id = id := by
    obtain ⟨resource, listed, same, named, _⟩ :=
      ruleSnapshot_of_loaded accepted files_loaded rules_loaded found
    exact ⟨named, resource, listed, same⟩
  obtain ⟨hostWorkers, hosts_built, rules_built⟩ := bind_eq_ok.mp built
  obtain ⟨known, host_version, rule_version⟩ := versions_of_fromConfig accepted
    (mapError_eq_ok policy_eq)
  refine ⟨accepted, disjoint, known, ?_, fun id worker found => ?_, ?_⟩
  · rintro (id | id) snapshot found
    · obtain ⟨kept, kept_eq, rfl⟩ := map_eq_some_iff.mp found
      exact congrArg _ (host_spec kept_eq).1
    · obtain ⟨kept, kept_eq, rfl⟩ := map_eq_some_iff.mp found
      exact congrArg _ (rule_spec kept_eq).1
  · rcases (lookup_buildResourceWorkers accepted built id worker).mp found with
      ⟨resource, listed, rfl, made⟩ | ⟨_, resource, listed, rfl, made⟩
    · rcases workerOf_cases made with ⟨_, absent⟩ | ⟨updates, runtime, _, _, _, worker_eq⟩
      · cases absent
      · cases worker_eq
        exact ⟨.ruleSet resource, mem_autoUpdated_ruleSet.mpr ⟨listed, updates⟩, rfl, runtime, rfl⟩
    · rcases workerOf_cases made with ⟨_, absent⟩ | ⟨updates, runtime, _, _, _, worker_eq⟩
      · cases absent
      · cases worker_eq
        exact ⟨.hosts resource, mem_autoUpdated_hosts.mpr ⟨listed, updates⟩, rfl, runtime, rfl⟩
  · rintro (resource | resource) mem
    · obtain ⟨listed, updates⟩ := mem_autoUpdated_hosts.mp mem
      obtain ⟨worker, made⟩ := value_of_insertEach hosts_built listed
      rcases workerOf_cases made with
        ⟨manual, _⟩ | ⟨_, runtime, snapshot, found, registry_eq, rfl⟩
      · cases updates.symm.trans manual
      · obtain ⟨named, version_eq⟩ := host_spec found
        have unshared : ruleSnapshots.lookup resource.id = none := by
          by_contra present
          obtain ⟨shared, shared_eq⟩ := ne_none_iff_exists'.mp present
          obtain ⟨ruleSet, ruleSet_mem, same⟩ := (rule_spec shared_eq).2
          exact disjoint resource listed ruleSet ruleSet_mem same.symm
        refine ⟨_, snapshot.version, (lookup_buildResourceWorkers accepted built _ _).mpr
          (.inr ⟨fun ruleSet ruleSet_mem same => ?_, resource, listed, rfl, made⟩), ⟨runtime, rfl⟩,
          ⟨snapshot, by rw [registry_eq, named]; rfl, named, rfl⟩, ?_, ?_, ?_⟩
        · exact (disjoint resource listed ruleSet ruleSet_mem same.symm).elim
        · exact (host_version resource listed).trans (congrArg some version_eq.symm)
        · rw [version?_replaceMetadata, ResourceDefinition.id, unshared, elim_none,
            version?_replaceMetadata, found, elim_some]
        · intro kept kept_eq
          replace kept_eq : (hostSnapshots.lookup resource.id).map .hosts = some kept := kept_eq
          rw [found] at kept_eq
          cases kept_eq
          exact le_rfl
    · obtain ⟨listed, updates⟩ := mem_autoUpdated_ruleSet.mp mem
      obtain ⟨worker, made⟩ := value_of_insertEach rules_built listed
      rcases workerOf_cases made with
        ⟨manual, _⟩ | ⟨_, runtime, snapshot, found, registry_eq, rfl⟩
      · cases updates.symm.trans manual
      · have named := (rule_spec found).1
        have holds : HoldsOne runtime.registry resource.id snapshot.version :=
          ⟨snapshot, by rw [registry_eq, named], named, rfl⟩
        refine ⟨_, snapshot.version, (lookup_buildResourceWorkers accepted built _ _).mpr
          (.inl ⟨resource, listed, rfl, made⟩), ⟨runtime, rfl⟩, by cases resource <;> exact holds,
          rule_version resource listed snapshot found, ?_, ?_⟩
        · rw [version?_replaceMetadata, ResourceDefinition.id, found, elim_some]
        · intro kept kept_eq
          replace kept_eq : (ruleSnapshots.lookup resource.id).map .ruleSet = some kept := kept_eq
          rw [found] at kept_eq
          cases kept_eq
          exact le_rfl

inductive ResourceAction where
  | refresh (runtime : Nat) (sources : Sources) (id : ConfigId) (now : Nat)
  | merge (candidate incoming : Nat)

/-- One call on one of several runtimes, with the result of a refresh. -/
def resourceStep (runtimes : Nat → PreparedRuntime) : ResourceAction → Option
    ((Nat → PreparedRuntime) × Option (Except RefreshResourceError RefreshedResourceSnapshot))
  | .refresh index sources id now =>
    let (next, result) := (runtimes index).refreshResource sources id now
    some (update runtimes index next, some result)
  | .merge candidate incoming =>
    let merged := (runtimes candidate).mergeStateFrom (runtimes incoming)
    some (update runtimes candidate merged, none)

/-- A runtime as the service prepares it, from an accepted configuration in which no hosts resource
has the name of a rule set. -/
def IsPrepared (runtime : PreparedRuntime) : Prop :=
  ∃ parseUrl resolvePath config resolved sources fallback normalizedHash initialDue,
    ConfigV2.validate parseUrl config = [] ∧
    resolveConfig resolvePath config.forRequests = some resolved ∧
    (∀ hosts ∈ resolved.hosts, ∀ ruleSet ∈ resolved.ruleSets, hosts.id ≠ ruleSet.id) ∧
    prepare sources fallback normalizedHash initialDue resolved = .ok runtime

theorem inStep_step {runtimes next : Nat → PreparedRuntime} {action : ResourceAction}
    {report : Option (Except RefreshResourceError RefreshedResourceSnapshot)}
    (inStep : ∀ index, InStep (runtimes index))
    (taken : resourceStep runtimes action = some (next, report)) :
    ∀ index, InStep (next index) := by
  intro index
  cases action with
  | refresh target sources id now =>
    cases taken
    rw [update_apply]
    split_ifs
    · exact ((inStep target).refreshResource sources id now).1
    · exact inStep index
  | merge candidate incoming =>
    cases taken
    rw [update_apply]
    split_ifs
    · exact (inStep candidate).mergeStateFrom (inStep incoming)
    · exact inStep index

def PreparedResourceWorker.version? (id : ConfigId) :
    PreparedResourceWorker → Option ResourceVersion
  | .fileHosts runtime _ => runtime.registry.version? id
  | .remoteRule runtime | .fileRule runtime _ => runtime.registry.version? id

theorem PreparedResourceWorker.Holds.version? {worker : PreparedResourceWorker} {id : ConfigId}
    {version : ResourceVersion} (holds : worker.Holds id version) :
    worker.version? id = some version := by
  cases worker <;>
  · obtain ⟨snapshot, registry_eq, _, rfl⟩ := holds
    rw [PreparedResourceWorker.version?, registry_eq, version?_singleton]

/-- However prepared runtimes are refreshed and merged, the policy, the registry of the worker and
the metadata hold the same version of every resource with a worker, and the policy refuses nothing
that a worker has accepted. -/
theorem versions_in_step (runtimes : Nat → PreparedRuntime)
    (prepared : ∀ index, IsPrepared (runtimes index)) (actions : List ResourceAction) :
    (∀ final, run resourceStep runtimes actions = some final → ∀ index id worker,
      (final index).resourceWorkers.lookup id = some worker → ∃ version,
        worker.version? id = some version ∧
        ((final index).policy.entry (worker.key id)).version = some version ∧
        (final index).metadata.version? id = some version) ∧
    ∀ transition ∈ transitions resourceStep runtimes actions, ∀ resource error,
      transition.output ≠ some (.error (.policy resource error)) := by
  have initial : ∀ index, InStep (runtimes index) := by
    intro index
    obtain ⟨_, _, _, _, _, _, _, _, valid, resolves, disjoint, made⟩ := prepared index
    exact .of_prepare (resourcesAccepted valid resolves) disjoint made
  have preserved : Preserves resourceStep fun runtimes => ∀ index, InStep (runtimes index) :=
    fun _ _ _ _ inStep taken => inStep_step inStep taken
  refine ⟨fun final reached index id worker found => ?_, fun transition member => ?_⟩
  · have inStep := preserved.of_run initial reached index
    obtain ⟨definition, listed, rfl, _⟩ := inStep.defined id worker found
    obtain ⟨_, version, found', agrees⟩ := inStep.agree definition listed
    cases found.symm.trans found'
    exact ⟨version, agrees.worker.version?, agrees.made.key_eq ▸ agrees.policy, agrees.metadata⟩
  · intro resource error refused
    obtain ⟨inStep, taken⟩ := preserved.of_mem_transitions initial member
    cases action_eq : transition.action with
    | refresh index sources id now =>
      rw [action_eq] at taken
      have output_eq := congrArg Prod.snd (some.inj taken)
      rw [refused] at output_eq
      exact ((inStep index).refreshResource sources id now).2 resource error
        (some.inj output_eq)
    | merge candidate incoming =>
      rw [action_eq] at taken
      have output_eq := congrArg Prod.snd (some.inj taken)
      rw [refused] at output_eq
      cases output_eq

namespace TwoFiles

/-- Reading always succeeds. -/
def sources : Sources where
  loadHosts _ := .ok ⟨"", ⟨∅, ∅⟩⟩
  loadRuleSet _ := .ok ⟨"", ⟨⟨[], [], [], []⟩, ∅⟩⟩
  restoreRemoteRuleSet _ := .error ""
  fetchRemoteRuleSet _ := .dropped

theorem exists_prepared :
    ∃ runtime, prepare sources ⟨fun _ => "", fun _ => ""⟩ "" 0 (resolved blocked) = .ok runtime ∧
      (runtime.resourceWorkers.lookup ads).isSome :=
  ⟨_, rfl, rfl⟩

end TwoFiles

open TwoFiles in
/-- A refreshed runtime is merged into a second one, and both are in step. -/
theorem versions_in_step_two_files :
    ∃ runtimes : Nat → PreparedRuntime, (∀ index, IsPrepared (runtimes index)) ∧
      ((runtimes 1).resourceWorkers.lookup ads).isSome ∧
      ∀ final, run resourceStep runtimes [.refresh 0 sources ads 60, .merge 1 0] = some final →
        ∀ worker, (final 1).resourceWorkers.lookup ads = some worker → ∃ version,
          worker.version? ads = some version ∧
          ((final 1).policy.entry (worker.key ads)).version = some version ∧
          (final 1).metadata.version? ads = some version := by
  obtain ⟨runtime, prepared, refreshed⟩ := exists_prepared
  obtain ⟨valid, resolves⟩ := accepted blocked (by decide)
  have all_prepared : ∀ _ : Nat, IsPrepared runtime := fun _ =>
    ⟨_, _, _, _, _, _, _, _, valid, resolves, by decide, prepared⟩
  refine ⟨fun _ => runtime, all_prepared, refreshed, fun final reached worker found => ?_⟩
  exact (versions_in_step _ all_prepared _).1 final reached 1 ads worker found

end FluxDns.Runtime
