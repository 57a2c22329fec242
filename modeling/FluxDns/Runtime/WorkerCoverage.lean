import FluxDns.Policy.CacheNames
import FluxDns.Runtime.Prepared
import FluxDns.Runtime.RefreshLoops

/-!
# The workers of all resources with automatic updates

Workers and the loops of the service are found by the name of a resource, but names are checked for
each kind of resource by itself.  So every resource has its own worker and its own loop exactly when
no hosts resource shares its name with a rule set where both are updated automatically.
-/

namespace FluxDns.Config

open Traversal List

variable {resolvePath : String → String} {parseUrl : String → Option UrlParts}
  {resolved : ResolvedConfig}

/-- What validation leaves of the resources of a configuration. -/
structure ResourcesAccepted (config : ResolvedConfig) : Prop where
  hosts_distinct : (config.hosts.map (·.id)).Nodup
  ruleSets_distinct : (config.ruleSets.map (·.id)).Nodup
  hosts_interval : ∀ resource ∈ config.hosts, resource.autoUpdate = true →
    resource.updateInterval.isSome
  ruleSets_interval : ∀ resource ∈ config.ruleSets, resource.autoUpdate = true →
    resource.updateInterval.isSome

theorem hosts_of_resolveConfig {config : ConfigV2 DnsV2}
    (resolves : resolveConfig resolvePath config = some resolved) :
    config.hosts.mapM (resolveHosts resolvePath) = some resolved.hosts := by
  simp only [resolveConfig, Option.bind_eq_bind, Option.bind_eq_some_iff] at resolves
  obtain ⟨_, _, _, _, _, _, hosts, hosts_eq, _, _, _, _, _, _, made⟩ := resolves
  cases made
  exact hosts_eq

theorem isSome_of_validateUpdates {autoUpdate : Bool} {updateInterval : Option Duration}
    {path : String} (passed : validateUpdates autoUpdate updateInterval path = [])
    (updates : autoUpdate = true) : updateInterval.isSome := by
  cases updateInterval with
  | none => simp [validateUpdates, updates, reportIf] at passed
  | some interval => rfl

theorem resolveHosts_spec {hosts : HostsResourceDto} {resolved : ResolvedHostsResource}
    (resolves : resolveHosts resolvePath hosts = some resolved) :
    resolved.id.text = hosts.name ∧ (∀ path, validateHostsResource path hosts = [] →
      resolved.autoUpdate = true → resolved.updateInterval.isSome) := by
  cases hosts with
  | const name format text =>
    simp only [resolveHosts, Option.bind_eq_bind, Option.bind_eq_some_iff] at resolves
    obtain ⟨id, named, made⟩ := resolves
    cases made
    exact ⟨resolveId_eq_some_iff.mp named, fun _ _ updates => nomatch updates⟩
  | file name format path autoUpdate updateInterval =>
    simp only [resolveHosts, Option.bind_eq_bind, Option.bind_eq_some_iff] at resolves
    obtain ⟨id, named, made⟩ := resolves
    cases made
    refine ⟨resolveId_eq_some_iff.mp named, fun _ passed updates => ?_⟩
    simp only [validateHostsResource, append_eq_nil_iff] at passed
    exact isSome_of_validateUpdates passed.2 updates

theorem interval_of_resolveRuleSet {ruleSet : RuleSetDto}
    {resolved : ResolvedRuleSet} (resolves : resolveRuleSet resolvePath ruleSet = some resolved)
    {path : String} (passed : validateRuleSetFields parseUrl path ruleSet = [])
    (updates : resolved.autoUpdate = true) : resolved.updateInterval.isSome := by
  cases ruleSet with
      simp only [resolveRuleSet, Option.bind_eq_bind, Option.bind_eq_some_iff] at resolves
  | const name format rule =>
    obtain ⟨id, _, made⟩ := resolves
    cases made
    cases updates
  | file name format file autoUpdate updateInterval =>
    obtain ⟨id, _, made⟩ := resolves
    cases made
    simp only [validateRuleSetFields, append_eq_nil_iff] at passed
    exact isSome_of_validateUpdates passed.2 updates
  | remote name format url proxy autoUpdate updateInterval =>
    obtain ⟨id, _, proxyId, _, made⟩ := resolves
    cases made
    simp only [validateRuleSetFields, append_eq_nil_iff] at passed
    exact isSome_of_validateUpdates passed.2 updates

/-- Identifiers differ when the names they were made of differ. -/
theorem nodup_of_map_text {α : Type} {id : α → ConfigId} {resources : List α}
    (distinct : (resources.map fun resource => (id resource).text).Nodup) :
    (resources.map id).Nodup := by
  refine List.Nodup.of_map ConfigId.text ?_
  rwa [map_map]

theorem resourcesAccepted {config : ConfigV2 SectionsV2} (valid : config.validate parseUrl = [])
    (resolves : resolveConfig resolvePath config.forRequests = some resolved) :
    ResourcesAccepted resolved := by
  have accepted := accepted_of_validate valid
  have hosts_eq := hosts_of_resolveConfig resolves
  have ruleSets_eq := (strategies_of_resolveConfig resolves).2
  obtain ⟨hosts_distinct, hosts_passed⟩ := of_validateEntities accepted.hosts
  obtain ⟨ruleSets_distinct, ruleSets_passed⟩ := of_validateEntities accepted.ruleSets
  refine ⟨nodup_of_map_text ?_, nodup_of_map_text ?_, fun resource mem => ?_,
    fun resource mem => ?_⟩
  · rwa [map_eq_of_mapM (fun _ _ found => (resolveHosts_spec found).1) hosts_eq]
  · rwa [map_eq_of_mapM (fun _ _ found => resolveRuleSet_id found) ruleSets_eq]
  · obtain ⟨source, source_mem, source_eq⟩ := exists_source_of_mem hosts_eq mem
    obtain ⟨path, _, passed⟩ := hosts_passed source source_mem
    exact (resolveHosts_spec source_eq).2 path passed
  · obtain ⟨source, source_mem, source_eq⟩ := exists_source_of_mem ruleSets_eq mem
    obtain ⟨path, _, passed⟩ := ruleSets_passed source source_mem
    exact interval_of_resolveRuleSet source_eq passed

end FluxDns.Config

namespace FluxDns.Runtime

open Config Resource Policy ByteReader Traversal List

/-- What a preparation or a refresh can find in the sources of a rule set. -/
inductive Sources.Reads (sources : Sources) (resource : ResolvedRuleSet) : RuleIndex → Prop
  | load {loaded : Loaded RuleIndex} (read : sources.loadRuleSet resource = .ok loaded) :
      sources.Reads resource loaded.index
  | restore {loaded : Loaded RuleIndex}
      (read : sources.restoreRemoteRuleSet resource = .ok loaded) :
      sources.Reads resource loaded.index
  | fetch {contentHash : String} {index : RuleIndex}
      (read : sources.fetchRemoteRuleSet resource = .loaded contentHash index) :
      sources.Reads resource index

section RuleSnapshots

variable {sources : Sources} {snapshot : ResourceSnapshot RuleIndex}

theorem ruleSnapshot_spec {resource : ResolvedRuleSet}
    (loaded : localRuleSnapshot sources resource = .ok (some snapshot) ∨
      remoteRuleSnapshot sources resource = .ok (some snapshot)) :
    snapshot.resourceId = resource.id ∧ sources.Reads resource snapshot.compiled := by
  cases resource with
  | const id format text => rcases loaded with loaded | loaded <;> cases loaded
  | file id format path autoUpdate updateInterval =>
    rcases loaded with loaded | loaded
    · obtain ⟨content, content_eq, made⟩ := bind_eq_ok.mp loaded
      cases made
      exact ⟨rfl, .load (mapError_eq_ok content_eq)⟩
    · cases loaded
  | remote id format url proxy autoUpdate updateInterval =>
    rcases loaded with loaded | loaded
    · cases loaded
    · unfold remoteRuleSnapshot at loaded
      dsimp only at loaded
      split at loaded
      · next restored =>
        cases loaded
        exact ⟨rfl, .restore restored⟩
      · split at loaded
        · next fetched =>
          cases loaded
          exact ⟨rfl, .fetch fetched⟩
        all_goals cases loaded

/-- Where a loaded rule set comes from. -/
theorem ruleSnapshot_of_loaded {config : ResolvedConfig} {files rules : Snapshots RuleIndex}
    (accepted : ResourcesAccepted config)
    (files_loaded : insertEach ResolvedRuleSet.id (localRuleSnapshot sources) ∅ config.ruleSets =
      .ok files)
    (rules_loaded :
      insertEach ResolvedRuleSet.id (remoteRuleSnapshot sources) files config.ruleSets = .ok rules)
    {id : ConfigId} (found : rules.lookup id = some snapshot) :
    ∃ resource ∈ config.ruleSets, resource.id = id ∧ snapshot.resourceId = id ∧
      sources.Reads resource snapshot.compiled := by
  rcases (lookup_insertEach accepted.ruleSets_distinct rules_loaded _ _).mp found with
    ⟨resource, listed, rfl, loaded⟩ | ⟨_, earlier⟩
  · exact ⟨resource, listed, rfl, ruleSnapshot_spec (.inr loaded)⟩
  · rcases (lookup_insertEach accepted.ruleSets_distinct files_loaded _ _).mp earlier
      with ⟨resource, listed, rfl, loaded⟩ | ⟨_, absent⟩
    · exact ⟨resource, listed, rfl, ruleSnapshot_spec (.inl loaded)⟩
    · cases absent

end RuleSnapshots

section Workers

variable {Index : Type} {failure : String → PrepareError} {missing : String} {initialDue : Nat}
  {worker : Option PreparedResourceWorker} {updateInterval : Option Duration}

variable {snapshots : Snapshots Index} {automatic : Bool} {id : ConfigId}
  {wrap : ResourceRefreshRuntime Index → PreparedResourceWorker}

theorem workerOf_cases
    (made : workerOf failure missing snapshots initialDue automatic id updateInterval wrap =
      .ok worker) :
    automatic = false ∧ worker = none ∨
    automatic = true ∧ ∃ runtime snapshot, snapshots.lookup id = some snapshot ∧
      runtime.registry = AList.singleton snapshot.resourceId snapshot ∧
      worker = some (wrap runtime) := by
  cases automatic with
  | false =>
    cases made
    exact .inl ⟨rfl, rfl⟩
  | true =>
    obtain ⟨⟨interval, policy⟩, _, made⟩ := bind_eq_ok.mp made
    dsimp only at made
    split at made <;> cases made
    next snapshot found => exact .inr ⟨rfl, _, snapshot, found, rfl, rfl⟩

theorem exists_workerOf (timed : automatic = true → updateInterval.isSome)
    (loaded : automatic = true → (snapshots.lookup id).isSome) :
    ∃ worker, workerOf failure missing snapshots initialDue automatic id updateInterval wrap =
      .ok worker := by
  cases automatic with
  | false => exact ⟨none, rfl⟩
  | true =>
    obtain ⟨interval, rfl⟩ := Option.isSome_iff_exists.mp (timed rfl)
    obtain ⟨snapshot, found⟩ := Option.isSome_iff_exists.mp (loaded rfl)
    have positive : max interval.asSecs 1 ≠ 0 := by omega
    simp only [workerOf, refreshPolicy, Option.elim_some,
      ResourceSchedulePolicy.new, positive, OfNat.ofNat_ne_zero, or_self, if_false, found]
    exact ⟨_, rfl⟩

end Workers

section AllWorkers

variable {config : ResolvedConfig} {hostSnapshots : Snapshots HostsIndex}
  {ruleSnapshots : Snapshots RuleIndex} {initialDue : Nat} {workers : ResourceWorkers}
  {resource : ResolvedRuleSet}

/-- A rule set decides about the worker of its name before a hosts resource does. -/
theorem lookup_buildResourceWorkers (accepted : ResourcesAccepted config)
    (built : buildResourceWorkers config hostSnapshots ruleSnapshots initialDue = .ok workers)
    (id : ConfigId) (worker : PreparedResourceWorker) :
    workers.lookup id = some worker ↔
      (∃ resource ∈ config.ruleSets, resource.id = id ∧
        ruleSetWorker ruleSnapshots initialDue resource = .ok (some worker)) ∨
      (∀ resource ∈ config.ruleSets, resource.id = id →
        ruleSetWorker ruleSnapshots initialDue resource = .ok none) ∧
      ∃ resource ∈ config.hosts, resource.id = id ∧
        hostsWorker hostSnapshots initialDue resource = .ok (some worker) := by
  obtain ⟨hosts, hosts_built, rules_built⟩ := bind_eq_ok.mp built
  rw [lookup_insertEach accepted.ruleSets_distinct rules_built,
    lookup_insertEach accepted.hosts_distinct hosts_built]
  simp

/-- A resource is found by its name. -/
theorem find?_of_nodup {α : Type} {id : α → ConfigId} {resources : List α}
    (distinct : (resources.map id).Nodup) {resource : α} (mem : resource ∈ resources) :
    resources.find? (fun other => decide (id other = id resource)) = some resource := by
  induction resources with
  | nil => cases mem
  | cons first rest induction =>
    rw [map_cons, nodup_cons] at distinct
    rcases mem_cons.mp mem with rfl | later
    · simp
    · have differs : id first ≠ id resource := fun same =>
        distinct.1 (mem_map.mpr ⟨resource, later, same.symm⟩)
      rw [find?_cons_of_neg (by simpa using differs), induction distinct.2 later]

theorem source_forRuleSet (accepted : ResourcesAccepted config)
    (mem : resource ∈ config.ruleSets) (runtime : ResourceRefreshRuntime RuleIndex) :
    (PreparedResourceWorker.forRuleSet runtime resource).source config resource.id =
      some (.ruleSet resource) := by
  cases resource with
  | const id format text | file id format path autoUpdate updateInterval => rfl
  | remote id format url proxy autoUpdate updateInterval =>
    have found := find?_of_nodup accepted.ruleSets_distinct mem
    exact congrArg (Option.map ResourceDefinition.ruleSet) found

/-- Every resource with automatic updates was loaded by the preparation. -/
structure AllLoaded (config : ResolvedConfig) (hostSnapshots : Snapshots HostsIndex)
    (ruleSnapshots : Snapshots RuleIndex) : Prop where
  hosts : ∀ resource ∈ config.hosts, resource.autoUpdate = true →
    (hostSnapshots.lookup resource.id).isSome
  ruleSets : ∀ resource ∈ config.ruleSets, resource.autoUpdate = true →
    (ruleSnapshots.lookup resource.id).isSome

section Built

variable (accepted : ResourcesAccepted config)

include accepted

theorem exists_workers (initialDue : Nat) (loaded : AllLoaded config hostSnapshots ruleSnapshots) :
    ∃ workers,
      buildResourceWorkers config hostSnapshots ruleSnapshots initialDue = .ok workers := by
  obtain ⟨hosts, hosts_built⟩ := insertEach_eq_ok (fun resource mem =>
    exists_workerOf (accepted.hosts_interval resource mem) (loaded.hosts resource mem))
    (∅ : ResourceWorkers)
  obtain ⟨workers, rules_built⟩ := insertEach_eq_ok (fun resource mem =>
    exists_workerOf (accepted.ruleSets_interval resource mem) (loaded.ruleSets resource mem)) hosts
  exact ⟨workers, bind_eq_ok.mpr ⟨hosts, hosts_built, rules_built⟩⟩

variable
  (built : buildResourceWorkers config hostSnapshots ruleSnapshots initialDue = .ok workers)

include built

theorem ruleSet_worker (mem : resource ∈ config.ruleSets) (updates : resource.autoUpdate = true) :
    ∃ runtime,
      workers.lookup resource.id = some (.forRuleSet runtime resource) := by
  obtain ⟨_, _, rules_built⟩ := bind_eq_ok.mp built
  obtain ⟨worker, made⟩ := value_of_insertEach rules_built mem
  rcases workerOf_cases made with ⟨manual, _⟩ | ⟨_, runtime, snapshot, _, _, rfl⟩
  · rw [updates] at manual
    cases manual
  · exact ⟨runtime, (lookup_buildResourceWorkers accepted built _ _).mpr
      (.inl ⟨resource, mem, rfl, made⟩)⟩

theorem hosts_worker {resource : ResolvedHostsResource} (mem : resource ∈ config.hosts)
    (updates : resource.autoUpdate = true)
    (unshared : ∀ ruleSet ∈ config.ruleSets, ruleSet.id = resource.id →
      ruleSet.autoUpdate = false) :
    ∃ runtime, workers.lookup resource.id = some (.fileHosts runtime resource) := by
  obtain ⟨_, hosts_built, rules_built⟩ := bind_eq_ok.mp built
  obtain ⟨worker, made⟩ := value_of_insertEach hosts_built mem
  rcases workerOf_cases made with ⟨manual, _⟩ | ⟨_, runtime, snapshot, _, _, rfl⟩
  · rw [updates] at manual
    cases manual
  · refine ⟨runtime, (lookup_buildResourceWorkers accepted built _ _).mpr
      (.inr ⟨fun ruleSet ruleSet_mem same => ?_, resource, mem, rfl, made⟩)⟩
    obtain ⟨worker, worker_eq⟩ := value_of_insertEach rules_built ruleSet_mem
    rcases workerOf_cases worker_eq with ⟨_, rfl⟩ | ⟨automatic, _⟩
    · exact worker_eq
    · rw [unshared ruleSet ruleSet_mem same] at automatic
      cases automatic

end Built

end AllWorkers

def autoUpdated (config : ResolvedConfig) : List ResourceDefinition :=
  (config.hosts.filter (·.autoUpdate)).map .hosts ++
    (config.ruleSets.filter (·.autoUpdate)).map .ruleSet

/-- What is read when the resource of a name is refreshed. -/
def refreshSource (config : ResolvedConfig) (workers : ResourceWorkers) (id : ConfigId) :
    Option ResourceDefinition :=
  (workers.lookup id).bind (·.source config id)

variable (previous : List RefreshLoops.ResourceTask)

/-- `prepare_resource_tasks`, with the tasks of the service before it. -/
def resourceTasks (since : Nat) (loops : Map Nat RefreshLoops.Loop) (nextLoop : Nat)
    (workers : ResourceWorkers) : List RefreshLoops.ResourceTask :=
  (workers.keys.foldl (RefreshLoops.prepareResourceTask previous since)
    ([], [], loops, nextLoop)).1

theorem resources_prepareResourceTask (since : Nat) (ids : List ConfigId)
    (state : List RefreshLoops.ResourceTask × List Nat × (Map Nat RefreshLoops.Loop) × Nat) :
    (ids.foldl (RefreshLoops.prepareResourceTask previous since) state).1.map (·.resource) =
      state.1.map (·.resource) ++ ids := by
  induction ids generalizing state with
  | nil => simp
  | cons id ids induction =>
    have first : (RefreshLoops.prepareResourceTask previous since state id).1.map (·.resource) =
        state.1.map (·.resource) ++ [id] := by
      rw [RefreshLoops.prepareResourceTask]
      split
      · next task found =>
        have named : task.resource = id := by simpa using find?_some found
        simp [named]
      · simp
    rw [foldl_cons, induction, first, append_assoc, singleton_append]

/-- For every accepted configuration whose resources were loaded, the workers are built, and every
resource with automatic updates has a worker and a task that read its own source exactly when no
hosts resource and no rule set with automatic updates share a name. -/
theorem own_workers_iff (parseUrl : String → Option UrlParts) (resolvePath : String → String)
    (config : ConfigV2 SectionsV2) (valid : config.validate parseUrl = [])
    (resolved : ResolvedConfig)
    (resolves : resolveConfig resolvePath config.forRequests = some resolved)
    (hostSnapshots : Snapshots HostsIndex) (ruleSnapshots : Snapshots RuleIndex)
    (loaded : AllLoaded resolved hostSnapshots ruleSnapshots) (initialDue : Nat)
    (previous : List RefreshLoops.ResourceTask) (since : Nat)
    (loops : Map Nat RefreshLoops.Loop) (nextLoop : Nat) :
    ∃ workers, buildResourceWorkers resolved hostSnapshots ruleSnapshots initialDue = .ok workers ∧
      ((∀ definition ∈ autoUpdated resolved,
        refreshSource resolved workers definition.id = some definition ∧
        ∃ task ∈ resourceTasks previous since loops nextLoop workers,
          refreshSource resolved workers task.resource = some definition) ↔
      ∀ hosts ∈ resolved.hosts, ∀ ruleSet ∈ resolved.ruleSets, hosts.autoUpdate = true →
        ruleSet.autoUpdate = true → hosts.id ≠ ruleSet.id) := by
  have accepted := resourcesAccepted valid resolves
  obtain ⟨workers, built⟩ := exists_workers accepted initialDue loaded
  refine ⟨workers, built, ?_, fun distinct => ?_⟩
  · intro covered hosts hosts_mem ruleSet ruleSet_mem hosts_auto rule_auto same
    obtain ⟨runtime, found⟩ := ruleSet_worker accepted built ruleSet_mem rule_auto
    have own := (covered (.hosts hosts) (by simp [autoUpdated, hosts_mem, hosts_auto])).1
    rw [ResourceDefinition.id, same, refreshSource, found, Option.bind_some,
      source_forRuleSet accepted ruleSet_mem] at own
    cases own
  · have own : ∀ definition ∈ autoUpdated resolved,
        refreshSource resolved workers definition.id = some definition := by
      intro definition member
      simp only [autoUpdated, mem_append, mem_map, mem_filter] at member
      rcases member with ⟨hosts, ⟨hosts_mem, automatic⟩, rfl⟩ |
        ⟨ruleSet, ⟨rule_mem, automatic⟩, rfl⟩
      · obtain ⟨runtime, found⟩ := hosts_worker accepted built hosts_mem automatic
          fun ruleSet rule_mem same => by
            by_contra automatic'
            exact distinct hosts hosts_mem ruleSet rule_mem automatic (by simpa using automatic')
              same.symm
        rw [ResourceDefinition.id, refreshSource, found]
        rfl
      · obtain ⟨runtime, found⟩ := ruleSet_worker accepted built rule_mem automatic
        rw [ResourceDefinition.id, refreshSource, found]
        exact source_forRuleSet accepted rule_mem runtime
    refine fun definition member => ⟨own definition member, ?_⟩
    have known : definition.id ∈ workers.keys := by
      rw [← AList.mem_keys, ← AList.lookup_isSome]
      have found := own definition member
      rw [refreshSource] at found
      exact Option.isSome_of_isSome_bind (by rw [found]; rfl)
    have listed := resources_prepareResourceTask previous since workers.keys
      ([], [], loops, nextLoop)
    rw [map_nil, nil_append] at listed
    rw [← listed] at known
    obtain ⟨task, task_mem, named⟩ := mem_map.mp known
    exact ⟨task, task_mem, by rw [named]; exact own definition member⟩

namespace TwoFiles

/-- Both files are updated once a minute. -/
def config (hosts : String) : ConfigV2 SectionsV2 :=
  { MarkedStrategy.config with
    hosts := [.const "static" .hosts "127.0.0.1 localhost",
      .file hosts .hosts "/etc/fluxdns/ads.hosts" true (some (60 * second))]
    ruleSet := [.file "ads" .clash "/etc/fluxdns/ads.rules" true (some (60 * second))] }

def ads : ConfigId := ⟨"ads", by decide, by decide, by decide⟩
def blocked : ConfigId := ⟨"blocked", by decide, by decide, by decide⟩

def hostsFile (id : ConfigId) : ResolvedHostsResource :=
  .file id .hosts "/etc/fluxdns/ads.hosts" true (some (60 * second))

def rulesFile : ResolvedRuleSet :=
  .file ads .clash "/etc/fluxdns/ads.rules" true (some (60 * second))

def resolved (hosts : ConfigId) : ResolvedConfig :=
  { MarkedStrategy.resolved with
    hosts := MarkedStrategy.resolved.hosts ++ [hostsFile hosts]
    ruleSets := [rulesFile] }

/-- The name of the hosts file becomes its identifier. -/
theorem accepted : ∀ id ∈ [ads, blocked], (config id.text).validate Sample.parseUrl = [] ∧
      resolveConfig (·) (config id.text).forRequests = some (resolved id) := by
  decide +kernel

def hostSnapshots (id : ConfigId) : Snapshots HostsIndex :=
  AList.singleton id ⟨id, ⟨1, 1⟩, "", ⟨∅, ∅⟩⟩

def ruleSnapshots : Snapshots RuleIndex :=
  AList.singleton ads ⟨ads, ⟨1, 1⟩, "", ⟨⟨[], [], [], []⟩, ∅⟩⟩

end TwoFiles

open TwoFiles in
/-- With different names both files have a worker and a task. -/
theorem own_workers_two_files :
    autoUpdated (resolved blocked) = [.hosts (hostsFile blocked), .ruleSet rulesFile] ∧
    ∃ workers, buildResourceWorkers (resolved blocked) (hostSnapshots blocked) ruleSnapshots 0 =
        .ok workers ∧
      ∀ definition ∈ autoUpdated (resolved blocked),
        refreshSource (resolved blocked) workers definition.id = some definition ∧
        ∃ task ∈ resourceTasks [] 0 ∅ 0 workers,
          refreshSource (resolved blocked) workers task.resource = some definition := by
  obtain ⟨valid, resolves⟩ := accepted blocked (by decide)
  have loaded : AllLoaded (resolved blocked) (hostSnapshots blocked) ruleSnapshots := by
    constructor <;> decide
  obtain ⟨workers, built, covered⟩ := own_workers_iff Sample.parseUrl (·) (config "blocked") valid
    (resolved blocked) resolves _ _ loaded 0 [] 0 ∅ 0
  exact ⟨rfl, workers, built, covered.mpr (by decide)⟩

open TwoFiles in
/-- With the same name the worker of the rule set replaces the one of the hosts file, which is never
read again. -/
theorem shared_name_loses_hosts : (config "ads").validate Sample.parseUrl = [] ∧
    resolveConfig (·) (config "ads").forRequests = some (resolved ads) ∧
    .hosts (hostsFile ads) ∈ autoUpdated (resolved ads) ∧
    ∃ workers, buildResourceWorkers (resolved ads) (hostSnapshots ads) ruleSnapshots 0 =
        .ok workers ∧
      resourceTasks [] 0 ∅ 0 workers = [⟨ads, 0⟩] ∧
      refreshSource (resolved ads) workers ads = some (.ruleSet rulesFile) := by
  obtain ⟨valid, resolves⟩ := accepted ads (by decide)
  exact ⟨valid, resolves, by decide, _, rfl, rfl, rfl⟩

end FluxDns.Runtime
