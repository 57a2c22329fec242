import FluxDns.Runtime.WorkerCoverage

/-!
# Versions of resources

A refresh and a merge advance the registry of a worker, the policy and the metadata by separate
calls.  For configurations whose resources have different names the three hold the same version of
every resource with a worker, and a snapshot that was kept for later merges is never newer.
-/

namespace FluxDns.Runtime

open Config Resource Policy ByteReader Execution PreparedResourceWorker ResourceRegistrySnapshot
  AList PolicyState Function Option PreparedRuntime

variable {worker : PreparedResourceWorker} {id : ConfigId} {snapshot : RefreshedResourceSnapshot}
  {runtime incoming candidate : PreparedRuntime} {Index : Type} {state : PolicyState}
  {version : ResourceVersion} {other : ResourceVersion}

def HoldsOne {Index : Type} (registry : ResourceRegistrySnapshot Index) (id : ConfigId)
    (version : ResourceVersion) : Prop :=
  ∃ snapshot, registry = singleton id snapshot ∧ snapshot.resourceId = id ∧
    snapshot.version = version

theorem version?_singleton (id : ConfigId) (snapshot : ResourceSnapshot Index) :
    version? (singleton id snapshot) id = some snapshot.version := by
  rw [version?, ← insert_empty, lookup_insert, Option.map_some]

namespace PreparedResourceWorker

def key (id : ConfigId) : PreparedResourceWorker → ResourceKey
  | .fileHosts _ _ => .hosts id
  | .remoteRule _ | .fileRule _ _ => .ruleSet id

def Holds (id : ConfigId) (version : ResourceVersion) : PreparedResourceWorker → Prop
  | .fileHosts runtime _ => HoldsOne runtime.registry id version
  | .remoteRule runtime | .fileRule runtime _ => HoldsOne runtime.registry id version

def current : PreparedResourceWorker → Option RefreshedResourceSnapshot
  | .fileHosts runtime _ => (currentSnapshot runtime).map .hosts
  | .remoteRule runtime | .fileRule runtime _ => (currentSnapshot runtime).map .ruleSet

theorem Holds.current {worker : PreparedResourceWorker} {id : ConfigId}
    (holds : worker.Holds id version) : ∃ snapshot, worker.current = some snapshot ∧
      snapshot.key = worker.key id ∧ snapshot.version = version := by
  cases worker with
  | fileHosts runtime resource =>
    obtain ⟨snapshot, registry_eq, rfl, rfl⟩ := holds
    exact ⟨.hosts snapshot, by rw [current, currentSnapshot, registry_eq]; rfl, rfl, rfl⟩
  | remoteRule runtime | fileRule runtime _ =>
    obtain ⟨snapshot, registry_eq, rfl, rfl⟩ := holds
    exact ⟨.ruleSet snapshot, by rw [current, currentSnapshot, registry_eq]; rfl, rfl, rfl⟩

end PreparedResourceWorker

def ResourceDefinition.MadeFor : ResourceDefinition → PreparedResourceWorker → Prop
  | .hosts resource, worker => ∃ runtime, worker = .fileHosts runtime resource
  | .ruleSet resource, worker => ∃ runtime, worker = .forRuleSet runtime resource

def ResourceDefinition.key : ResourceDefinition → ResourceKey
  | .hosts resource => .hosts resource.id
  | .ruleSet resource => .ruleSet resource.id

theorem ResourceDefinition.MadeFor.key_eq {definition : ResourceDefinition}
    (made : definition.MadeFor worker) : worker.key definition.id = definition.key := by
  cases definition with
  | hosts resource =>
    obtain ⟨runtime, rfl⟩ := made
    rfl
  | ruleSet resource =>
    obtain ⟨runtime, rfl⟩ := made
    cases resource <;> rfl

theorem HoldsOne.merge {runtime incoming : ResourceRefreshRuntime Index}
    (holds : HoldsOne runtime.registry id version) (offers : HoldsOne incoming.registry id other) :
    HoldsOne (runtime.mergeStateFrom incoming).registry id (max version other) := by
  obtain ⟨snapshot, registry_eq, named, rfl⟩ := holds
  obtain ⟨newer, incoming_eq, newer_named, rfl⟩ := offers
  have merged : (runtime.mergeStateFrom incoming).registry =
      if snapshot.version < newer.version then singleton id newer
      else singleton id snapshot := by
    simp only [ResourceRefreshRuntime.mergeStateFrom, registry_eq, incoming_eq]
    change (if true && (version? (singleton id snapshot) id).all
      (· < newer.version) then (singleton id snapshot : ResourceRegistrySnapshot Index).insert
        id newer else singleton id snapshot) = _
    rw [version?_singleton, insert_singleton_eq]
    simp
  rw [merged]
  split_ifs with above
  · exact ⟨newer, rfl, newer_named, (max_eq_right above.le).symm⟩
  · exact ⟨snapshot, rfl, named, (max_eq_left (not_lt.mp above)).symm⟩

variable {config : ResolvedConfig} {definition : ResourceDefinition}
  {worker : PreparedResourceWorker} {version : ResourceVersion} {resource : ResolvedHostsResource}
  {current : ResourceVersion}

theorem mem_autoUpdated_hosts : .hosts resource ∈ autoUpdated config ↔
      resource ∈ config.hosts ∧ resource.autoUpdate = true := by
  simp [autoUpdated]

theorem mem_autoUpdated_ruleSet {resource : ResolvedRuleSet} :
    .ruleSet resource ∈ autoUpdated config ↔
      resource ∈ config.ruleSets ∧ resource.autoUpdate = true := by
  simp [autoUpdated]

/-- What the refresh of a worker leaves: the version it had and an error of the worker, or the newer
version that it returns. -/
structure Refreshed (definition : ResourceDefinition) (version : ResourceVersion)
    (after : PreparedResourceWorker × Except RefreshResourceError RefreshedResourceSnapshot) :
    Prop where
  made : definition.MadeFor after.1
  outcome : (∃ resource error, after.2 = .error (.worker resource error) ∧
      after.1.Holds definition.id version) ∨
    ∃ refreshed, after.2 = .ok refreshed ∧ refreshed.key = definition.key ∧
      version.epoch < refreshed.version.epoch ∧ after.1.Holds definition.id refreshed.version

theorem refreshed_of_holdsOne {runtime : ResourceRefreshRuntime Index}
    (make : ResourceRefreshRuntime Index → PreparedResourceWorker)
    (wrap : ResourceSnapshot Index → RefreshedResourceSnapshot)
    (holds : HoldsOne runtime.registry definition.id version)
    (made : ∀ runtime, definition.MadeFor (make runtime))
    (make_holds : ∀ runtime version, HoldsOne runtime.registry definition.id version →
      (make runtime).Holds definition.id version)
    (keyed : ∀ snapshot, snapshot.resourceId = definition.id →
      (wrap snapshot).key = definition.key ∧ (wrap snapshot).version = snapshot.version)
    (remote : Bool) (now : Nat) (reading : Reading Index) (name : String) :
    Refreshed definition version (make (runtime.refresh remote definition.id now reading).1,
      ((runtime.refresh remote definition.id now reading).2.map wrap).mapError (.worker name)) := by
  refine ⟨made _, ?_⟩
  obtain ⟨snapshot, registry_eq, named, rfl⟩ := holds
  rcases runtime.refresh_cases remote definition.id now reading with
    ⟨error, failed, kept⟩ | ⟨candidate, loaded, candidate_named, _, newer, replaced⟩
  · exact .inl ⟨name, error, by rw [failed]; rfl,
      make_holds _ _ ⟨snapshot, kept.trans registry_eq, named, rfl⟩⟩
  · obtain ⟨key_eq, version_eq⟩ := keyed candidate candidate_named
    refine .inr ⟨wrap candidate, by rw [loaded]; rfl, key_eq, ?_, ?_⟩
    · rw [version_eq]
      exact newer _ (by rw [registry_eq, version?_singleton]; rfl)
    · rw [version_eq]
      exact make_holds _ _ ⟨candidate, by rw [replaced, registry_eq, insert_singleton_eq],
        candidate_named, rfl⟩

theorem refreshed_worker (accepted : ResourcesAccepted config)
    (mem : definition ∈ autoUpdated config) (made : definition.MadeFor worker)
    (holds : worker.Holds definition.id version) (sources : Sources) (now : Nat) :
    Refreshed definition version (worker.refresh config sources definition.id now) := by
  cases definition with
  | hosts resource =>
    obtain ⟨runtime, rfl⟩ := made
    cases resource with
    | const id format text => cases (mem_autoUpdated_hosts.mp mem).2
    | file id format path autoUpdate updateInterval =>
      exact refreshed_of_holdsOne (.fileHosts · _) .hosts holds (fun runtime => ⟨runtime, rfl⟩)
        (fun _ _ holds => holds) (fun _ named => ⟨congrArg _ named, rfl⟩) false now _ id.text
  | ruleSet resource =>
    obtain ⟨runtime, rfl⟩ := made
    obtain ⟨listed, updates⟩ := mem_autoUpdated_ruleSet.mp mem
    cases resource with
    | const id format text => cases updates
    | file id format path autoUpdate updateInterval =>
      exact refreshed_of_holdsOne (.fileRule · _) .ruleSet holds (fun runtime => ⟨runtime, rfl⟩)
        (fun _ _ holds => holds) (fun _ named => ⟨congrArg _ named, rfl⟩) false now _ id.text
    | remote id format url proxy autoUpdate updateInterval =>
      have found : findRuleSet config id =
          some (.remote id format url proxy autoUpdate updateInterval) :=
        find?_of_nodup accepted.ruleSets_distinct listed
      simp only [forRuleSet, refresh, ResourceDefinition.id, ResolvedRuleSet.id, found]
      exact refreshed_of_holdsOne .remoteRule .ruleSet holds (fun runtime => ⟨runtime, rfl⟩)
        (fun _ _ holds => holds) (fun _ named => ⟨congrArg _ named, rfl⟩) true now _ id.text

/-- Everything that holds the version of one resource agrees. -/
structure Agree (runtime : PreparedRuntime) (definition : ResourceDefinition)
    (worker : PreparedResourceWorker) (version : ResourceVersion) : Prop where
  made : definition.MadeFor worker
  worker : worker.Holds definition.id version
  policy : (runtime.policy.entry definition.key).version = some version
  metadata : runtime.metadata.version? definition.id = some version
  held : ∀ snapshot ∈ runtime.held definition.key, snapshot.version ≤ version

/-- The policy knows the resources whose versions it has. -/
def Known (state : PolicyState) : Prop :=
  ∀ key, (state.entry key).version.isSome → (state.entry key).index.isSome

/-- Workers, policy and metadata are in step. -/
structure InStep (runtime : PreparedRuntime) : Prop where
  accepted : ResourcesAccepted runtime.config
  disjoint : ∀ hosts ∈ runtime.config.hosts, ∀ ruleSet ∈ runtime.config.ruleSets,
    hosts.id ≠ ruleSet.id
  known : ∀ key, (runtime.policy.entry key).version.isSome →
    (runtime.policy.entry key).index.isSome
  kept : ∀ key, ∀ snapshot ∈ runtime.held key, snapshot.key = key
  defined : ∀ id worker, runtime.resourceWorkers.lookup id = some worker →
    ∃ definition ∈ autoUpdated runtime.config, definition.id = id ∧ definition.MadeFor worker
  agree : ∀ definition ∈ autoUpdated runtime.config, ∃ worker version,
    runtime.resourceWorkers.lookup definition.id = some worker ∧
      Agree runtime definition worker version

theorem exists_publish (found : (state.entry snapshot.key).version = some current)
    (known : (state.entry snapshot.key).index.isSome) (newer : current < snapshot.version) :
    ∃ next, state.publish snapshot = .ok next := by
  cases snapshot with
  | hosts snapshot =>
    have listed : snapshot.resourceId ∈ state.index.hosts := by
      simpa [entry, RefreshedResourceSnapshot.key, lookup_isSome] using known
    exact ⟨_, publishHostsResource_eq_ok.mpr ⟨current, found, newer, listed, rfl⟩⟩
  | ruleSet snapshot =>
    have listed : snapshot.resourceId ∈ state.index.ruleSets := by
      simpa [entry, RefreshedResourceSnapshot.key, lookup_isSome] using known
    exact ⟨_, publishRuleSetResource_eq_ok.mpr ⟨current, found, newer, listed, rfl⟩⟩

theorem known_of_publish {next : PolicyState} (published : state.publish snapshot = .ok next)
    (known : Known state) : Known next := by
  intro key
  rw [(publish_entry published).2, update_apply]
  split_ifs
  · cases snapshot <;> exact fun _ => rfl
  · exact known key

theorem lt_of_epoch_lt {left right : ResourceVersion} (below : left.epoch < right.epoch) :
    left < right := by
  rw [← not_le, ResourceVersion.le_def]
  rw [UInt64.lt_iff_toNat_lt] at below
  omega

theorem id_eq_of_key_eq {left right : ResourceDefinition} (same : left.key = right.key) :
    left.id = right.id := by
  cases left <;> cases right <;> simp_all [ResourceDefinition.key, ResourceDefinition.id]

theorem publishMetadata_eq_ok {registry : ResourceRegistrySnapshot Unit}
    {candidate : ResourceSnapshot Unit}
    (found : registry.version? candidate.resourceId = some current)
    (newer : current.epoch < candidate.version.epoch) :
    publishMetadata registry candidate =
      .ok (registry.insert candidate.resourceId candidate) := by
  have fresh : ¬candidate.version ≤ current := not_le.mpr (lt_of_epoch_lt newer)
  rw [publishMetadata, found]
  simp only [Option.any_some, decide_eq_true_eq, fresh, if_false]
  rw [← found]
  refine compareAndPublish_eq_ok fun other other_eq => ?_
  cases found.symm.trans other_eq
  exact newer

theorem refreshedMetadata_of_key (same : snapshot.key = definition.key) :
    (refreshedMetadata snapshot).resourceId = definition.id ∧
      (refreshedMetadata snapshot).version = snapshot.version := by
  cases snapshot <;> cases definition <;>
    simp_all [RefreshedResourceSnapshot.key, ResourceDefinition.key, ResourceDefinition.id,
      refreshedMetadata, resourceMetadata, RefreshedResourceSnapshot.version]

namespace InStep

variable {runtime next : PreparedRuntime}

theorem eq_of_id_eq (inStep : InStep runtime) {left right : ResourceDefinition}
    (left_mem : left ∈ autoUpdated runtime.config) (right_mem : right ∈ autoUpdated runtime.config)
    (same : left.id = right.id) : left = right := by
  cases left with
  | hosts left =>
    have left_mem := (mem_autoUpdated_hosts.mp left_mem).1
    cases right with
    | hosts right =>
      exact congrArg _ (List.inj_on_of_nodup_map inStep.accepted.hosts_distinct left_mem
        (mem_autoUpdated_hosts.mp right_mem).1 same)
    | ruleSet right =>
      exact (inStep.disjoint left left_mem right (mem_autoUpdated_ruleSet.mp right_mem).1 same).elim
  | ruleSet left =>
    have left_mem := (mem_autoUpdated_ruleSet.mp left_mem).1
    cases right with
    | hosts right =>
      exact (inStep.disjoint right (mem_autoUpdated_hosts.mp right_mem).1 left left_mem
        same.symm).elim
    | ruleSet right =>
      exact congrArg _ (List.inj_on_of_nodup_map inStep.accepted.ruleSets_distinct left_mem
        (mem_autoUpdated_ruleSet.mp right_mem).1 same)

theorem advance (inStep : InStep runtime) (mem : definition ∈ autoUpdated runtime.config)
    (config_eq : next.config = runtime.config)
    (workers_eq : next.resourceWorkers = runtime.resourceWorkers.insert definition.id worker)
    (held_eq : next.held = runtime.held) (known : Known next.policy)
    (policy_eq : ∀ key ≠ definition.key, next.policy.entry key = runtime.policy.entry key)
    (metadata_eq : ∀ id ≠ definition.id, next.metadata.version? id = runtime.metadata.version? id)
    (own : Agree next definition worker version) : InStep next := by
  refine ⟨by rw [config_eq]; exact inStep.accepted, by rw [config_eq]; exact inStep.disjoint, known,
    by rw [held_eq]; exact inStep.kept, fun id other found => ?_, fun other other_mem => ?_⟩
  · rw [workers_eq, lookup_insert_eq_ite] at found
    rw [config_eq]
    split_ifs at found with same
    · cases found
      exact ⟨definition, mem, same.symm, own.made⟩
    · exact inStep.defined id other found
  · rw [config_eq] at other_mem
    by_cases same : other.id = definition.id
    · obtain rfl := inStep.eq_of_id_eq other_mem mem same
      exact ⟨worker, version, by rw [workers_eq, lookup_insert], own⟩
    · obtain ⟨worker, version, found, agrees⟩ := inStep.agree other other_mem
      have key_ne : other.key ≠ definition.key := fun equal => same (id_eq_of_key_eq equal)
      refine ⟨worker, version, by rw [workers_eq, lookup_insert_ne same, found], ?_⟩
      exact { agrees with
        policy := by rw [policy_eq _ key_ne, agrees.policy]
        metadata := by rw [metadata_eq _ same, agrees.metadata]
        held := by rw [held_eq]; exact agrees.held }

theorem refreshResource (inStep : InStep runtime) (sources : Sources) (id : ConfigId) (now : Nat) :
    InStep (runtime.refreshResource sources id now).1 ∧
      ∀ resource error, (runtime.refreshResource sources id now).2 ≠
        .error (.policy resource error) := by
  unfold PreparedRuntime.refreshResource
  split
  · exact ⟨inStep, fun _ _ impossible => nomatch impossible⟩
  · next worker found =>
    obtain ⟨definition, mem, rfl, _⟩ := inStep.defined id worker found
    obtain ⟨_, version, found', agrees⟩ := inStep.agree definition mem
    cases found.symm.trans found'
    obtain ⟨made, outcome⟩ := refreshed_worker inStep.accepted mem agrees.made agrees.worker
      sources now
    generalize worker.refresh runtime.config sources definition.id now = after at made outcome ⊢
    obtain ⟨worker, result⟩ := after
    rcases outcome with ⟨resource, error, rfl, kept⟩ | ⟨refreshed, rfl, key_eq, newer, replaced⟩
    · refine ⟨inStep.advance mem rfl rfl rfl inStep.known (fun _ _ => rfl) (fun _ _ => rfl)
        { agrees with made := made, worker := kept }, fun _ _ impossible => nomatch impossible⟩
    · have current : (runtime.policy.entry refreshed.key).version = some version := by
        rw [key_eq, agrees.policy]
      have raised := lt_of_epoch_lt newer
      obtain ⟨policy, published⟩ := exists_publish current
        (inStep.known _ (by rw [current]; rfl)) raised
      have entry_eq := (publish_entry published).2
      obtain ⟨named, version_eq⟩ := refreshedMetadata_of_key key_eq
      have metadata_eq := publishMetadata_eq_ok (by rw [named, agrees.metadata])
        (version_eq.symm ▸ newer)
      dsimp only
      rw [published]
      rw [metadata_eq, named]
      refine ⟨inStep.advance mem rfl rfl rfl (known_of_publish published inStep.known)
        (fun key differs => ?_) (fun id differs => ?_) ⟨made, replaced, ?_, ?_, ?_⟩,
        fun _ _ impossible => nomatch impossible⟩
      · rw [entry_eq, key_eq, update_of_ne differs]
      · simp [version?, differs]
      · rw [entry_eq, key_eq, update_self, version_entry]
      · simp [version?, version_eq]
      · exact fun snapshot found => (agrees.held snapshot found).trans raised.le

end InStep

/-- A publication that may be refused leaves the newer one of both versions. -/
theorem entry_afterPublish (snapshot : RefreshedResourceSnapshot) (known : Known state) :
    Known (state.afterPublish snapshot) ∧
      (∀ key ≠ snapshot.key, (state.afterPublish snapshot).entry key = state.entry key) ∧
      ∀ current, (state.entry snapshot.key).version = some current →
        ((state.afterPublish snapshot).entry snapshot.key).version =
          some (max current snapshot.version) := by
  unfold afterPublish
  split
  · next next_ published =>
    obtain ⟨⟨previous, found, raised⟩, entry_eq⟩ := publish_entry published
    refine ⟨known_of_publish published known, fun key differs => ?_, fun current current_eq => ?_⟩
    · rw [entry_eq, update_of_ne differs]
    · cases found.symm.trans current_eq
      rw [entry_eq, update_self, version_entry, max_eq_right raised.le]
  · next reason refused =>
    refine ⟨known, fun _ _ => rfl, fun current current_eq => ?_⟩
    have older : ¬current < snapshot.version := by
      intro newer
      obtain ⟨accepted, published⟩ := exists_publish current_eq
        (known _ (by rw [current_eq]; rfl)) newer
      rw [published] at refused
      cases refused
    rw [current_eq, max_eq_left (not_lt.mp older)]

theorem held_keep (runtime : PreparedRuntime) (id : ConfigId)
    (snapshot : RefreshedResourceSnapshot) (key : ResourceKey) :
    (runtime.keep id snapshot).held key =
      if key = keyed id snapshot then some snapshot else runtime.held key := by
  cases snapshot <;> cases key <;>
    simp [PreparedRuntime.keep, held, keyed,
      lookup_insert_eq_ite, apply_ite (Option.map _)]

/-- The policy holds a version of a resource that is at least as new as the kept snapshot. -/
def Covers (runtime : PreparedRuntime) (key : ResourceKey) (version : ResourceVersion) : Prop :=
  (runtime.policy.entry key).version = some version ∧
    ∀ snapshot ∈ runtime.held key, snapshot.version ≤ version

/-- What the rounds of a merge do. -/
structure Merged (offers : List (ConfigId × RefreshedResourceSnapshot))
    (before after : PreparedRuntime) : Prop where
  config : after.config = before.config
  metadata : after.metadata = before.metadata
  workers : after.resourceWorkers = before.resourceWorkers
  known : ∀ key, (after.policy.entry key).version.isSome → (after.policy.entry key).index.isSome
  kept : ∀ key, ∀ snapshot ∈ after.held key, snapshot.key = key
  /-- The policy ends with the newest version that it had or was offered. -/
  versions : ∀ key version, Covers before key version → ∃ newest, Covers after key newest ∧
    version ≤ newest ∧ (∀ offer ∈ offers, offer.2.key = key → offer.2.version ≤ newest) ∧
    (newest = version ∨ ∃ offer ∈ offers, offer.2.key = key ∧ offer.2.version = newest)

theorem merged_mergeSnapshot {offer : ConfigId × RefreshedResourceSnapshot}
    (known : Known runtime.policy) (kept : ∀ key, ∀ snapshot ∈ runtime.held key, snapshot.key = key)
    (named : offer.2.key = keyed offer.1 offer.2) :
    Merged [offer] runtime (runtime.mergeSnapshot offer) := by
  obtain ⟨known', frame, own⟩ := entry_afterPublish offer.2 known
  unfold mergeSnapshot
  split_ifs with newer
  · have held_eq := held_keep runtime offer.1 offer.2
    refine ⟨by cases offer.2 <;> rfl, by cases offer.2 <;> rfl, by cases offer.2 <;> rfl, known',
      fun key snapshot found => ?_, fun key version covers => ?_⟩
    · replace found : (runtime.keep offer.1 offer.2).held key = some snapshot := found
      rw [held_eq] at found
      split_ifs at found with same
      · cases found
        rw [named, same]
      · exact kept key snapshot found
    · by_cases same : key = offer.2.key
      · subst same
        refine ⟨max version offer.2.version, ⟨own version covers.1, fun snapshot found => ?_⟩,
          le_max_left _ _, by simp, ?_⟩
        · replace found : (runtime.keep offer.1 offer.2).held _ = some snapshot := found
          rw [held_eq, if_pos named] at found
          cases found
          exact le_max_right _ _
        · rcases max_choice version offer.2.version with chosen | chosen
          · exact .inl chosen
          · exact .inr ⟨offer, List.mem_singleton_self _, rfl, chosen.symm⟩
      · refine ⟨version, ⟨by rw [frame key same, covers.1], fun snapshot found => ?_⟩, le_rfl,
          by simp [Ne.symm same], .inl rfl⟩
        replace found : (runtime.keep offer.1 offer.2).held key = some snapshot := found
        rw [held_eq, if_neg (named ▸ same)] at found
        exact covers.2 snapshot found
  · refine ⟨rfl, rfl, rfl, known, kept, fun key version covers => ?_⟩
    refine ⟨version, covers, le_rfl, fun other mem same => ?_, .inl rfl⟩
    obtain rfl := List.mem_singleton.mp mem
    rw [← named, same] at newer
    cases held_eq : runtime.held key with
    | none => simp [held_eq] at newer
    | some snapshot =>
      rw [held_eq, all_some, decide_eq_true_eq, not_lt] at newer
      exact newer.trans (covers.2 snapshot held_eq)

theorem merged_foldl {offers : List (ConfigId × RefreshedResourceSnapshot)}
    (named : ∀ offer ∈ offers, offer.2.key = keyed offer.1 offer.2)
    (known : Known runtime.policy)
    (kept : ∀ key, ∀ snapshot ∈ runtime.held key, snapshot.key = key) :
    Merged offers runtime (offers.foldl mergeSnapshot runtime) := by
  induction offers generalizing runtime with
  | nil =>
    exact ⟨rfl, rfl, rfl, known, kept, fun key version covers =>
      ⟨version, covers, le_rfl, by simp, .inl rfl⟩⟩
  | cons offer offers induction =>
    have first := merged_mergeSnapshot known kept (named offer List.mem_cons_self)
    have rest := induction (fun other mem => named other (List.mem_cons_of_mem _ mem))
      first.known first.kept
    refine ⟨rest.config.trans first.config, rest.metadata.trans first.metadata,
      rest.workers.trans first.workers, rest.known, rest.kept, fun key version covers => ?_⟩
    obtain ⟨middle, middle_covers, middle_le, offered_le, middle_eq⟩ :=
      first.versions key version covers
    obtain ⟨newest, covered, newest_le, others_le, newest_eq⟩ :=
      rest.versions key middle middle_covers
    refine ⟨newest, covered, middle_le.trans newest_le, fun other mem same => ?_, ?_⟩
    · rcases List.mem_cons.mp mem with rfl | later
      · exact (offered_le other (List.mem_singleton_self _) same).trans newest_le
      · exact others_le other later same
    · rcases newest_eq with rfl | ⟨other, mem, same, version_eq⟩
      · rcases middle_eq with same | ⟨other, mem, same, version_eq⟩
        · exact .inl same
        · exact .inr ⟨other, by simp_all, same, version_eq⟩
      · exact .inr ⟨other, List.mem_cons_of_mem _ mem, same, version_eq⟩

/-- The resource of a name is defined alike in two configurations. -/
def sameKey (candidate incoming : ResolvedConfig) : ResourceKey → Bool
  | .hosts id => sameHostResource candidate incoming id
  | .ruleSet id => sameRuleSet candidate incoming id

theorem current_eq_hosts {snapshot : ResourceSnapshot HostsIndex} :
    worker.current = some (.hosts snapshot) ↔ worker.currentHostsSnapshot = some snapshot := by
  cases worker <;> simp [current, currentHostsSnapshot]

theorem current_eq_ruleSet {snapshot : ResourceSnapshot RuleIndex} :
    worker.current = some (.ruleSet snapshot) ↔ worker.currentRuleSnapshot = some snapshot := by
  cases worker <;> simp [current, currentRuleSnapshot]

theorem mem_loop_iff {Value Snapshot : Type} {same : ConfigId → Bool}
    {read : Value → Option Snapshot} {wrap : Snapshot → RefreshedResourceSnapshot}
    {entries : Map ConfigId Value} :
    (id, snapshot) ∈ (entries.entries.filterMap fun entry =>
        if same entry.1 then (read entry.2).map fun loaded => (entry.1, wrap loaded) else none) ↔
      same id = true ∧ ∃ value, entries.lookup id = some value ∧
        (read value).map wrap = some snapshot := by
  simp only [List.mem_filterMap, Sigma.exists, Option.ite_none_right_eq_some,
    map_eq_some_iff, Prod.mk.injEq, ← lookup_eq_some_iff]
  grind

theorem mem_offered_iff {candidate : ResolvedConfig} :
    (id, snapshot) ∈ offered candidate incoming ↔
      sameKey candidate incoming.config (keyed id snapshot) = true ∧
      ((∃ worker, incoming.resourceWorkers.lookup id = some worker ∧
        worker.current = some snapshot) ∨
      incoming.held (keyed id snapshot) = some snapshot) := by
  simp only [offered, List.mem_append, mem_loop_iff]
  cases snapshot with
  | hosts snapshot =>
    simp [sameKey, keyed, held, current_eq_hosts, and_or_left]
  | ruleSet snapshot =>
    simp [sameKey, keyed, held, current_eq_ruleSet, and_or_left]

theorem key_eq_keyed (same : snapshot.key = worker.key id) :
    snapshot.key = keyed id snapshot := by
  cases snapshot <;> cases worker <;>
    simp_all [RefreshedResourceSnapshot.key, key, keyed]

theorem eq_of_keyed (same : keyed id snapshot = definition.key) :
    id = definition.id := by
  cases snapshot <;> cases definition <;>
    simp_all [keyed, ResourceDefinition.key, ResourceDefinition.id]

theorem madeFor_mergeStateFrom (made : definition.MadeFor worker)
    (incoming : PreparedResourceWorker) : definition.MadeFor (worker.mergeStateFrom incoming) := by
  cases definition with
  | hosts resource =>
    obtain ⟨runtime, rfl⟩ := made
    cases incoming <;> exact ⟨_, rfl⟩
  | ruleSet resource =>
    obtain ⟨runtime, rfl⟩ := made
    cases resource <;> cases incoming <;> exact ⟨_, rfl⟩

theorem holds_mergeStateFrom {incoming : PreparedResourceWorker}
    (made : definition.MadeFor worker) (incoming_made : definition.MadeFor incoming)
    (holds : worker.Holds definition.id version) (offers : incoming.Holds definition.id other) :
    (worker.mergeStateFrom incoming).Holds definition.id (max version other) := by
  cases definition with
  | hosts resource =>
    obtain ⟨runtime, rfl⟩ := made
    obtain ⟨incoming, rfl⟩ := incoming_made
    exact HoldsOne.merge holds offers
  | ruleSet resource =>
    obtain ⟨runtime, rfl⟩ := made
    obtain ⟨incoming, rfl⟩ := incoming_made
    cases resource <;> exact HoldsOne.merge holds offers

theorem InStep.findRuleSet_eq_none (inStep : InStep runtime)
    (mem : resource ∈ runtime.config.hosts) : findRuleSet runtime.config resource.id = none :=
  List.find?_eq_none.mpr fun ruleSet ruleSet_mem => by
    simpa using (inStep.disjoint resource mem ruleSet ruleSet_mem).symm

theorem InStep.findHostResource_eq_none (inStep : InStep runtime) {resource : ResolvedRuleSet}
    (mem : resource ∈ runtime.config.ruleSets) :
    findHostResource runtime.config resource.id = none :=
  List.find?_eq_none.mpr fun hosts hosts_mem => by
    simpa using inStep.disjoint hosts hosts_mem resource mem

/-- A resource with automatic updates that is defined alike is one on both sides. -/
theorem sameKey_iff (own : InStep candidate) (other : InStep incoming)
    (mem : definition ∈ autoUpdated candidate.config) :
    sameKey candidate.config incoming.config definition.key =
        sameResource candidate.config incoming.config definition.id ∧
      (sameResource candidate.config incoming.config definition.id = true →
        definition ∈ autoUpdated incoming.config) := by
  cases definition with
  | hosts resource =>
    obtain ⟨listed, updates⟩ := mem_autoUpdated_hosts.mp mem
    have found : findHostResource candidate.config resource.id = some resource :=
      find?_of_nodup own.accepted.hosts_distinct listed
    simp only [sameKey, sameHostResource, sameResource, ResourceDefinition.key,
      ResourceDefinition.id, found, own.findRuleSet_eq_none listed, mem_autoUpdated_hosts, updates]
    cases theirs : findHostResource incoming.config resource.id with
    | none => simp
    | some theirResource =>
      have their_mem := List.mem_of_find?_eq_some theirs
      have their_id : theirResource.id = resource.id := by simpa using List.find?_some theirs
      rw [← their_id, other.findRuleSet_eq_none their_mem]
      simp only [some.injEq, decide_eq_true_eq, and_true, true_and]
      rintro rfl
      exact their_mem
  | ruleSet resource =>
    obtain ⟨listed, updates⟩ := mem_autoUpdated_ruleSet.mp mem
    have found : findRuleSet candidate.config resource.id = some resource :=
      find?_of_nodup own.accepted.ruleSets_distinct listed
    simp only [sameKey, sameRuleSet, sameResource, ResourceDefinition.key, ResourceDefinition.id,
      found, own.findHostResource_eq_none listed, mem_autoUpdated_ruleSet, updates]
    cases theirs : findRuleSet incoming.config resource.id with
    | none => simp
    | some theirResource =>
      have their_mem := List.mem_of_find?_eq_some theirs
      have their_id : theirResource.id = resource.id := by simpa using List.find?_some theirs
      rw [← their_id, other.findHostResource_eq_none their_mem]
      simp only [some.injEq, decide_eq_true_eq, and_true, true_and]
      rintro rfl
      exact their_mem

theorem InStep.offer_named {candidate : ResolvedConfig} (inStep : InStep incoming) :
    ∀ offer ∈ offered candidate incoming,
      offer.2.key = keyed offer.1 offer.2 := by
  rintro ⟨id, snapshot⟩ mem
  rcases (mem_offered_iff.mp mem).2 with ⟨worker, found, current_eq⟩ | held
  · obtain ⟨definition, listed, rfl, _⟩ := inStep.defined id worker found
    obtain ⟨_, version, found', agrees⟩ := inStep.agree definition listed
    cases found.symm.trans found'
    obtain ⟨_, own_eq, key_eq, _⟩ := agrees.worker.current
    cases current_eq.symm.trans own_eq
    exact key_eq_keyed key_eq
  · exact inStep.kept _ snapshot held

/-- The policy ends with the newer version of both runtimes, if the resource is defined alike. -/
theorem newest_eq (own : InStep candidate) (other : InStep incoming)
    (mem : definition ∈ autoUpdated candidate.config) {newest : ResourceVersion}
    (own_le : version ≤ newest)
    (offered_le : ∀ offer ∈ offered candidate.config incoming, offer.2.key = definition.key →
      offer.2.version ≤ newest)
    (chosen : newest = version ∨
      ∃ offer ∈ offered candidate.config incoming, offer.2.key = definition.key ∧
      offer.2.version = newest) :
    (sameResource candidate.config incoming.config definition.id = false → newest = version) ∧
    ∀ worker otherVersion, sameResource candidate.config incoming.config definition.id = true →
      incoming.resourceWorkers.lookup definition.id = some worker →
      Agree incoming definition worker otherVersion → newest = max version otherVersion := by
  obtain ⟨same_eq, _⟩ := sameKey_iff own other mem
  refine ⟨fun differs => ?_, fun worker otherVersion same found agrees => le_antisymm ?_ ?_⟩
  · rcases chosen with equal | ⟨⟨id, snapshot⟩, offered, key_eq, _⟩
    · exact equal
    · have alike := (mem_offered_iff.mp offered).1
      rw [← other.offer_named _ offered, key_eq, same_eq, differs] at alike
      cases alike
  · rcases chosen with rfl | ⟨⟨id, snapshot⟩, offered, key_eq, rfl⟩
    · exact le_max_left _ _
    · have keyed_eq := (other.offer_named _ offered).symm.trans key_eq
      obtain rfl := eq_of_keyed keyed_eq
      refine le_trans ?_ (le_max_right _ _)
      rcases (mem_offered_iff.mp offered).2 with ⟨_, found', current_eq⟩ | held
      · cases found.symm.trans found'
        obtain ⟨_, own_eq, _, rfl⟩ := agrees.worker.current
        cases current_eq.symm.trans own_eq
        exact le_rfl
      · exact agrees.held snapshot (keyed_eq ▸ held)
  · obtain ⟨snapshot, current_eq, key_eq, rfl⟩ := agrees.worker.current
    have keyed_eq := key_eq_keyed key_eq
    rw [agrees.made.key_eq] at key_eq
    refine max_le own_le
      (offered_le (definition.id, snapshot) (mem_offered_iff.mpr ⟨?_, ?_⟩) key_eq)
    · rw [← keyed_eq, key_eq, same_eq, same]
    · exact .inl ⟨worker, found, current_eq⟩

theorem InStep.mergeStateFrom (own : InStep candidate) (other : InStep incoming) :
    InStep (candidate.mergeStateFrom incoming) := by
  have named : ∀ offer ∈ offered candidate.config incoming, _ := other.offer_named
  have merged := merged_foldl named own.known own.kept
  have workers_eq (id : ConfigId) : (candidate.mergeStateFrom incoming).resourceWorkers.lookup id =
      (candidate.resourceWorkers.lookup id).map fun worker =>
        if sameResource candidate.config incoming.config id then
          (incoming.resourceWorkers.lookup id).elim worker worker.mergeStateFrom else worker := by
    simp only [PreparedRuntime.mergeStateFrom, lookup_mapValues, merged.workers]
  refine ⟨merged.config ▸ own.accepted, merged.config ▸ own.disjoint, merged.known, merged.kept,
    fun id worker found => ?_, fun definition mem => ?_⟩
  · rw [workers_eq, map_eq_some_iff] at found
    obtain ⟨before, before_eq, rfl⟩ := found
    obtain ⟨definition, listed, named, made⟩ := own.defined id before before_eq
    refine ⟨definition, merged.config ▸ listed, named, ?_⟩
    split_ifs
    · cases incoming.resourceWorkers.lookup id with
      | none => exact made
      | some theirs => exact madeFor_mergeStateFrom made theirs
    · exact made
  · replace mem : definition ∈ autoUpdated candidate.config := merged.config ▸ mem
    obtain ⟨worker, version, found, agrees⟩ := own.agree definition mem
    obtain ⟨newest, covers, own_le, offered_le, chosen⟩ :=
      merged.versions definition.key version ⟨agrees.policy, agrees.held⟩
    obtain ⟨unlike, alike⟩ := newest_eq own other mem own_le offered_le chosen
    have metadata_eq : (candidate.mergeStateFrom incoming).metadata.version? definition.id = _ :=
      version?_mergeNewerFrom _ _ _ _
    rw [merged.metadata, agrees.metadata] at metadata_eq
    cases same : sameResource candidate.config incoming.config definition.id with
    | false =>
      obtain rfl := unlike same
      refine ⟨worker, newest, by rw [workers_eq, found, same]; rfl, agrees.made, agrees.worker,
        covers.1, ?_, covers.2⟩
      rw [metadata_eq, same]
      cases incoming.metadata.lookup definition.id <;> rfl
    | true =>
      have shared := (sameKey_iff own other mem).2 same
      obtain ⟨theirs, otherVersion, their_found, their_agrees⟩ := other.agree definition shared
      obtain rfl := alike theirs otherVersion same their_found their_agrees
      refine ⟨worker.mergeStateFrom theirs, _, by rw [workers_eq, found, same, their_found]; rfl,
        madeFor_mergeStateFrom agrees.made theirs, holds_mergeStateFrom agrees.made
        their_agrees.made agrees.worker their_agrees.worker, covers.1, ?_, covers.2⟩
      obtain ⟨snapshot, snapshot_eq, rfl⟩ := map_eq_some_iff.mp their_agrees.metadata
      rw [metadata_eq, snapshot_eq, same]
      simp only [Option.elim_some, all_some, Bool.true_and, decide_eq_true_eq]
      split_ifs with newer
      · rw [max_eq_right newer.le]
      · rw [max_eq_left (not_lt.mp newer)]

end FluxDns.Runtime
