import FluxDns.Library.ByteReader
import FluxDns.Policy.Publication

/-!
# Selectors of refreshed rule sets

Preparation makes sure that every rule set reference of a strategy finds its selector.  A refreshed
rule set replaces the content that was checked, so a reference goes on finding its selector as long
as every accepted content still offers it.
-/

namespace FluxDns.Policy

open Config Resource Execution ByteReader Traversal PolicyIndex AList List RouteIndex Option Cache

variable {strategies : List ResolvedStrategy} {index : PolicyIndex} {routing : RouteSelection}
  {hosts : Map ConfigId HostsIndex} {rules : Map ConfigId RuleIndex}
  {hostSnapshots : Snapshots HostsIndex} {ruleSnapshots : Snapshots RuleIndex}
  {rule : ResolvedStrategyRule}

def references (strategies : List ResolvedStrategy) : List ResolvedRuleSetRef :=
  strategies.flatMap fun strategy => strategy.rules.filterMap (·.ruleSet)

theorem mem_references {strategy : ResolvedStrategy} (strategy_mem : strategy ∈ strategies)
    (rule_mem : rule ∈ strategy.rules) {reference : ResolvedRuleSetRef}
    (referenced : rule.ruleSet = some reference) : reference ∈ references strategies :=
  mem_flatMap.mpr ⟨strategy, strategy_mem, mem_filterMap.mpr ⟨rule, rule_mem, referenced⟩⟩

/-- A content offers a selector; without one it has to be a plain rule list. -/
def Offers (index : RuleIndex) : Option String → Bool
  | some selector => (index.selector selector).isSome
  | none => !index.isSelectorMap

/-- Every reference finds its rule set and its selector. -/
def SelectorsFound (strategies : List ResolvedStrategy) (index : PolicyIndex) : Prop :=
  ∀ reference ∈ references strategies, ∃ ruleSet,
    index.ruleSets.lookup reference.resource = some ruleSet ∧ Offers ruleSet reference.selector

theorem offers_of_validateReference {indexes : Map ConfigId RuleIndex}
    {reference : ResolvedRuleSetRef} {index : RuleIndex}
    (found : indexes.lookup reference.resource = some index)
    (valid : validateReference indexes reference = .ok ()) : Offers index reference.selector := by
  rw [validateReference, found] at valid
  cases wanted : reference.selector with
  | some selector =>
    cases kind : index.isSelectorMap with
    | true =>
      simp only [wanted, kind] at valid
      split_ifs at valid with offered
      exact offered
    | false => simp [wanted, kind] at valid
  | none =>
    cases kind : index.isSelectorMap with
    | true => simp [wanted, kind] at valid
    | false => simp [Offers, kind]

theorem fromConfig_ok {loader : ResourceLoader} {config : ResolvedConfig}
    (prepared : fromConfig loader config hosts rules = .ok index) :
    insertUnique ResolvedRuleSet.id (compileRuleSet loader rules)
        (fun resource => .duplicateRuleSet resource.id) ∅ config.ruleSets = .ok index.ruleSets ∧
      validateRuleSetSelectors config.strategies index.ruleSets = .ok () ∧
      build config.listeners config.strategies = .ok index.routes := by
  simp only [fromConfig, compileResources, buildWithResources, bind_eq_ok] at prepared
  obtain ⟨_, ⟨hosts, _, ruleSets, ruleSets_eq, compiled⟩, checked, valid, routes, routes_eq,
    configs, _, clients, _, made⟩ := prepared
  cases compiled
  cases made
  exact ⟨ruleSets_eq, valid, mapError_eq_ok routes_eq⟩

theorem selectorsFound_of_fromConfig {loader : ResourceLoader} {config : ResolvedConfig}
    (prepared : fromConfig loader config hosts rules = .ok index)
    (defined : ∀ reference ∈ references config.strategies, ∃ ruleSet ∈ config.ruleSets,
      ruleSet.id = reference.resource) : SelectorsFound config.strategies index := by
  intro reference mem
  obtain ⟨compiled, valid, _⟩ := fromConfig_ok prepared
  obtain ⟨ruleSet, ruleSet_mem, same⟩ := defined reference mem
  obtain ⟨content, found⟩ := lookup_of_insertUnique compiled ruleSet_mem
  rw [same] at found
  exact ⟨content, found, offers_of_validateReference found (forM_eq_ok valid reference mem)⟩

/-- A step whose content, if it is accepted, offers the selectors that references to it use. -/
def OffersSelectors (strategies : List ResolvedStrategy)
    (transition : Transition PolicyState Publication PublicationReport) : Prop :=
  ∀ snapshot, transition.action.snapshot? = some (.ruleSet snapshot) →
    (transition.before.publishRuleSetResource snapshot).isOk →
    ∀ reference ∈ references strategies, reference.resource = snapshot.resourceId →
      Offers snapshot.compiled reference.selector

/-- What holds of a policy after any number of publications. -/
structure Sound (strategies : List ResolvedStrategy) (routes : RouteIndex) (state : PolicyState) :
    Prop where
  routes_eq : state.index.routes = routes
  found : SelectorsFound strategies state.index

theorem Sound.publishRuleSet {routes : RouteIndex} {state next : PolicyState}
    {snapshot : ResourceSnapshot RuleIndex} (sound : Sound strategies routes state)
    (published : state.publishRuleSetResource snapshot = .ok next)
    (offered : ∀ reference ∈ references strategies, reference.resource = snapshot.resourceId →
      Offers snapshot.compiled reference.selector) : Sound strategies routes next := by
  obtain ⟨_, -, -, -, rfl⟩ := publishRuleSetResource_eq_ok.mp published
  refine ⟨sound.routes_eq, fun reference mem => ?_⟩
  simp only [lookup_insert_eq_ite]
  split
  · next same => exact ⟨snapshot.compiled, rfl, offered reference mem same⟩
  · exact sound.found reference mem

theorem Sound.publishHosts {routes : RouteIndex} {state next : PolicyState}
    {snapshot : ResourceSnapshot HostsIndex} (sound : Sound strategies routes state)
    (published : state.publishHostsResource snapshot = .ok next) :
    Sound strategies routes next := by
  obtain ⟨_, -, -, -, rfl⟩ := publishHostsResource_eq_ok.mp published
  exact ⟨sound.routes_eq, sound.found⟩

theorem Sound.step {routes : RouteIndex}
    (move : Transition PolicyState Publication PublicationReport)
    (sound : Sound strategies routes move.before)
    (taken : publicationStep move.before move.action = some (move.after, move.output))
    (offered : OffersSelectors strategies move) : Sound strategies routes move.after := by
  rcases publicationStep_effect taken with unchanged | ⟨snapshot, given, published⟩
  · rw [unchanged]
    exact sound
  · cases snapshot with
    | hosts snapshot => exact sound.publishHosts published
    | ruleSet snapshot =>
      have published' : move.before.publishRuleSetResource snapshot = .ok move.after := published
      refine sound.publishRuleSet published' (offered snapshot given ?_)
      rw [published']
      rfl

/-- The error of a hosts resource that is not there, the only one that rules can end in. -/
def IsHostsError (error : PolicyError) : Prop := ∃ resource, error = .hostsResourceNotFound resource

theorem lookupHosts_error {resource : ConfigId} {qname : CanonicalDomain} {error : PolicyError}
    (failed : lookupHosts index resource qname = .error error) : IsHostsError error := by
  rw [lookupHosts] at failed
  split at failed <;> cases failed
  exact ⟨resource, rfl⟩

theorem selectMatchers_of_offers {reference : ResolvedRuleSetRef} {ruleSet : RuleIndex}
    (found : index.ruleSets.lookup reference.resource = some ruleSet)
    (offers : Offers ruleSet reference.selector) :
    ∃ matchers, selectMatchers index reference = .ok matchers := by
  rw [selectMatchers, found]
  cases wanted : reference.selector with
  | some selector =>
    rw [wanted] at offers
    obtain ⟨matchers, matchers_eq⟩ := isSome_iff_exists.mp offers
    exact ⟨matchers, by simp [matchers_eq]⟩
  | none =>
    rw [wanted] at offers
    have plain : ruleSet.isSelectorMap = false := by simpa [Offers] using offers
    exact ⟨ruleSet.toRuleMatchers, by simp [plain]⟩

section Evaluation

variable {nameToAscii : String → Option String} {index : PolicyIndex}
  {strategies : List ResolvedStrategy} {strategy : ResolvedStrategy} {qname : CanonicalDomain}
  {error : PolicyError} {asked : Option CanonicalDomain}

theorem evaluateListenerHosts_error {ecs : ResolvedEcs}
    (failed : evaluateListenerHosts index routing strategy qname ecs = .error error) :
    IsHostsError error := by
  rw [evaluateListenerHosts] at failed
  split at failed <;> try cases failed
  rcases bind_eq_error failed with missing | ⟨hit, _, rest⟩
  · exact lookupHosts_error missing
  · cases hit <;> cases rest

variable (found : SelectorsFound strategies index)

include found

variable (strategy_mem : strategy ∈ strategies)

include strategy_mem

theorem evaluateRule_error (rule_mem : rule ∈ strategy.rules) {ordinal : Nat}
    (failed : evaluateRule nameToAscii index strategy qname ordinal rule = .error error) :
    IsHostsError error := by
  rw [evaluateRule] at failed
  split at failed
  · rcases bind_eq_error failed with missing | ⟨hit, _, rest⟩
    · exact lookupHosts_error missing
    · cases hit <;> cases rest
  · split at failed <;> try cases failed
    next reference referenced =>
    obtain ⟨ruleSet, ruleSet_eq, offers⟩ :=
      found reference (mem_references strategy_mem rule_mem referenced)
    obtain ⟨matchers, matchers_eq⟩ := selectMatchers_of_offers ruleSet_eq offers
    rw [matchers_eq] at failed
    cases failed

theorem firstMatch_error {rules : List ResolvedStrategyRule}
    (rules_mem : ∀ rule ∈ rules, rule ∈ strategy.rules) {ordinal : Nat}
    (failed : firstMatch nameToAscii index strategy qname ordinal rules = .error error) :
    IsHostsError error := by
  induction rules generalizing ordinal with
  | nil => cases failed
  | cons rule rules ih =>
    rcases bind_eq_error failed with here | ⟨outcome, _, later⟩
    · exact evaluateRule_error found strategy_mem (rules_mem rule mem_cons_self) here
    · cases outcome with
      | some outcome => cases later
      | none => exact ih (fun rule mem => rules_mem rule (mem_cons_of_mem _ mem)) later

theorem evaluateRules_error {ecs : ResolvedEcs}
    (failed : evaluateRules nameToAscii index routing strategy asked ecs = .error error) :
    IsHostsError error := by
  cases asked with
  | none => cases failed
  | some qname =>
    rcases bind_eq_error failed with hosts | ⟨outcome, _, rest⟩
    · exact evaluateListenerHosts_error hosts
    · cases outcome with
      | some outcome => cases rest
      | none =>
        rcases bind_eq_error rest with rules | ⟨matched, _, done⟩
        · exact firstMatch_error found strategy_mem (fun _ mem => mem) rules
        · cases done

omit strategy_mem

theorem evaluateRoute_error {context : PolicyContext} (strategy_mem : context.strategy ∈ strategies)
    (failed : evaluateRoute nameToAscii index context asked = .error error) :
    IsHostsError error := by
  rcases bind_eq_error failed with rules | ⟨outcome, _, done⟩
  · exact evaluateRules_error found strategy_mem rules
  · cases done

end Evaluation

theorem strategy_mem_of_lookup {listeners : List ResolvedListener} {routes : RouteIndex}
    (built : build listeners strategies = .ok routes) {id : ConfigId}
    {strategy : ResolvedStrategy} (found : routes.strategies.lookup id = some strategy) :
    strategy ∈ strategies := by
  simp only [build, bind_eq_ok] at built
  obtain ⟨compiled, compiled_eq, _, _, made⟩ := built
  cases made
  have inserted := mapError_eq_ok compiled_eq
  rcases (lookup_insertUnique inserted id strategy).mp found with absent | ⟨item, mem, _, same⟩
  · simp at absent
  · cases same
    exact mem

theorem selectRouting_strategy {request : PolicyRequest}
    (selected : index.selectRouting request = .ok routing) :
    ∃ id, index.routes.strategies.lookup id = some routing.strategy := by
  rw [selectRouting] at selected
  split at selected
  · next route _ =>
    split at selected <;> cases selected
    next found doh =>
    rw [selectDoh] at doh
    split at doh <;> try cases doh
    simp only [bind_eq_bind, bind_eq_some_iff] at doh
    obtain ⟨id, _, strategy, strategy_eq, made⟩ := doh
    cases made
    exact ⟨id, strategy_eq⟩
  · have stream := mapError_eq_ok selected
    rw [selectStream] at stream
    split at stream <;> try cases stream
    next id hosts _ =>
    split at stream <;> cases stream
    next strategy strategy_eq => exact ⟨id, strategy_eq⟩

theorem selectStrategy_lookup {request : PolicyRequest}
    (routed : index.selectRouting request = .ok routing) {client : Option ResolvedClient}
    {strategy : ResolvedStrategy} (selected : index.selectStrategy routing client = .ok strategy) :
    ∃ id, index.routes.strategies.lookup id = some strategy := by
  have route_strategy := selectRouting_strategy routed
  unfold selectStrategy at selected
  split at selected
  · split at selected
    · next id _ =>
      split at selected <;> cases selected
      next found found_eq => exact ⟨id, found_eq⟩
    · cases selected
      exact route_strategy
  · cases selected
    exact route_strategy

theorem prepareContext_strategy {sha256 : List UInt8 → ClientCacheDigest}
    {request : PolicyRequest} {context : PolicyContext}
    (prepared : index.prepareContext sha256 request = .ok context) :
    ∃ id, index.routes.strategies.lookup id = some context.strategy := by
  simp only [prepareContext, bind_eq_ok] at prepared
  obtain ⟨routing, routed, strategy, selected, cache, _, made⟩ := prepared
  cases made
  exact selectStrategy_lookup routed selected

theorem fromConfig_index {loader : ResourceLoader} {fallback : FallbackHashes}
    {config : ResolvedConfig} {state : PolicyState}
    (prepared : PolicyState.fromConfig loader fallback config hostSnapshots ruleSnapshots =
      .ok state) :
    fromConfig loader config hostSnapshots.indexes ruleSnapshots.indexes =
      .ok state.index := by
  simp only [PolicyState.fromConfig, bind_eq_ok] at prepared
  obtain ⟨index, index_eq, made⟩ := prepared
  cases made
  exact index_eq

theorem Sound.initial {resolvePath : String → String} {config : ConfigV2 DnsV2}
    {resolved : ResolvedConfig} (valid : config.validateReferences = [])
    (resolves : resolveConfig resolvePath config = some resolved) {loader : ResourceLoader}
    {fallback : FallbackHashes} {state : PolicyState}
    (prepared : PolicyState.fromConfig loader fallback resolved hostSnapshots ruleSnapshots =
      .ok state) : Sound resolved.strategies state.index.routes state := by
  refine ⟨rfl, selectorsFound_of_fromConfig (fromConfig_index prepared) ?_⟩
  intro reference mem
  obtain ⟨strategy, strategy_mem, in_rules⟩ := mem_flatMap.mp mem
  obtain ⟨rule, rule_mem, referenced⟩ := mem_filterMap.mp in_rules
  exact ruleSet_exists valid resolves strategy_mem rule_mem referenced

/-- In a run whose accepted rule sets all offer the selectors that the strategies use, no request
meets a missing rule set or a missing selector. -/
theorem selectors_survive_refreshes (resolvePath : String → String) (config : ConfigV2 DnsV2)
    (resolved : ResolvedConfig) (valid : config.validateReferences = [])
    (resolves : resolveConfig resolvePath config = some resolved) (loader : ResourceLoader)
    (fallback : FallbackHashes) (hostSnapshots : Snapshots HostsIndex)
    (ruleSnapshots : Snapshots RuleIndex) (initial : PolicyState)
    (prepared : PolicyState.fromConfig loader fallback resolved hostSnapshots ruleSnapshots =
      .ok initial)
    (actions : List Publication)
    (offered : ∀ transition ∈ transitions publicationStep initial actions,
      OffersSelectors resolved.strategies transition)
    (state : PolicyState)
    (reached : state = initial ∨
      ∃ transition ∈ transitions publicationStep initial actions, state = transition.after)
    (sha256 : List UInt8 → ClientCacheDigest) (request : PolicyRequest) (context : PolicyContext)
    (contextual : state.index.prepareContext sha256 request = .ok context)
    (nameToAscii : String → Option String) (qname : Option CanonicalDomain) :
    (∀ resource selector, evaluateRoute nameToAscii state.index context qname ≠
      .error (.unsupportedRuleSetSelector resource selector)) ∧
    ∀ resource, evaluateRoute nameToAscii state.index context qname ≠
      .error (.ruleSetNotFound resource) := by
  have start := Sound.initial valid resolves prepared
  have sound : Sound resolved.strategies initial.index.routes state := by
    rcases reached with rfl | ⟨transition, member, rfl⟩
    · exact start
    · exact forall_after_of_guarded (Sound resolved.strategies initial.index.routes) _
        (fun transition before taken guarded => before.step transition taken guarded) start offered
        transition member
  obtain ⟨id, strategy_eq⟩ := prepareContext_strategy contextual
  rw [sound.routes_eq] at strategy_eq
  have built := (fromConfig_ok (fromConfig_index prepared)).2.2
  have strategy_mem := strategy_mem_of_lookup built strategy_eq
  have only_hosts {error : PolicyError}
      (failed : evaluateRoute nameToAscii state.index context qname = .error error) :
      IsHostsError error :=
    evaluateRoute_error sound.found strategy_mem failed
  constructor
  · intro resource selector failed
    obtain ⟨hosts, impossible⟩ := only_hosts failed
    cases impossible
  · intro resource failed
    obtain ⟨hosts, impossible⟩ := only_hosts failed
    cases impossible

namespace GeoRefresh

def noEcs : ResolvedEcs := ⟨.disabled, none, .default⟩

/-- A listener whose only strategy sends `geo:cn` to its own upstream. -/
def config : ConfigV2 DnsV2 where
  sections := ⟨none, none, none⟩
  listener := [.udp "udp" [] 53 "main" none]
  upstreams := [.hosts "local" "hosts" ""]
  strategy := [⟨"main", [⟨some "geo:cn", none, none, none⟩], "local", none, none, none⟩]
  hosts := []
  outbound := []
  ruleSet := [.remote "geo" .dat "https://rules.example/geo.dat" none true (some (60 * second))]
  clients := []

def listener : ConfigId := ⟨"udp", by decide, by decide, by decide⟩
def main : ConfigId := ⟨"main", by decide, by decide, by decide⟩
def upstream : ConfigId := ⟨"local", by decide, by decide, by decide⟩
def geo : ConfigId := ⟨"geo", by decide, by decide, by decide⟩

def reference : ResolvedRuleSetRef := ⟨geo, some "cn"⟩

def strategy : ResolvedStrategy where
  id := main
  rules := [⟨some reference, none, none, noEcs⟩]
  defaultUpstream := upstream
  cache := none
  ttlOverride := ⟨false, none, none, .default⟩
  ednsClientSubnet := noEcs

def noMatchers : RuleMatchers := ⟨[], [], [], []⟩

variable (selector : String)

/-- A `dat` resource with one selector. -/
def content : RuleIndex where
  toRuleMatchers := noMatchers
  selectors := singleton selector noMatchers

variable (revision : UInt64)

def snapshot : ResourceSnapshot RuleIndex :=
  ⟨geo, ⟨1, revision⟩, selector, content selector⟩

def loader : ResourceLoader := ⟨fun _ => .error "", fun _ => .error ""⟩

def fallback : FallbackHashes := ⟨fun _ => "", fun _ => ""⟩

def snapshots : Snapshots RuleIndex := singleton geo (snapshot "cn" 1)

def resolved : ResolvedConfig where
  dns := resolveDns ⟨none, none, none⟩
  listeners := [.udp listener [] 53 main none]
  upstreams := [.hosts upstream "hosts" ""]
  strategies := [strategy]
  hosts := []
  outbounds := []
  ruleSets := [.remote geo .dat "https://rules.example/geo.dat" none true (some (60 * second))]
  clients := []

theorem config_valid : config.validateReferences = [] := by
  decide

theorem config_resolves : resolveConfig id config = some resolved := by
  decide

def routes : RouteIndex where
  strategies := singleton main strategy
  listeners := singleton listener (.stream main none)

def state : PolicyState where
  index :=
    { routes
      clients := .empty
      clientConfigs := ∅
      upstreamEcs := ∅
      globalCache := (resolveDns ⟨none, none, none⟩).cache
      hosts := ∅
      ruleSets := singleton geo (content selector) }
  hostVersions := ∅
  ruleSetVersions := singleton geo ⟨1, revision⟩
  hostContentHashes := ∅
  ruleSetContentHashes := singleton geo selector

theorem prepared :
    PolicyState.fromConfig loader fallback resolved ∅ snapshots = .ok (state "cn" 1) := by
  rfl

theorem published :
    (state "cn" 1).publishRuleSetResource (snapshot selector 2) = .ok (state selector 2) := by
  rfl

def sha256 (_ : List UInt8) : ClientCacheDigest := ⟨replicate 32 0, by decide⟩

def request : PolicyRequest := ⟨listener, none, none, none, none, some ⟨"example.com"⟩⟩

def context : PolicyContext where
  listenerId := listener
  route := none
  client := .unknown
  strategy := strategy
  cache := .disabled
  ttlOverride := ⟨false, none, none, .default⟩
  routing := ⟨listener, none, strategy, none⟩
  clientConfig := none

theorem contextual :
    (state selector revision).index.prepareContext sha256 request = .ok context := by
  rfl

/-- The step that publishes a content. -/
def publishing : Transition PolicyState Publication PublicationReport where
  before := state "cn" 1
  action := .publish (.ruleSet (snapshot selector 2))
  output := .published (.ok ())
  after := state selector 2

theorem transitions_eq :
    transitions publicationStep (state "cn" 1) [.publish (.ruleSet (snapshot selector 2))] =
      [publishing selector] := by
  rfl

theorem offers_cn (move : Transition PolicyState Publication PublicationReport)
    (mem : move ∈
      transitions publicationStep (state "cn" 1) [.publish (.ruleSet (snapshot "cn" 2))]) :
    OffersSelectors resolved.strategies move := by
  rw [transitions_eq, mem_singleton] at mem
  subst mem
  intro given given_eq _ used used_mem _
  cases given_eq
  obtain rfl : used = reference := by simpa [references, resolved, strategy] using used_mem
  decide

end GeoRefresh

open GeoRefresh in
/-- A refresh of the `geo` resource that keeps its selector. -/
theorem selectors_survive_geo :
    transitions publicationStep (state "cn" 1) [.publish (.ruleSet (snapshot "cn" 2))] =
        [publishing "cn"] ∧
      (∀ resource selector, evaluateRoute (fun _ => none) (state "cn" 2).index context
        (some ⟨"example.com"⟩) ≠ .error (.unsupportedRuleSetSelector resource selector)) ∧
      ∀ resource, evaluateRoute (fun _ => none) (state "cn" 2).index context
        (some ⟨"example.com"⟩) ≠ .error (.ruleSetNotFound resource) :=
  ⟨transitions_eq "cn",
    selectors_survive_refreshes id config resolved config_valid config_resolves loader fallback ∅
      snapshots (state "cn" 1) prepared [.publish (.ruleSet (snapshot "cn" 2))] offers_cn
      (state "cn" 2) (.inr ⟨publishing "cn", by simp [transitions_eq], rfl⟩) sha256 request context
      (contextual "cn" 2) (fun _ => none) (some ⟨"example.com"⟩)⟩

open GeoRefresh in
/-- A refresh that drops the selector is accepted, and then the request fails. -/
theorem refresh_drops_selector :
    config.validateReferences = [] ∧ resolveConfig id config = some resolved ∧
      PolicyState.fromConfig loader fallback resolved ∅ snapshots = .ok (state "cn" 1) ∧
      (state "cn" 1).publishRuleSetResource (snapshot "us" 2) = .ok (state "us" 2) ∧
      (state "us" 2).index.prepareContext sha256 request = .ok context ∧
      evaluateRoute (fun _ => none) (state "us" 2).index context request.qname =
        .error (.unsupportedRuleSetSelector geo "cn") :=
  ⟨config_valid, config_resolves, prepared, published "us", contextual "us" 2, rfl⟩

end FluxDns.Policy
