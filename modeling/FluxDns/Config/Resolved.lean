import FluxDns.Library.Traversal
import FluxDns.Config.References

/-!
# Resolved configurations

The configuration that the runtime works with: references are identifiers, overrides are merged
with their parents, and each value remembers where it came from.
-/

namespace FluxDns.Config

open ConfigId Option Traversal

variable {resolvePath : String → String} {reference : ResolvedRuleSetRef}
  {resolved : ResolvedConfig} {config : ConfigV2 DnsV2}

inductive ValueSource where
  | default
  | global
  | upstream
  | client
  | strategy
  | rule
  deriving DecidableEq

/-- A client-subnet setting and the level it comes from. -/
structure ResolvedEcs where
  mode : EcsMode
  customIp : Option IpNet
  source : ValueSource
  deriving DecidableEq

/-- TTL bounds after inheritance. -/
structure ResolvedTtlOverride where
  enabled : Bool
  min : Option Duration
  max : Option Duration
  source : ValueSource
  deriving DecidableEq

/-- Optimistic caching after inheritance. -/
structure ResolvedOptimistic where
  enabled : Bool
  answerTtl : Duration
  maxAge : Duration
  negativeMaxAge : Duration
  deriving DecidableEq

/-- Caching after inheritance. -/
structure ResolvedCacheOverride where
  enabled : Bool
  optimistic : Option ResolvedOptimistic
  source : ValueSource
  deriving DecidableEq

/-- The part of `ResolvedGlobalCache` that decides about a request. -/
structure ResolvedGlobalCache where
  enabled : Bool
  optimistic : ResolvedOptimistic
  deriving DecidableEq

/-- The part of `ResolvedDns` that decides about a request. -/
structure ResolvedDns where
  cache : ResolvedGlobalCache
  ttlOverride : ResolvedTtlOverride
  ednsClientSubnet : ResolvedEcs
  deriving DecidableEq

/-- A route with its strategy. -/
structure ResolvedDohRoute where
  path : String
  strategy : ConfigId
  ednsClientSubnet : Option ResolvedEcs
  deriving DecidableEq

/-- A DoH endpoint of a listener. -/
structure ResolvedDohEndpoint where
  id : ConfigId
  /-- `DohBindingRef`: the names of the listener and of the endpoint. -/
  binding : String × String
  addresses : List IpAddr
  port : UInt16
  tlsMode : TlsMode
  certificateFile : Option String
  privateKeyFile : Option String
  clientIp : ClientIpDto
  deriving DecidableEq

inductive ResolvedListener where
  | udp (id : ConfigId) (addresses : List IpAddr) (port : UInt16) (strategy : ConfigId)
      (hosts : Option ConfigId)
  | tcp (id : ConfigId) (addresses : List IpAddr) (port : UInt16) (strategy : ConfigId)
      (hosts : Option ConfigId)
  | doh (id : ConfigId) (routes : List ResolvedDohRoute) (endpoints : List ResolvedDohEndpoint)
  deriving DecidableEq

/-- A member of a group with its weight. -/
structure ResolvedUpstreamMember where
  name : ConfigId
  weight : UInt32
  deriving DecidableEq

inductive ResolvedUpstream where
  | hosts (id : ConfigId) (format hosts : String)
  | doh (id : ConfigId) (address : String) (bootstrap : Option ConfigId)
      (connectIp : Option IpAddr) (proxy : Option ConfigId) (ednsClientSubnet : Option ResolvedEcs)
  | group (id : ConfigId) (upstreams : List ResolvedUpstreamMember) (upstreamMode : UpstreamMode)
      (timeout : Duration) (fallbacks : List ResolvedUpstreamMember)
      (fallbackUpstreamMode : Option UpstreamMode) (fallbackTimeout : Option Duration)
  deriving DecidableEq

/-- A rule set, or one selector of it. -/
structure ResolvedRuleSetRef where
  resource : ConfigId
  selector : Option String
  deriving DecidableEq

/-- A rule of a strategy. -/
structure ResolvedStrategyRule where
  ruleSet : Option ResolvedRuleSetRef
  hosts : Option ConfigId
  upstream : Option ConfigId
  ednsClientSubnet : ResolvedEcs
  deriving DecidableEq

/-- A strategy after inheritance. -/
structure ResolvedStrategy where
  id : ConfigId
  rules : List ResolvedStrategyRule
  defaultUpstream : ConfigId
  cache : Option ResolvedCacheOverride
  ttlOverride : ResolvedTtlOverride
  ednsClientSubnet : ResolvedEcs
  deriving DecidableEq

inductive ResolvedHostsResource where
  | const (id : ConfigId) (format : HostsFormat) (hosts : String)
  | file (id : ConfigId) (format : HostsFormat) (path : String) (autoUpdate : Bool)
      (updateInterval : Option Duration)
  deriving DecidableEq

def ResolvedHostsResource.id : ResolvedHostsResource → ConfigId
  | .const id .. | .file id .. => id

def ResolvedHostsResource.autoUpdate : ResolvedHostsResource → Bool
  | .const .. => false
  | .file _ _ _ autoUpdate _ => autoUpdate

def ResolvedHostsResource.updateInterval : ResolvedHostsResource → Option Duration
  | .const .. => none
  | .file _ _ _ _ updateInterval => updateInterval

/-- Where a secret is read from. -/
structure ResolvedSecretRef where
  env : Option String
  file : Option String
  url : Option String
  deriving DecidableEq

/-- An outbound proxy. -/
structure ResolvedOutbound where
  id : ConfigId
  kind : OutboundType
  proxyUrl : ResolvedSecretRef
  deriving DecidableEq

inductive ResolvedRuleSet where
  | const (id : ConfigId) (format : RuleSetFormat) (rule : String)
  | file (id : ConfigId) (format : RuleSetFormat) (path : String) (autoUpdate : Bool)
      (updateInterval : Option Duration)
  | remote (id : ConfigId) (format : RuleSetFormat) (url : String) (proxy : Option ConfigId)
      (autoUpdate : Bool) (updateInterval : Option Duration)
  deriving DecidableEq

def ResolvedRuleSet.id : ResolvedRuleSet → ConfigId
  | .const id .. | .file id .. | .remote id .. => id

def ResolvedRuleSet.autoUpdate : ResolvedRuleSet → Bool
  | .const .. => false
  | .file _ _ _ autoUpdate _ | .remote _ _ _ _ autoUpdate _ => autoUpdate

def ResolvedRuleSet.updateInterval : ResolvedRuleSet → Option Duration
  | .const .. => none
  | .file _ _ _ _ updateInterval | .remote _ _ _ _ _ updateInterval => updateInterval

/-- A client after inheritance. -/
structure ResolvedClient where
  name : ConfigId
  clientIds : List String
  ips : List IpNet
  strategy : Option ConfigId
  cache : Option ResolvedCacheOverride
  ttlOverride : ResolvedTtlOverride
  ednsClientSubnet : ResolvedEcs
  deriving DecidableEq

/-- A configuration after inheritance. -/
structure ResolvedConfig where
  dns : ResolvedDns
  listeners : List ResolvedListener
  upstreams : List ResolvedUpstream
  strategies : List ResolvedStrategy
  hosts : List ResolvedHostsResource
  outbounds : List ResolvedOutbound
  ruleSets : List ResolvedRuleSet
  clients : List ResolvedClient
  deriving DecidableEq

def resolveOptimistic (value : OptimisticDto) : ResolvedOptimistic where
  enabled := value.enabled
  answerTtl := value.answerTtl
  maxAge := value.maxAge
  negativeMaxAge := min value.negativeMaxAge value.maxAge

def resolveCache (value : Option CacheOverrideDto) (parent : ResolvedOptimistic)
    (source : ValueSource) : Option ResolvedCacheOverride :=
  value.map fun value =>
    { enabled := value.enabled.getD false
      optimistic := some ((value.optimistic.map resolveOptimistic).getD parent)
      source }

def resolveTtl (value : Option TtlOverrideDto) (parent : Option ResolvedTtlOverride)
    (source : ValueSource) : ResolvedTtlOverride :=
  let parent := parent.getD ⟨false, none, none, .default⟩
  match value with
  | none => parent
  | some value =>
    { enabled := value.enabled.getD parent.enabled
      min := value.min <|> parent.min
      max := value.max <|> parent.max
      source }

def resolveEcs (value : Option EcsDto) (parent : Option ResolvedEcs) (source : ValueSource) :
    ResolvedEcs :=
  match value with
  | none => parent.getD ⟨.disabled, none, .default⟩
  | some value =>
    match value.mode with
    | .disabled => ⟨.disabled, none, source⟩
    | .client => ⟨.client, none, source⟩
    | .custom => ⟨.custom, value.customIp, source⟩

/-- `resolve_dns_v2` -/
def resolveDns (dns : DnsV2) : ResolvedDns where
  cache :=
    let cache := dns.cache.getD .default
    { enabled := cache.enabled
      optimistic := resolveOptimistic cache.optimistic }
  ttlOverride := resolveTtl dns.ttlOverride none .global
  ednsClientSubnet := resolveEcs dns.ednsClientSubnet none .global

/-- `ConfigId::new(..).expect(..)` -/
def resolveId (text : String) : Option ConfigId := (new text).toOption

def resolveRuleSetRef (value : String) : Option ResolvedRuleSetRef :=
  match splitReference value with
  | (resource, none) => do some ⟨← resolveId resource, none⟩
  | (resource, some selector) => do
      let selector ← normalizeRuleSetSelector selector maxRuleSetSelectorBytes
      some ⟨← resolveId resource, some selector⟩

def resolveRule (strategyEcs : ResolvedEcs) (rule : StrategyRuleDto) :
    Option ResolvedStrategyRule := do
  some {
    ruleSet := ← rule.ruleSet.mapM resolveRuleSetRef
    hosts := ← rule.hosts.mapM resolveId
    upstream := ← rule.upstream.mapM resolveId
    ednsClientSubnet := resolveEcs rule.ednsClientSubnet (some strategyEcs) .rule }

def resolveStrategy (dns : ResolvedDns) (strategy : StrategyDto) : Option ResolvedStrategy := do
  let strategyEcs := resolveEcs strategy.ednsClientSubnet (some dns.ednsClientSubnet) .strategy
  some {
    id := ← resolveId strategy.name
    rules := ← strategy.rules.mapM (resolveRule strategyEcs)
    defaultUpstream := ← resolveId strategy.defaultUpstream
    cache := resolveCache strategy.cache dns.cache.optimistic .strategy
    ttlOverride := resolveTtl strategy.ttlOverride (some dns.ttlOverride) .strategy
    ednsClientSubnet := strategyEcs }

section Paths

variable (resolvePath : String → String)

def resolveEndpoint (listener : String) (endpoint : DohEndpointDto) :
    Option ResolvedDohEndpoint := do
  some {
    id := ← resolveId endpoint.name
    binding := (listener, endpoint.name)
    addresses := endpoint.addresses
    port := endpoint.port
    tlsMode := endpoint.tls.mode
    certificateFile := endpoint.tls.certificateFile.map resolvePath
    privateKeyFile := endpoint.tls.privateKeyFile.map resolvePath
    clientIp := endpoint.clientIp }

def resolveListener : ListenerDto → Option ResolvedListener
  | .udp name addresses port strategy hosts => do
      some (.udp (← resolveId name) addresses port (← resolveId strategy) (← hosts.mapM resolveId))
  | .tcp name addresses port strategy hosts => do
      some (.tcp (← resolveId name) addresses port (← resolveId strategy) (← hosts.mapM resolveId))
  | .doh name routes endpoints => do
      let routes ← routes.mapM fun route => do
        some (⟨route.path, ← resolveId route.strategy, none⟩ : ResolvedDohRoute)
      some (.doh (← resolveId name) routes (← endpoints.mapM (resolveEndpoint resolvePath name)))

def resolveMember (member : UpstreamMemberDto) : Option ResolvedUpstreamMember := do
  some ⟨← resolveId member.name, member.weight⟩

def resolveUpstream (globalEcs : ResolvedEcs) : UpstreamDto → Option ResolvedUpstream
  | .hosts name format hosts => do some (.hosts (← resolveId name) format hosts)
  | .doh name address bootstrap connectIp proxy ecs => do
      some (.doh (← resolveId name) address (← bootstrap.mapM resolveId) connectIp
        (← proxy.mapM resolveId) (some (resolveEcs ecs (some globalEcs) .upstream)))
  | .group name upstreams mode timeout fallbacks fallbackMode fallbackTimeout => do
      some (.group (← resolveId name) (← upstreams.mapM resolveMember) mode timeout
        (← (fallbacks.getD []).mapM resolveMember) fallbackMode fallbackTimeout)

def resolveHosts : HostsResourceDto → Option ResolvedHostsResource
  | .const name format hosts => do some (.const (← resolveId name) format hosts)
  | .file name format path autoUpdate updateInterval => do
      some (.file (← resolveId name) format (resolvePath path) autoUpdate updateInterval)

def resolveOutbound (outbound : OutboundDto) : Option ResolvedOutbound := do
  let proxyUrl : ResolvedSecretRef := match outbound.proxyUrl with
    | .env env => ⟨some env, none, none⟩
    | .file file => ⟨none, some (resolvePath file), none⟩
    | .inline url => ⟨none, none, some url⟩
    | .parts env file url => ⟨env, file.map resolvePath, url⟩
  some ⟨← resolveId outbound.name, outbound.kind, proxyUrl⟩

def resolveRuleSet : RuleSetDto → Option ResolvedRuleSet
  | .const name format rule => do some (.const (← resolveId name) format rule)
  | .file name format path autoUpdate updateInterval => do
      some (.file (← resolveId name) format (resolvePath path) autoUpdate updateInterval)
  | .remote name format url proxy autoUpdate updateInterval => do
      some (.remote (← resolveId name) format url (← proxy.mapM resolveId) autoUpdate
        updateInterval)

def resolveClient (dns : ResolvedDns) (client : ClientV2) : Option ResolvedClient := do
  some {
    name := ← resolveId client.name
    clientIds := [client.clientId]
    ips := client.ips
    strategy := ← client.strategy.mapM resolveId
    cache := resolveCache client.cache dns.cache.optimistic .client
    ttlOverride := resolveTtl client.ttlOverride (some dns.ttlOverride) .client
    ednsClientSubnet := resolveEcs client.ednsClientSubnet (some dns.ednsClientSubnet) .client }

/-- `resolve_config_v2` after validation. -/
def resolveConfig (config : ConfigV2 DnsV2) : Option ResolvedConfig := do
  let dns := resolveDns config.sections
  some {
    dns
    listeners := ← config.listener.mapM (resolveListener resolvePath)
    upstreams := ← config.upstreams.mapM (resolveUpstream dns.ednsClientSubnet)
    strategies := ← config.strategy.mapM (resolveStrategy dns)
    hosts := ← config.hosts.mapM (resolveHosts resolvePath)
    outbounds := ← config.outbound.mapM (resolveOutbound resolvePath)
    ruleSets := ← config.ruleSet.mapM (resolveRuleSet resolvePath)
    clients := ← config.clients.mapM (resolveClient dns) }

end Paths

theorem ConfigId.new_eq_ok_iff {text : String} {id : ConfigId} :
    new text = .ok id ↔ id.text = text := by
  constructor
  · intro created
    rw [new] at created
    split_ifs at created
    cases created
    rfl
  · rintro rfl
    simp [new, id.nonempty, id.size_le, id.valid]

theorem resolveId_eq_some_iff {text : String} {id : ConfigId} :
    resolveId text = some id ↔ id.text = text := by
  rw [← new_eq_ok_iff, resolveId]
  cases new text <;> simp [Except.toOption]

theorem resolveRuleSet_id {ruleSet : RuleSetDto} {resolved : ResolvedRuleSet}
    (resolves : resolveRuleSet resolvePath ruleSet = some resolved) :
    resolved.id.text = ruleSet.name := by
  cases ruleSet with
      simp only [resolveRuleSet, bind_eq_bind, bind_eq_some_iff] at resolves
  | const name format rule | file name format path autoUpdate updateInterval =>
    obtain ⟨id, named, made⟩ := resolves
    cases made
    exact resolveId_eq_some_iff.mp named
  | remote name format url proxy autoUpdate updateInterval =>
    obtain ⟨id, named, proxyId, _, made⟩ := resolves
    cases made
    exact resolveId_eq_some_iff.mp named

theorem ConfigId.ext_text {left right : ConfigId} (same : left.text = right.text) :
    left = right := by
  cases left
  cases same
  rfl

/-- An identifier has no selector. -/
theorem ConfigId.splitReference_text (id : ConfigId) : splitReference id.text =
    (id.text, none) := by
  have absent : ':' ∉ id.text.toList := by
    intro member
    exact absurd (List.all_eq_true.mp id.valid _ member) (by decide)
  rw [splitReference, splitOnce_eq_none absent]

theorem resolveRuleSetRef_resource {value : String}
    (resolves : resolveRuleSetRef value = some reference) :
    reference.resource.text = (splitReference value).1 := by
  rw [resolveRuleSetRef] at resolves
  split at resolves
  · next resource split =>
    simp only [bind_eq_bind, bind_eq_some_iff] at resolves
    obtain ⟨id, named, made⟩ := resolves
    cases made
    rw [split]
    exact resolveId_eq_some_iff.mp named
  · next resource selector split =>
    simp only [bind_eq_bind, bind_eq_some_iff] at resolves
    obtain ⟨normalized, _, id, named, made⟩ := resolves
    cases made
    rw [split]
    exact resolveId_eq_some_iff.mp named

theorem ruleSet_of_resolveRule {strategyEcs : ResolvedEcs} {rule : StrategyRuleDto}
    {resolved : ResolvedStrategyRule} (resolves : resolveRule strategyEcs rule = some resolved)
    (referenced : resolved.ruleSet = some reference) :
    ∃ value, rule.ruleSet = some value ∧ resolveRuleSetRef value = some reference := by
  simp only [resolveRule, bind_eq_bind, bind_eq_some_iff] at resolves
  obtain ⟨ruleSet, ruleSet_eq, hosts, _, upstream, _, made⟩ := resolves
  cases made
  cases referenced
  cases value_eq : rule.ruleSet with
  | none =>
    rw [value_eq] at ruleSet_eq
    cases ruleSet_eq
  | some value =>
    rw [value_eq] at ruleSet_eq
    simp only [mapM_some, map_eq_map, map_eq_some_iff] at ruleSet_eq
    obtain ⟨made, made_eq, same⟩ := ruleSet_eq
    cases same
    exact ⟨value, rfl, made_eq⟩

theorem fields_of_resolveStrategy {dns : ResolvedDns} {strategy : StrategyDto}
    {resolved : ResolvedStrategy} (resolves : resolveStrategy dns strategy = some resolved) :
    resolved.id.text = strategy.name ∧
      resolved.ttlOverride = resolveTtl strategy.ttlOverride (some dns.ttlOverride) .strategy ∧
      ∃ strategyEcs, strategy.rules.mapM (resolveRule strategyEcs) = some resolved.rules := by
  simp only [resolveStrategy, bind_eq_bind, bind_eq_some_iff] at resolves
  obtain ⟨id, named, rules, rules_eq, defaultUpstream, _, made⟩ := resolves
  cases made
  exact ⟨resolveId_eq_some_iff.mp named, rfl, _, rules_eq⟩

theorem strategies_of_resolveConfig (resolves : resolveConfig resolvePath config = some resolved) :
    config.strategy.mapM (resolveStrategy (resolveDns config.sections)) =
        some resolved.strategies ∧
      config.ruleSet.mapM (resolveRuleSet resolvePath) = some resolved.ruleSets := by
  simp only [resolveConfig, bind_eq_bind, bind_eq_some_iff] at resolves
  obtain ⟨listeners, _, upstreams, _, strategies, strategies_eq, hosts, _, outbounds, _, ruleSets,
    ruleSets_eq, clients, _, made⟩ := resolves
  cases made
  exact ⟨strategies_eq, ruleSets_eq⟩

theorem ruleSet_exists (valid : config.validateReferences = [])
    (resolves : resolveConfig resolvePath config = some resolved) {strategy : ResolvedStrategy}
    (strategy_mem : strategy ∈ resolved.strategies) {rule : ResolvedStrategyRule}
    (rule_mem : rule ∈ strategy.rules) (referenced : rule.ruleSet = some reference) :
    ∃ ruleSet ∈ resolved.ruleSets, ruleSet.id = reference.resource := by
  obtain ⟨strategies_eq, ruleSets_eq⟩ := strategies_of_resolveConfig resolves
  obtain ⟨source, source_mem, source_eq⟩ :=
    exists_source_of_mem strategies_eq strategy_mem
  obtain ⟨-, -, strategyEcs, rules_eq⟩ := fields_of_resolveStrategy source_eq
  obtain ⟨ruleSource, ruleSource_mem, rule_eq⟩ := exists_source_of_mem rules_eq rule_mem
  obtain ⟨value, value_eq, reference_eq⟩ := ruleSet_of_resolveRule rule_eq referenced
  obtain ⟨path, passed⟩ :=
    ConfigV2.checkRuleSetSelector_of_validateReferences valid source_mem ruleSource_mem value_eq
  have defined {name : String} (named : name ∈ config.entityNames.ruleSets) :
      ∃ ruleSet ∈ resolved.ruleSets, ruleSet.id.text = name := by
    obtain ⟨ruleSet, ruleSet_mem, rfl⟩ := List.mem_map.mp named
    obtain ⟨image, image_mem, image_eq⟩ := exists_image_of_mem ruleSets_eq ruleSet_mem
    exact ⟨image, image_mem, resolveRuleSet_id image_eq⟩
  have resource_eq := resolveRuleSetRef_resource reference_eq
  rcases ruleSet_of_checkRuleSetSelector passed with whole | base
  · obtain ⟨ruleSet, ruleSet_mem, same⟩ := defined whole
    refine ⟨ruleSet, ruleSet_mem, ext_text ?_⟩
    rw [resource_eq, ← same, ruleSet.id.splitReference_text]
  · obtain ⟨ruleSet, ruleSet_mem, same⟩ := defined base
    exact ⟨ruleSet, ruleSet_mem, ext_text (same.trans resource_eq.symm)⟩

end FluxDns.Config
