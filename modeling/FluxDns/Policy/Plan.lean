import FluxDns.Cache.OptimisticRefresh
import FluxDns.Policy.Routes
import FluxDns.Resource.Indexes

/-!
# From a request to its route

A policy is compiled once from a configuration and its resources.  A request first gets a context,
which does not depend on its name, and then the first rule that matches its name decides where it
goes.
-/

namespace FluxDns.Policy

open Config Resource Traversal
open Cache (CacheNamespace CacheStrategyId ClientCacheDigest)
open Cache.Refresh (CacheDecision usizeMax)

inductive PolicyBuildError where
  | client (error : ClientRuleBuildError)
  | routes (error : RouteBuildError)
  | duplicateClient (id : ConfigId)
  | duplicateHostsResource (id : ConfigId)
  | duplicateRuleSet (id : ConfigId)
  /-- `HostsParse` or `HostsLoad`, by the report of the loader. -/
  | hostsLoad (resource : ConfigId) (source : String)
  /-- `RuleSetParse` or `RuleSetLoad`, by the report of the loader. -/
  | ruleSetLoad (resource : ConfigId) (source : String)
  | unsupportedRuleSet (resource : ConfigId) (kind : String)
  | unsupportedRuleSetSelector (resource : ConfigId) (selector : String)

inductive PolicyError where
  | routeNotFound (listener : ConfigId) (path : Option String)
  | clientStrategyNotFound (client strategy : ConfigId)
  | cacheStrategyIdInvalid (strategy : ConfigId)
  | hostsResourceNotFound (resource : ConfigId)
  | ruleSetNotFound (resource : ConfigId)
  | unsupportedRuleSetSelector (resource : ConfigId) (selector : String)

/-- What a policy decides by. -/
structure PolicyRequest where
  listenerId : ConfigId
  dohRouteId : Option String
  clientId : Option String
  clientAddr : Option IpAddr
  clientDigest : Option ClientCacheDigest
  qname : Option CanonicalDomain

inductive MatchedRuleKind where
  | listenerHosts (resource : ConfigId)
  | hosts (resource : ConfigId)
  | ruleSet (resource : ConfigId) (matcher : RuleMatch)

/-- A rule of a strategy that matched, and how. -/
structure MatchedRule where
  strategy : ConfigId
  ordinal : Nat
  kind : MatchedRuleKind

/-- The decisions that do not need the name. -/
structure PolicyContext where
  listenerId : ConfigId
  route : Option String
  client : ClientMatch
  strategy : ResolvedStrategy
  cache : CacheDecision
  ttlOverride : ResolvedTtlOverride
  routing : RouteSelection
  clientConfig : Option ResolvedClient

/-- The decision for one name. -/
structure RouteDecision where
  upstream : ConfigId
  ednsClientSubnet : ResolvedEcs
  hosts : Option ConfigId
  matchedRule : Option MatchedRule

/-- The indexes of a policy. -/
structure PolicyIndex where
  routes : RouteIndex
  clients : ClientIndex
  clientConfigs : Map ConfigId ResolvedClient
  upstreamEcs : Map ConfigId ResolvedEcs
  globalCache : ResolvedGlobalCache
  hosts : Map ConfigId HostsIndex
  ruleSets : Map ConfigId RuleIndex

/-- How resources are loaded whose compiled content was not supplied. -/
structure ResourceLoader where
  loadHosts : ResolvedHostsResource → Except String HostsIndex
  loadRuleSet : ResolvedRuleSet → Except String RuleIndex

variable (loader : ResourceLoader)

def compileHosts (supplied : Map ConfigId HostsIndex)
    (resource : ResolvedHostsResource) : Except PolicyBuildError HostsIndex :=
  match supplied.lookup resource.id with
  | some index => .ok index
  | none => (loader.loadHosts resource).mapError (.hostsLoad resource.id)

def compileRuleSet (supplied : Map ConfigId RuleIndex)
    (resource : ResolvedRuleSet) : Except PolicyBuildError RuleIndex :=
  match supplied.lookup resource.id with
  | some index => .ok index
  | none =>
    match resource with
    | .remote id .. => .error (.unsupportedRuleSet id "remote")
    | .const .. | .file .. => (loader.loadRuleSet resource).mapError (.ruleSetLoad resource.id)

variable (config : ResolvedConfig)

/-- `compile_resources_with_supplied` -/
def compileResources (suppliedHosts : Map ConfigId HostsIndex)
    (suppliedRules : Map ConfigId RuleIndex) :
    Except PolicyBuildError
      ((Map ConfigId HostsIndex) × (Map ConfigId RuleIndex)) := do
  let hosts ← insertUnique ResolvedHostsResource.id (compileHosts loader suppliedHosts)
    (fun resource => .duplicateHostsResource resource.id) ∅ config.hosts
  let ruleSets ← insertUnique ResolvedRuleSet.id (compileRuleSet loader suppliedRules)
    (fun resource => .duplicateRuleSet resource.id) ∅ config.ruleSets
  return (hosts, ruleSets)

/-- One reference of `validate_rule_set_selectors`. -/
def validateReference (indexes : Map ConfigId RuleIndex)
    (reference : ResolvedRuleSetRef) : Except PolicyBuildError Unit :=
  match indexes.lookup reference.resource with
  | none => .ok ()
  | some index =>
    match reference.selector, index.isSelectorMap with
    | some selector, true =>
      if (index.selector selector).isSome then .ok ()
      else .error (.unsupportedRuleSetSelector reference.resource selector)
    | none, false => .ok ()
    | some selector, false => .error (.unsupportedRuleSetSelector reference.resource selector)
    | none, true => .error (.unsupportedRuleSetSelector reference.resource "<missing>")

def validateRuleSetSelectors (strategies : List ResolvedStrategy)
    (indexes : Map ConfigId RuleIndex) : Except PolicyBuildError Unit :=
  (strategies.flatMap fun strategy => strategy.rules.filterMap (·.ruleSet)).forM
    (validateReference indexes)

/-- `collect_upstream_ecs`; a later upstream of the same name replaces an earlier one. -/
def collectUpstreamEcs (upstreams : List ResolvedUpstream) : Map ConfigId ResolvedEcs :=
  upstreams.foldl (fun collected upstream => match upstream with
    | .doh id _ _ _ _ (some ecs) => collected.insert id ecs
    | .doh _ _ _ _ _ none | .hosts .. | .group .. => collected) ∅

def buildWithResources (hosts : Map ConfigId HostsIndex)
    (ruleSets : Map ConfigId RuleIndex) : Except PolicyBuildError PolicyIndex := do
  let routes ← (RouteIndex.build config.listeners config.strategies).mapError .routes
  let clientConfigs ← insertUnique ResolvedClient.name .ok
    (fun client => .duplicateClient client.name) ∅ config.clients
  let clients ← (ClientIndex.build (config.clients.map .fromResolved)).mapError .client
  return {
    routes
    clients
    clientConfigs
    upstreamEcs := collectUpstreamEcs config.upstreams
    globalCache := config.dns.cache
    hosts
    ruleSets }

/-- `from_config_with_resource_indexes` -/
def PolicyIndex.fromConfig (suppliedHosts : Map ConfigId HostsIndex)
    (suppliedRules : Map ConfigId RuleIndex) : Except PolicyBuildError PolicyIndex := do
  let (hosts, ruleSets) ← compileResources loader config suppliedHosts suppliedRules
  validateRuleSetSelectors config.strategies ruleSets
  buildWithResources config hosts ruleSets

namespace PolicyIndex

def replaceHostsResource (index : PolicyIndex) (resource : ConfigId) (hosts : HostsIndex) :
    Except PolicyError PolicyIndex :=
  if resource ∈ index.hosts then .ok { index with hosts := index.hosts.insert resource hosts }
  else .error (.hostsResourceNotFound resource)

def replaceRuleSetResource (index : PolicyIndex) (resource : ConfigId) (ruleSet : RuleIndex) :
    Except PolicyError PolicyIndex :=
  if resource ∈ index.ruleSets then
    .ok { index with ruleSets := index.ruleSets.insert resource ruleSet }
  else .error (.ruleSetNotFound resource)

end PolicyIndex

def strategyNamespace (strategy : ResolvedStrategy) : Except PolicyError CacheStrategyId :=
  match CacheStrategyId.fromValidatedConfigId (utf8 strategy.id.text) with
  | some id => .ok id
  | none => .error (.cacheStrategyIdInvalid strategy.id)

/-- `CacheDecision::pool` -/
def poolDecision (pool : CacheNamespace) (optimistic : Option ResolvedOptimistic) : CacheDecision :=
  let optimistic := optimistic.filter (·.enabled)
  .pool pool (optimistic.map (·.answerTtl)) (optimistic.map (·.maxAge))
    (optimistic.map (·.negativeMaxAge))

def selectCache (globalCache : ResolvedGlobalCache) (client : Option ResolvedClient)
    (strategy : ResolvedStrategy) (digest : Option ClientCacheDigest) :
    Except PolicyError CacheDecision :=
  match client.bind (·.cache) with
  | some cache =>
    if cache.enabled then
      match digest with
      | none => .ok .disabled
      | some digest => do
          return poolDecision (.clientStrategy digest (← strategyNamespace strategy))
            cache.optimistic
    else .ok .disabled
  | none =>
    match strategy.cache with
    | some cache =>
      if cache.enabled then do
        return poolDecision (.strategy (← strategyNamespace strategy)) cache.optimistic
      else .ok .disabled
    | none =>
      if globalCache.enabled then .ok (poolDecision .global (some globalCache.optimistic))
      else .ok .disabled

namespace PolicyIndex

variable (index : PolicyIndex)

def selectRouting (request : PolicyRequest) :
    Except PolicyError RouteSelection :=
  match request.dohRouteId with
  | some route =>
    match index.routes.selectDoh request.listenerId route with
    | some routing => .ok routing
    | none => .error (.routeNotFound request.listenerId (some route))
  | none =>
    (index.routes.selectStream request.listenerId).mapError fun _ =>
      .routeNotFound request.listenerId none

def clientConfig : ClientMatch → Option ResolvedClient
  | .matched client _ => index.clientConfigs.lookup client.name
  | .unknown => none

/-- The strategy of the client comes before the one of the route. -/
def selectStrategy (routing : RouteSelection)
    (client : Option ResolvedClient) : Except PolicyError ResolvedStrategy :=
  match client with
  | some client =>
    match client.strategy with
    | some strategy =>
      match index.routes.strategies.lookup strategy with
      | some value => .ok value
      | none => .error (.clientStrategyNotFound client.name strategy)
    | none => .ok routing.strategy
  | none => .ok routing.strategy

def prepareContext (sha256 : List UInt8 → ClientCacheDigest) (index : PolicyIndex)
    (request : PolicyRequest) : Except PolicyError PolicyContext := do
  let routing ← index.selectRouting request
  let client := index.clients.matchClient request.clientId request.clientAddr
  let clientConfig := index.clientConfig client
  let strategy ← index.selectStrategy routing clientConfig
  let digest := request.clientDigest <|>
    client.cacheDigest sha256 request.clientId request.clientAddr
  let cache ← selectCache index.globalCache clientConfig strategy digest
  let ttlOverride := match clientConfig.filter (·.ttlOverride.source = .client) with
    | some client => client.ttlOverride
    | none => strategy.ttlOverride
  return {
    listenerId := routing.listenerId
    route := routing.route
    client
    strategy
    cache
    ttlOverride
    routing
    clientConfig }

end PolicyIndex

/-- What the rules decide, before the precedence of the client subnet. -/
structure RuleOutcome where
  hosts : Option ConfigId
  matchedRule : Option MatchedRule
  upstream : ConfigId
  ednsClientSubnet : ResolvedEcs

section Rules

variable (nameToAscii : String → Option String) (index : PolicyIndex)

def selectMatchers (reference : ResolvedRuleSetRef) : Except PolicyError RuleMatchers :=
  match index.ruleSets.lookup reference.resource with
  | none => .error (.ruleSetNotFound reference.resource)
  | some ruleSet =>
    match reference.selector with
    | some selector =>
      match ruleSet.selector selector with
      | some matchers => .ok matchers
      | none => .error (.unsupportedRuleSetSelector reference.resource selector)
    | none =>
      if ruleSet.isSelectorMap then
        .error (.unsupportedRuleSetSelector reference.resource "<missing>")
      else .ok ruleSet.toRuleMatchers

def lookupHosts (resource : ConfigId) (qname : CanonicalDomain) : Except PolicyError Bool :=
  match index.hosts.lookup resource with
  | none => .error (.hostsResourceNotFound resource)
  | some hosts => .ok (hosts.lookup qname).isSome

/-- One rule: its outcome when it matches the name. -/
def evaluateRule (strategy : ResolvedStrategy) (qname : CanonicalDomain) (ordinal : Nat)
    (rule : ResolvedStrategyRule) : Except PolicyError (Option RuleOutcome) :=
  match rule.hosts with
  | some resource => do
      if ← lookupHosts index resource qname then
        return some {
          hosts := some resource
          matchedRule := some ⟨strategy.id, ordinal, .hosts resource⟩
          upstream := strategy.defaultUpstream
          ednsClientSubnet := rule.ednsClientSubnet }
      else return none
  | none =>
    match rule.ruleSet with
    | none => return none
    | some reference => do
        let matchers ← selectMatchers index reference
        return (matchers.matches nameToAscii qname).map fun matcher => {
          hosts := none
          matchedRule := some ⟨strategy.id, ordinal, .ruleSet reference.resource matcher⟩
          upstream := rule.upstream.getD strategy.defaultUpstream
          ednsClientSubnet := rule.ednsClientSubnet }

def firstMatch (strategy : ResolvedStrategy) (qname : CanonicalDomain) :
    Nat → List ResolvedStrategyRule → Except PolicyError (Option RuleOutcome)
  | _, [] => return none
  | ordinal, rule :: rules => do
      match ← evaluateRule nameToAscii index strategy qname ordinal rule with
      | some outcome => return some outcome
      | none => firstMatch strategy qname (ordinal + 1) rules

/-- The hosts of the listener, which come before all rules. -/
def evaluateListenerHosts (routing : RouteSelection) (strategy : ResolvedStrategy)
    (qname : CanonicalDomain) (inheritedEcs : ResolvedEcs) :
    Except PolicyError (Option RuleOutcome) :=
  match routing.listenerHosts with
  | none => return none
  | some resource => do
      if ← lookupHosts index resource qname then
        return some {
          hosts := some resource
          matchedRule := some ⟨strategy.id, usizeMax, .listenerHosts resource⟩
          upstream := strategy.defaultUpstream
          ednsClientSubnet := inheritedEcs }
      else return none

def evaluateRules (routing : RouteSelection) (strategy : ResolvedStrategy)
    (qname : Option CanonicalDomain) (inheritedEcs : ResolvedEcs) :
    Except PolicyError RuleOutcome :=
  let default : RuleOutcome := ⟨none, none, strategy.defaultUpstream, inheritedEcs⟩
  match qname with
  | none => return default
  | some qname => do
      match ← evaluateListenerHosts index routing strategy qname inheritedEcs with
      | some outcome => return outcome
      | none => return (← firstMatch nameToAscii index strategy qname 0 strategy.rules).getD default

/-- Rule and strategy, then client, then upstream, then global. -/
def selectEcs (strategyEcs : ResolvedEcs) (client : Option ResolvedClient)
    (upstreamEcs : Option ResolvedEcs) : ResolvedEcs :=
  if strategyEcs.source = .rule ∨ strategyEcs.source = .strategy then strategyEcs
  else
    match (client.map (·.ednsClientSubnet)).filter (·.source = .client) with
    | some ecs => ecs
    | none => upstreamEcs.getD strategyEcs

def evaluateRoute (context : PolicyContext) (qname : Option CanonicalDomain) :
    Except PolicyError RouteDecision := do
  let outcome ← evaluateRules nameToAscii index context.routing context.strategy qname
    context.strategy.ednsClientSubnet
  return {
    upstream := outcome.upstream
    ednsClientSubnet := selectEcs outcome.ednsClientSubnet context.clientConfig
      (index.upstreamEcs.lookup outcome.upstream)
    hosts := outcome.hosts
    matchedRule := outcome.matchedRule }

end Rules

end FluxDns.Policy
