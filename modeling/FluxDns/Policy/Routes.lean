import Mathlib.Data.List.Sort
import FluxDns.Cache.Entry
import FluxDns.Config.DohRoute
import FluxDns.Config.Resolved

/-!
# Routes and clients of a policy

The indexes that lead a request from its listener to a strategy and from its sender to a client.
-/

namespace FluxDns.Policy

open Config Traversal

inductive StrategyBuildError where
  | duplicateStrategy (id : ConfigId)

abbrev StrategyIndex := Map ConfigId ResolvedStrategy

def StrategyIndex.build (strategies : List ResolvedStrategy) :
    Except StrategyBuildError StrategyIndex :=
  insertUnique ResolvedStrategy.id .ok (fun strategy => .duplicateStrategy strategy.id) ∅
    strategies

inductive RouteBuildError where
  | strategy (error : StrategyBuildError)
  | duplicateListener (id : ConfigId)
  | missingStrategy (listener strategy : ConfigId)
  | duplicateRoute (listener : ConfigId) (route : String)
  | invalidPath
  | invalidPlaceholder

/-- `RoutePattern::new`, whose template is the one that it is given. -/
def RoutePattern.new (template : String) : Except RouteBuildError String :=
  match DohPathPattern.new template with
  | .ok _ => .ok template
  | .error .invalidPath => .error .invalidPath
  | .error .invalidPlaceholder => .error .invalidPlaceholder

inductive ListenerRoutes where
  | stream (strategy : ConfigId) (hosts : Option ConfigId)
  | doh (routes : Map String ConfigId)

/-- The strategies and the routes of all listeners. -/
structure RouteIndex where
  strategies : StrategyIndex
  listeners : Map ConfigId ListenerRoutes

def ensureStrategy (strategies : StrategyIndex) (listener strategy : ConfigId) :
    Except RouteBuildError Unit :=
  if strategy ∈ strategies then .ok () else .error (.missingStrategy listener strategy)

/-- The routes of a listener, all with known strategies and each path once. -/
def compileListener (strategies : StrategyIndex) :
    ResolvedListener → Except RouteBuildError ListenerRoutes
  | .udp id _ _ strategy hosts | .tcp id _ _ strategy hosts => do
      ensureStrategy strategies id strategy
      return .stream strategy hosts
  | .doh id routes _ => do
      let compiled ← insertUnique ResolvedDohRoute.path
        (fun route => do
          ensureStrategy strategies id route.strategy
          let _ ← RoutePattern.new route.path
          return route.strategy)
        (fun route => .duplicateRoute id route.path) ∅ routes
      return .doh compiled

def listenerId : ResolvedListener → ConfigId
  | .udp id .. | .tcp id .. | .doh id .. => id

def RouteIndex.build (listeners : List ResolvedListener) (strategies : List ResolvedStrategy) :
    Except RouteBuildError RouteIndex := do
  let strategies ← (StrategyIndex.build strategies).mapError .strategy
  let listeners ← insertUnique listenerId (compileListener strategies)
    (fun listener => .duplicateListener (listenerId listener)) ∅ listeners
  return ⟨strategies, listeners⟩

/-- A selected route; a match found at this point carries no client identifier. -/
structure RouteSelection where
  listenerId : ConfigId
  route : Option String
  strategy : ResolvedStrategy
  listenerHosts : Option ConfigId

def RouteIndex.selectStream (index : RouteIndex) (listener : ConfigId) :
    Except RouteBuildError RouteSelection :=
  match index.listeners.lookup listener with
  | some (.stream strategy hosts) =>
    match index.strategies.lookup strategy with
    | some value => .ok ⟨listener, none, value, hosts⟩
    | none => .error (.missingStrategy listener strategy)
  | _ => .error (.missingStrategy listener listener)

def RouteIndex.selectDoh (index : RouteIndex) (listener : ConfigId) (route : String) :
    Option RouteSelection :=
  match index.listeners.lookup listener with
  | some (.doh routes) => do
      let strategy ← routes.lookup route
      let value ← index.strategies.lookup strategy
      some ⟨listener, some route, value, none⟩
  | _ => none

/-- A client with its ids and networks. -/
structure ClientRule where
  name : ConfigId
  clientIds : List String
  ips : List IpNet

def ClientRule.fromResolved (client : ResolvedClient) : ClientRule :=
  ⟨client.name, client.clientIds, client.ips⟩

inductive ClientRuleBuildError where
  | emptyRule
  | duplicateName
  | duplicateClientId
  | duplicateCidr

inductive ClientMatchKind where
  | exactId
  | cidr (prefixLen : Nat)

inductive ClientMatch where
  | matched (client : ClientRule) (kind : ClientMatchKind)
  | unknown

/-- The exact identifiers and the ranges, each with the rule in place of its position. -/
structure ClientIndex where
  names : List ConfigId
  exactIds : Map String ClientRule
  cidrs : List (IpNet × ClientRule)

namespace ClientIndex

def empty : ClientIndex := ⟨[], ∅, []⟩

def insertIds (rule : ClientRule) (ids : Map String ClientRule) :
    Except ClientRuleBuildError (Map String ClientRule) :=
  insertUnique id (fun _ => .ok rule) (fun _ => .duplicateClientId) ids rule.clientIds

def insertCidrs (rule : ClientRule) : List (IpNet × ClientRule) → List IpNet →
      Except ClientRuleBuildError (List (IpNet × ClientRule))
  | cidrs, [] => .ok cidrs
  | cidrs, network :: rest =>
    if cidrs.any (·.1 == network) then .error .duplicateCidr
    else insertCidrs rule (cidrs ++ [(network, rule)]) rest

def insertRule (index : ClientIndex) (rule : ClientRule) :
    Except ClientRuleBuildError ClientIndex := do
  if rule.clientIds = [] ∧ rule.ips = [] then throw .emptyRule
  if rule.name ∈ index.names then throw .duplicateName
  let exactIds ← insertIds rule index.exactIds
  let cidrs ← insertCidrs rule index.cidrs rule.ips
  return ⟨rule.name :: index.names, exactIds, cidrs⟩

/-- The ranges are tried from the longest prefix on, in their order otherwise. -/
def build (rules : List ClientRule) : Except ClientRuleBuildError ClientIndex := do
  let index ← rules.foldlM insertRule empty
  return { index with
    cidrs := index.cidrs.insertionSort fun left right => right.1.prefixLen ≤ left.1.prefixLen }

end ClientIndex

def normalizeClientAddr : IpAddr → IpAddr
  | .v6 bits => match toIpv4Mapped bits with
      | some mapped => .v4 mapped
      | none => .v6 bits
  | .v4 bits => .v4 bits

def ClientIndex.matchClient (index : ClientIndex) (clientId : Option String)
    (clientAddr : Option IpAddr) : ClientMatch :=
  match clientId.bind index.exactIds.lookup with
  | some rule => .matched rule .exactId
  | none =>
    match clientAddr.map normalizeClientAddr with
    | none => .unknown
    | some addr =>
      match index.cidrs.find? fun entry => entry.1.contains addr with
      | some (network, rule) => .matched rule (.cidr network.prefixLen)
      | none => .unknown

/-- The octets of a number, the most significant first. -/
def octets (count value : Nat) : List UInt8 :=
  (List.range count).reverse.map fun index => UInt8.ofNat (value / 256 ^ index)

def utf8 (text : String) : List UInt8 := text.toUTF8.toList

/-- The text that the identity of a matched client is hashed from. -/
def ClientMatch.digestInput : ClientMatch → Option String → Option IpAddr → Option (List UInt8)
  | .matched _ .exactId, some clientId, _ => some (utf8 "id\x00" ++ utf8 clientId)
  | .matched _ (.cidr _), _, some addr =>
    match normalizeClientAddr addr with
    | .v4 bits => some (utf8 "ipv4\x00" ++ octets 4 bits.toNat)
    | .v6 bits => some (utf8 "ipv6\x00" ++ octets 16 bits.toNat)
  | _, _, _ => none

def ClientMatch.cacheDigest (sha256 : List UInt8 → Cache.ClientCacheDigest) (client : ClientMatch)
    (clientId : Option String) (clientAddr : Option IpAddr) : Option Cache.ClientCacheDigest :=
  (client.digestInput clientId clientAddr).map fun input =>
    sha256 (utf8 "fluxdns/client-cache/v1\x00" ++ input)

end FluxDns.Policy
