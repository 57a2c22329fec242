import FluxDns.Config.Validate

/-!
# Accepted configurations

What is known of a configuration that passed validation, part by part: names are valid and differ
within a collection, every entity passed its own checks, and no path of a DoH listener is matched by
two of its routes.
-/

namespace FluxDns.Config

open DohPathPattern List Checks

open Checks (isRepeated)

variable {route : DohRouteDto} {index : Nat} {path : String} {other : DohRouteDto}

/-- A collection that passed has distinct names, and its entities passed their checks. -/
theorem of_validateEntities {α : Type} {name : α → String} {collection kind : String}
    {fields : String → α → List ConfigError} {entities : List α}
    (passed : validateEntities name collection kind fields entities = []) :
    (entities.map name).Nodup ∧ ∀ entity ∈ entities, ∃ path,
      validateName (name entity) s!"{path}.name" = [] ∧ fields path entity = [] := by
  have strict (index : Nat) (entity : α) :
      validateEntity name collection kind fields index true entity ≠ [] := by
    intro empty
    simp only [validateEntity, append_eq_nil_iff, reportIf_eq_nil] at empty
    cases empty.1.2
  obtain ⟨distinct, each⟩ := of_perItem_eq_nil passed strict
  refine ⟨distinct, fun entity member => ?_⟩
  obtain ⟨index, found⟩ := mem_iff_getElem?.mp member
  have entity_passed := each index entity found
  simp only [validateEntity, append_eq_nil_iff] at entity_passed
  exact ⟨_, entity_passed.1.1, entity_passed.2⟩

/-- The parts of a configuration that passed. -/
structure Accepted (parseUrl : String → Option UrlParts) (config : ConfigV2 SectionsV2) : Prop where
  listeners : validateEntities ListenerDto.name "listener" "listener" validateListenerFields
    config.listener = []
  upstreams : validateEntities UpstreamDto.name "upstreams" "upstream"
    (validateUpstreamFields parseUrl) config.upstreams = []
  strategies : validateEntities StrategyDto.name "strategy" "strategy" validateStrategyFields
    config.strategy = []
  hosts : validateEntities HostsResourceDto.name "hosts" "hosts resource" validateHostsResource
    config.hosts = []
  outbounds : validateEntities OutboundDto.name "outbound" "outbound" (validateOutbound parseUrl)
    config.outbound = []
  ruleSets : validateEntities RuleSetDto.name "rule_set" "rule_set" (validateRuleSetFields parseUrl)
    config.ruleSet = []
  references : config.validateReferences = []
  cycles : validateUpstreamCycles config.upstreams = []
  ttlOverride : (config.sections.ttlOverride.toList.flatMap fun ttl =>
    validateTtl ttl "dns.ttl_override") = []
  clients : perItem ClientV2.name (validateClient config) config.clients = []

theorem accepted_of_validate {parseUrl : String → Option UrlParts} {config : ConfigV2 SectionsV2}
    (valid : config.validate parseUrl = []) : Accepted parseUrl config := by
  simp only [ConfigV2.validate, validateResources, validateCollections, append_eq_nil_iff]
    at valid
  obtain ⟨⟨⟨⟨⟨⟨⟨⟨_, resources⟩, _⟩, _⟩, _⟩, ttlOverride⟩, _⟩, _⟩, clients⟩ := valid
  obtain ⟨⟨⟨⟨_, collections⟩, references⟩, cycles⟩, _⟩ := resources
  obtain ⟨⟨⟨⟨⟨listeners, upstreams⟩, strategies⟩, hosts⟩, outbounds⟩, ruleSets⟩ := collections
  exact {
    listeners
    upstreams
    strategies
    hosts
    outbounds
    ruleSets
    references
    cycles
    ttlOverride
    clients }

def DohRouteDto.matches (route : DohRouteDto) (path : String) : Bool :=
  match new route.path with
  | .ok pattern => (pattern.matches path.toList).isSome
  | .error _ => false

theorem of_validateRoutePath {routes : List DohRouteDto}
    (passed : validateRoutePath path routes index false route = []) :
    ∃ pattern, new route.path = .ok pattern ∧
      ∀ earlier ∈ compiledPaths (routes.take index), pattern.overlaps earlier.2 = false := by
  rw [validateRoutePath] at passed
  split at passed <;> try cases passed
  next pattern pattern_eq =>
  rw [if_neg (by simp)] at passed
  split at passed <;> try cases passed
  next none_found =>
  refine ⟨pattern, pattern_eq, fun earlier member => ?_⟩
  have disjoint := find?_eq_none.mp none_found earlier member
  simpa using disjoint

theorem mem_compiledPaths {routes : List DohRouteDto} {pattern : DohPathPattern}
    (found : routes[index]? = some route)
    (fresh : isRepeated DohRouteDto.path routes index route = false)
    (parsed : new route.path = .ok pattern) : (index, pattern) ∈ compiledPaths routes := by
  apply mem_filterMap.mpr
  refine ⟨(route, index), mk_mem_zipIdx_iff_getElem?.mpr found, ?_⟩
  simp [fresh, parsed, Except.toOption]

theorem isRepeated_take {routes : List DohRouteDto} {bound : Nat} (earlier : index < bound) :
    isRepeated DohRouteDto.path (routes.take bound) index route =
      isRepeated DohRouteDto.path routes index route := by
  rw [isRepeated, isRepeated, take_take, min_eq_left earlier.le]

/-- Of two routes of a listener that passed, the later one overlaps with the earlier one nowhere. -/
theorem overlaps_eq_false_of_lt {routes : List DohRouteDto}
    (passed : perItem DohRouteDto.path (validateRoute path routes) routes = [])
    {first second : Nat} (ordered : first < second)
    (first_at : routes[first]? = some route) (second_at : routes[second]? = some other) :
    ∃ pattern later, new route.path = .ok pattern ∧
      new other.path = .ok later ∧ later.overlaps pattern = false := by
  have strict (index : Nat) (route : DohRouteDto) :
      validateRoute path routes index true route ≠ [] := by
    intro empty
    simp only [validateRoute, append_eq_nil_iff, reportIf_eq_nil] at empty
    cases empty.1.1.2
  obtain ⟨distinct, each⟩ := of_perItem_eq_nil passed strict
  have compiled {index : Nat} {route : DohRouteDto} (found : routes[index]? = some route) :
      validateRoutePath path routes index false route = [] := by
    have route_passed := each index route found
    simp only [validateRoute, append_eq_nil_iff] at route_passed
    exact route_passed.1.2
  obtain ⟨pattern, pattern_eq, _⟩ := of_validateRoutePath (compiled first_at)
  obtain ⟨later, later_eq, disjoint⟩ := of_validateRoutePath (compiled second_at)
  refine ⟨pattern, later, pattern_eq, later_eq, disjoint (first, pattern) ?_⟩
  apply mem_compiledPaths _ _ pattern_eq
  · rw [getElem?_take_of_lt ordered, first_at]
  · rw [isRepeated_take ordered]
    exact isRepeated_eq_false_of_nodup distinct first_at

theorem eq_of_matches {parseUrl : String → Option UrlParts} {config : ConfigV2 SectionsV2}
    (valid : config.validate parseUrl = []) {name : String} {routes : List DohRouteDto}
    {endpoints : List DohEndpointDto} (listener_mem : .doh name routes endpoints ∈ config.listener)
    {first second : Nat} (first_at : routes[first]? = some route)
    (second_at : routes[second]? = some other) (first_matches : route.matches path = true)
    (second_matches : other.matches path = true) : first = second := by
  obtain ⟨listenerPath, _, listener_passed⟩ :=
    (of_validateEntities (accepted_of_validate valid).listeners).2 _ listener_mem
  have passed : perItem DohRouteDto.path (validateRoute listenerPath routes) routes = [] := by
    simp only [validateListenerFields, append_eq_nil_iff] at listener_passed
    exact listener_passed.1.2
  have apart {first second : Nat} (ordered : first < second) {route other : DohRouteDto}
      (first_at : routes[first]? = some route) (second_at : routes[second]? = some other)
      (first_matches : route.matches path = true) (second_matches : other.matches path = true) :
      False := by
    obtain ⟨pattern, later, pattern_eq, later_eq, disjoint⟩ :=
      overlaps_eq_false_of_lt passed ordered first_at second_at
    simp only [DohRouteDto.matches, pattern_eq] at first_matches
    simp only [DohRouteDto.matches, later_eq] at second_matches
    have overlap : later.overlaps pattern = true :=
      (later.overlaps_iff pattern).mpr ⟨path.toList, second_matches, first_matches⟩
    rw [disjoint] at overlap
    cases overlap
  rcases Nat.lt_trichotomy first second with ordered | same | ordered
  · exact (apart ordered first_at second_at first_matches second_matches).elim
  · exact same
  · exact (apart ordered second_at first_at second_matches first_matches).elim

/-- Two templates overlap exactly when some path is matched by both, so that a path of an accepted
DoH listener is matched by at most one route. -/
theorem doh_routes_disjoint : (∀ (template otherTemplate : String) (pattern other : DohPathPattern),
      new template = .ok pattern → new otherTemplate = .ok other →
      (pattern.overlaps other = true ↔
        ∃ path : String, (pattern.matches path.toList).isSome = true ∧
          (other.matches path.toList).isSome = true)) ∧
    ∀ (parseUrl : String → Option UrlParts) (config : ConfigV2 SectionsV2),
      config.validate parseUrl = [] →
      ∀ (name : String) (routes : List DohRouteDto) (endpoints : List DohEndpointDto),
        .doh name routes endpoints ∈ config.listener →
        ∀ (path : String) (first second : Nat) (route other : DohRouteDto),
          routes[first]? = some route → routes[second]? = some other →
          route.matches path = true → other.matches path = true → first = second := by
  constructor
  · intro template otherTemplate pattern other _ _
    rw [pattern.overlaps_iff other]
    constructor
    · rintro ⟨path, matched⟩
      exact ⟨String.ofList path, by rwa [String.toList_ofList]⟩
    · rintro ⟨path, matched⟩
      exact ⟨path.toList, matched⟩
  · intro parseUrl config valid name routes endpoints listener_mem path first second route other
      first_at second_at first_matches second_matches
    exact eq_of_matches valid listener_mem first_at second_at first_matches second_matches

namespace Sample

def parseUrl (_ : String) : Option UrlParts :=
  some ⟨"https", some "rules.example", "", none, "/", none, none⟩

def sections : SectionsV2 where
  version := 2
  work := ⟨"/var/lib/fluxdns", "rules", 1048576, 1000⟩
  database := ⟨"data/statistics.db", "data/records"⟩
  logs := ⟨"logs"⟩
  webui := ⟨false, .v4 0x7f000001#32, 8080, none, []⟩
  cache := none
  ttlOverride := none
  ednsClientSubnet := none
  retention := ⟨7, 3, 1073741824⟩

def strategy : StrategyDto where
  name := "main"
  rules := [⟨none, some "static", none, none⟩]
  defaultUpstream := "local"
  cache := none
  ttlOverride := none
  ednsClientSubnet := none

def routes : List DohRouteDto :=
  [⟨"/dns-query", "main"⟩, ⟨"/dns-query/\x7bclient_id\x7d/family", "main"⟩]

def endpoint : DohEndpointDto where
  name := "plain"
  addresses := [.v4 0x7f000001#32]
  port := 8443
  tls := ⟨.external, none, none⟩
  clientIp := ⟨.peer, none, none, none, none⟩

/-- A UDP and a DoH listener with one strategy. -/
def config : ConfigV2 SectionsV2 where
  sections := sections
  listener := [.udp "udp" [.v4 0x7f000001#32] 53 "main" none, .doh "doh" routes [endpoint]]
  upstreams := [.hosts "local" "hosts" "127.0.0.1 localhost"]
  strategy := [strategy]
  hosts := [.const "static" .hosts "127.0.0.1 localhost"]
  outbound := []
  ruleSet := []
  clients := []

theorem config_accepted : config.validate parseUrl = [] := by
  decide +kernel

end Sample

/-- No path of the small configuration is matched by both of its routes. -/
theorem doh_routes_disjoint_sample : Sample.config.validate Sample.parseUrl = [] ∧
      (∃ path : String, DohRouteDto.matches ⟨"/dns-query", "main"⟩ path = true) ∧
      ∀ path : String, DohRouteDto.matches ⟨"/dns-query", "main"⟩ path = true →
        DohRouteDto.matches ⟨"/dns-query/\x7bclient_id\x7d/family", "main"⟩ path = false := by
  refine ⟨Sample.config_accepted, ⟨"/dns-query", by decide +kernel⟩, fun path matched => ?_⟩
  by_contra both
  rw [Bool.not_eq_false] at both
  have same := doh_routes_disjoint.2 Sample.parseUrl Sample.config Sample.config_accepted "doh"
    Sample.routes [Sample.endpoint] (by simp [Sample.config]) path 0 1 _ _ rfl rfl matched both
  cases same

end FluxDns.Config
