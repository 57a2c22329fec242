import FluxDns.Library.Checks
import FluxDns.Config.DohRoute
import FluxDns.Config.References
import FluxDns.Config.UpstreamCycles

/-!
# Validation of a configuration

The checks of a parsed configuration that need no file and no network.  Every check contributes its
errors, and a configuration is accepted when there are none.
-/

namespace FluxDns.Config

open Checks DohPathPattern

/-- The characters that `str::trim` removes. -/
def isWhiteSpace (char : Char) : Bool :=
  let code := char.toNat
  decide (9 ≤ code ∧ code ≤ 13) || decide (0x2000 ≤ code ∧ code ≤ 0x200a) ||
    [0x20, 0x85, 0xa0, 0x1680, 0x2028, 0x2029, 0x202f, 0x205f, 0x3000].contains code

def trim (text : String) : String :=
  String.ofList ((text.toList.dropWhile isWhiteSpace).reverse.dropWhile isWhiteSpace).reverse

/-- `text.trim().is_empty()` -/
def isBlank (text : String) : Bool := text.toList.all isWhiteSpace

/-- The parts of a parsed URL. -/
structure UrlParts where
  scheme : String
  host : Option String
  username : String
  password : Option String
  path : String
  query : Option String
  fragment : Option String

def reportIf (wrong : Bool) (kind : ConfigErrorKind) (path message : String) : List ConfigError :=
  if wrong then [⟨kind, path, message⟩] else []

@[simp]
theorem reportIf_eq_nil {wrong : Bool} {kind : ConfigErrorKind} {path message : String} :
    reportIf wrong kind path message = [] ↔ wrong = false := by
  cases wrong <;> simp [reportIf]

def check (valid : Bool) (path message : String) : List ConfigError :=
  reportIf (!valid) .invalidValue path message

def validateSize (size : UInt64) (path : String) : List ConfigError :=
  check (decide (1 ≤ size.toNat ∧ size.toNat ≤ 2 ^ 40)) path "bytes must be in 1..=1099511627776"

def validateName (name path : String) : List ConfigError :=
  if name.utf8ByteSize = 0 ∨ 128 < name.utf8ByteSize then
    [⟨.invalidValue, path, "name must contain 1..=128 characters"⟩]
  else
    reportIf (!name.toList.all isIdentifierChar) .invalidValue path
      "name contains an unsupported character"

def validatePort (port : UInt16) (path : String) : List ConfigError :=
  reportIf (port == 0) .invalidValue path "port must be between 1 and 65535"

def validateAddresses (addresses : List IpAddr) (path : String) : List ConfigError :=
  reportIf addresses.isEmpty .missingField path "at least one address is required" ++
    perItem id (fun index repeated _ =>
      reportIf repeated .duplicate s!"{path}[{index}]" "address is duplicated") addresses

def validateRequiredPath (file : Option String) (path : String) : List ConfigError :=
  match file with
  | none => [⟨.missingField, path, "path is required"⟩]
  | some file => reportIf (file.utf8ByteSize == 0) .invalidValue path "path must not be empty"

def validateOptimistic (optimistic : OptimisticDto) (path : String) : List ConfigError :=
  reportIf (optimistic.answerTtl == 0) .invalidValue s!"{path}.answer_ttl"
      "duration must be greater than zero" ++
    reportIf (optimistic.maxAge == 0) .invalidValue s!"{path}.max_age"
      "duration must be greater than zero"

def validateCacheOverride (cache : CacheOverrideDto) (path : String) : List ConfigError :=
  reportIf cache.enabled.isNone .missingField s!"{path}.enabled"
      "enabled is required when a cache override is present" ++
    (cache.optimistic.toList.flatMap fun optimistic =>
      validateOptimistic optimistic s!"{path}.optimistic")

def validateTtl (ttl : TtlOverrideDto) (path : String) : List ConfigError :=
  match ttl.min, ttl.max with
  | some min, some max =>
    reportIf (decide (max ≠ 0 ∧ min ≠ 0 ∧ max < min)) .constraint path
      "min TTL must not exceed max TTL"
  | _, _ => []

def validateEcs (ecs : Option EcsDto) (path : String) : List ConfigError :=
  ecs.toList.flatMap fun ecs =>
    reportIf (ecs.mode == .custom && ecs.customIp.isNone) .missingField s!"{path}.custom_ip"
        "custom_ip is required for custom mode" ++
      reportIf (ecs.mode != .custom && ecs.customIp.isSome) .constraint s!"{path}.custom_ip"
        "custom_ip is only allowed for custom mode"

def validateClientIp (clientIp : ClientIpDto) (endpointPath : String) : List ConfigError :=
  let path := s!"{endpointPath}.client_ip"
  let untrusted := (clientIp.trustedProxies.getD []).isEmpty
  match clientIp.source with
  | .peer =>
    reportIf (clientIp.header.isSome || clientIp.trustedProxies.isSome ||
        clientIp.onMissing.isSome || clientIp.onInvalid.isSome) .constraint path
      "peer source must not configure proxy header options"
  | .forwardedHeader =>
    reportIf clientIp.header.isNone .missingField s!"{path}.header"
        "header is required for forwarded_header source" ++
      reportIf untrusted .missingField s!"{path}.trusted_proxies"
        "trusted_proxies is required for forwarded_header source"
  | .proxyProtocol =>
    reportIf untrusted .missingField s!"{path}.trusted_proxies"
        "trusted_proxies is required for proxy_protocol source" ++
      reportIf (clientIp.header.isSome || clientIp.onMissing.isSome ||
          clientIp.onInvalid.isSome) .constraint path
        "proxy_protocol source does not accept forwarded header options"

def validateTls (tls : TlsDto) (endpointPath : String) : List ConfigError :=
  match tls.mode with
  | .terminate =>
    validateRequiredPath tls.certificateFile s!"{endpointPath}.tls.certificate_file" ++
      validateRequiredPath tls.privateKeyFile s!"{endpointPath}.tls.private_key_file"
  | .external =>
    reportIf tls.certificateFile.isSome .constraint s!"{endpointPath}.tls.certificate_file"
        "certificate_file is forbidden for external mode" ++
      reportIf tls.privateKeyFile.isSome .constraint s!"{endpointPath}.tls.private_key_file"
        "private_key_file is forbidden for external mode"

variable (path : String)

def validateEndpoint (index : Nat) (repeated : Bool) (endpoint : DohEndpointDto) :
    List ConfigError :=
  let endpointPath := s!"{path}.endpoints[{index}]"
  validateName endpoint.name s!"{endpointPath}.name" ++
    reportIf repeated .duplicate s!"{endpointPath}.name" "endpoint name is duplicated" ++
    validateAddresses endpoint.addresses s!"{endpointPath}.addresses" ++
    validatePort endpoint.port s!"{endpointPath}.port" ++
    validateTls endpoint.tls endpointPath ++
    validateClientIp endpoint.clientIp endpointPath

variable (routes : List DohRouteDto)

def compiledPaths : List (Nat × DohPathPattern) :=
  routes.zipIdx.filterMap fun (route, index) =>
    if isRepeated DohRouteDto.path routes index route then none
    else (new route.path).toOption.map (index, ·)

def pathPatternMessage : DohPathPatternError → String
  | .invalidPath => "route path must be a non-empty absolute HTTP path without query, fragment, or control characters"
  | .invalidPlaceholder =>
    "client_id placeholder must appear at most once as a complete path segment"

def validateRoutePath (index : Nat) (repeated : Bool)
    (route : DohRouteDto) : List ConfigError :=
  match new route.path with
  | .error error => [⟨.invalidValue, s!"{path}.routes[{index}].path", pathPatternMessage error⟩]
  | .ok pattern =>
    if repeated then []
    else
      match (compiledPaths (routes.take index)).find? fun (_, other) => pattern.overlaps other with
      | some (other, _) =>
        [⟨.constraint, s!"{path}.routes[{index}].path",
          s!"route path overlaps with {path}.routes[{other}].path"⟩]
      | none => []

def validateRoute (index : Nat) (repeated : Bool)
    (route : DohRouteDto) : List ConfigError :=
  let routePath := s!"{path}.routes[{index}]"
  reportIf ("/dns-quer/inner".toList.isPrefixOf route.path.toList ||
        "/dns-quer/outside".toList.isPrefixOf route.path.toList) .constraint s!"{routePath}.path"
      "path is reserved by the service" ++
    reportIf repeated .duplicate s!"{routePath}.path" "route path is duplicated" ++
    validateRoutePath path routes index repeated route ++
    reportIf (isBlank route.strategy) .missingField s!"{routePath}.strategy"
      "strategy reference must not be empty"

def validateListenerFields : ListenerDto → List ConfigError
  | .udp _ addresses port strategy hosts | .tcp _ addresses port strategy hosts =>
    validateAddresses addresses s!"{path}.addresses" ++
      validatePort port s!"{path}.port" ++
      reportIf (isBlank strategy) .missingField s!"{path}.strategy" "strategy must not be empty" ++
      reportIf (hosts.any isBlank) .invalidValue s!"{path}.hosts"
        "hosts reference must not be empty"
  | .doh _ routes endpoints =>
    reportIf routes.isEmpty .missingField s!"{path}.routes" "at least one route is required" ++
      reportIf endpoints.isEmpty .missingField s!"{path}.endpoints"
        "at least one endpoint is required" ++
      perItem DohRouteDto.path (validateRoute path routes) routes ++
      perItem DohEndpointDto.name (validateEndpoint path) endpoints

section Urls

variable (parseUrl : String → Option UrlParts)

/-- The URL of an upstream or of a rule set.  A text that is no URL is already refused when the
document is read. -/
def validateHttpUrl (subject label url path : String) : List ConfigError :=
  match parseUrl url with
  | none => [⟨.invalidValue, path, "invalid v2 configuration shape"⟩]
  | some parts =>
    reportIf (parts.scheme != "https" && parts.scheme != "http") .invalidValue path
        s!"{subject} must use http or https" ++
      reportIf parts.host.isNone .invalidValue path s!"{label} URL must include a host" ++
      reportIf (parts.username != "" || parts.password.isSome || parts.fragment.isSome)
        .invalidValue path s!"{label} URL must not contain credentials or a fragment"

def validateGroupMember (mode : UpstreamMode) (path : String) (index : Nat) (repeated : Bool)
    (member : UpstreamMemberDto) : List ConfigError :=
  let memberPath := s!"{path}[{index}]"
  reportIf (isBlank member.name) .missingField s!"{memberPath}.name"
      "member name must not be empty" ++
    reportIf repeated .duplicate s!"{memberPath}.name" "group member is duplicated" ++
    reportIf (member.weight == 0) .invalidValue s!"{memberPath}.weight"
      "weight must be positive" ++
    reportIf ((mode == .parallel || mode == .failover) && member.weight != 1) .constraint
      s!"{memberPath}.weight" "parallel and failover members must use weight 1"

def validateGroupMembers (members : List UpstreamMemberDto) (mode : UpstreamMode) (path : String) :
    List ConfigError :=
  reportIf members.isEmpty .missingField path "at least one group member is required" ++
    perItem UpstreamMemberDto.name (validateGroupMember mode path) members

def validateFallbacks (fallbacks : Option (List UpstreamMemberDto)) (mode : Option UpstreamMode)
    (timeout : Option Duration) (path : String) : List ConfigError :=
  match fallbacks with
  | some fallbacks =>
    reportIf fallbacks.isEmpty .constraint s!"{path}.fallbacks"
        "fallbacks must not be empty when provided" ++
      reportIf mode.isNone .missingField s!"{path}.fallback_upstream_mode"
        "fallback mode is required when fallbacks are provided" ++
      reportIf (timeout.all (· == 0)) .missingField s!"{path}.fallback_timeout"
        "fallback timeout is required and must be positive" ++
      (mode.toList.flatMap fun mode => validateGroupMembers fallbacks mode s!"{path}.fallbacks")
  | none =>
    reportIf (mode.isSome || timeout.isSome) .constraint path
      "fallback mode and timeout require fallbacks"

variable (path : String)

def validateUpstreamFields : UpstreamDto → List ConfigError
  | .hosts _ format hosts =>
    reportIf (format != "json" && format != "hosts") .invalidValue s!"{path}.format"
        "hosts upstream format must be json or hosts" ++
      reportIf (isBlank hosts) .missingField s!"{path}.hosts"
        "inline hosts content must not be empty"
  | .doh _ address bootstrap connectIp _ ecs =>
    validateHttpUrl parseUrl "upstream address" "upstream" address s!"{path}.address" ++
      reportIf (bootstrap.isSome && connectIp.isSome) .constraint path
        "bootstrap and connect_ip are mutually exclusive" ++
      validateEcs ecs s!"{path}.edns_client_subnet"
  | .group _ upstreams mode timeout fallbacks fallbackMode fallbackTimeout =>
    validateGroupMembers upstreams mode s!"{path}.upstreams" ++
      reportIf (timeout == 0) .invalidValue s!"{path}.timeout"
        "timeout must be greater than zero" ++
      validateFallbacks fallbacks fallbackMode fallbackTimeout path

def validateRuleFields (rule : StrategyRuleDto) : List ConfigError :=
  let hasRuleSet := rule.ruleSet.any (!isBlank ·)
  let hasHosts := rule.hosts.any (!isBlank ·)
  reportIf (hasRuleSet == hasHosts) .constraint path
      "exactly one of rule_set or hosts is required" ++
    reportIf (hasRuleSet && rule.upstream.all isBlank) .missingField s!"{path}.upstream"
      "rule_set rules require an upstream" ++
    reportIf (hasHosts && rule.upstream.isSome) .constraint s!"{path}.upstream"
      "hosts rules must not specify an upstream" ++
    validateEcs rule.ednsClientSubnet s!"{path}.edns_client_subnet"

def validateStrategyFields (strategy : StrategyDto) : List ConfigError :=
  reportIf strategy.rules.isEmpty .missingField s!"{path}.rules" "at least one rule is required" ++
    reportIf (isBlank strategy.defaultUpstream) .missingField s!"{path}.default_upstream"
      "default upstream must not be empty" ++
    (strategy.cache.toList.flatMap fun cache => validateCacheOverride cache s!"{path}.cache") ++
    (strategy.ttlOverride.toList.flatMap fun ttl => validateTtl ttl s!"{path}.ttl_override") ++
    validateEcs strategy.ednsClientSubnet s!"{path}.edns_client_subnet" ++
    (strategy.rules.zipIdx.flatMap fun (rule, index) =>
      validateRuleFields s!"{path}.rules[{index}]" rule)

/-- The fields that file and remote resources share. -/
def validateUpdates (autoUpdate : Bool) (updateInterval : Option Duration) (path : String) :
    List ConfigError :=
  reportIf (autoUpdate && updateInterval.all (· == 0)) .missingField s!"{path}.update_interval"
    "update_interval is required when auto_update is true"

def validateHostsResource : HostsResourceDto → List ConfigError
  | .const _ _ hosts =>
    reportIf (isBlank hosts) .missingField s!"{path}.hosts"
      "inline hosts content must not be empty"
  | .file _ _ file autoUpdate updateInterval =>
    reportIf (file.utf8ByteSize == 0) .missingField s!"{path}.path"
        "file path must not be empty" ++
      validateUpdates autoUpdate updateInterval path

def validateRuleSetFields : RuleSetDto → List ConfigError
  | .const _ _ rule =>
    reportIf (isBlank rule) .missingField s!"{path}.rule"
      "inline rule content must not be empty"
  | .file _ _ file autoUpdate updateInterval =>
    reportIf (file.utf8ByteSize == 0) .missingField s!"{path}.path"
        "file path must not be empty" ++
      validateUpdates autoUpdate updateInterval path
  | .remote _ _ url _ autoUpdate updateInterval =>
    validateHttpUrl parseUrl "remote URL" "remote" url s!"{path}.url" ++
      validateUpdates autoUpdate updateInterval path

def isValidEnvName (name : String) : Bool :=
  match name.toList with
  | [] => false
  | first :: rest =>
    (first == '_' || first.isAlpha) && rest.all fun char => char.isAlphanum || char == '_'

def inlineProxyUrlError (url : Option String) : Option String :=
  match url.map trim with
  | none | some "" => none
  | some value =>
    match parseUrl value with
    | none => some "inline proxy URL must be a valid URL"
    | some parts =>
      if parts.scheme ≠ "socks5" ∧ parts.scheme ≠ "socks5h" then
        some "inline proxy URL scheme must be socks5 or socks5h"
      else if parts.host.isNone then some "inline proxy URL must contain a host"
      else none

/-- The three places that a secret may come from. -/
def secretSources : SecretRefDto → Option String × Option String × Option String
  | .env env => (some env, none, none)
  | .file file => (none, some file, none)
  | .inline url => (none, none, some url)
  | .parts env file url => (env, file, url)

def validateOutbound (outbound : OutboundDto) : List ConfigError :=
  let (env, file, url) := secretSources outbound.proxyUrl
  let hasEnv := env.any (!isBlank ·)
  let hasFile := file.any (·.utf8ByteSize != 0)
  let hasUrl := url.any (!isBlank ·)
  reportIf ((hasEnv.toNat + hasFile.toNat + hasUrl.toNat) != 1) .secret s!"{path}.proxy_url"
      "exactly one of env, file or url is required" ++
    reportIf (env.any isBlank) .secret s!"{path}.proxy_url.env"
      "environment variable name must not be empty" ++
    reportIf (env.any (!isValidEnvName ·)) .secret s!"{path}.proxy_url.env"
      "environment variable name contains unsupported characters" ++
    reportIf (file.any (·.utf8ByteSize == 0)) .secret s!"{path}.proxy_url.file"
      "secret file path must not be empty" ++
    ((inlineProxyUrlError parseUrl url).toList.map fun message =>
      ⟨.secret, s!"{path}.proxy_url.url", message⟩)

/-- An entity: its name, whether it is the first of that name, and its own fields. -/
def validateEntity {α : Type} (name : α → String) (collection kind : String)
    (fields : String → α → List ConfigError) (index : Nat) (repeated : Bool) (entity : α) :
    List ConfigError :=
  let path := s!"{collection}[{index}]"
  validateName (name entity) s!"{path}.name" ++
    reportIf repeated .duplicate s!"{path}.name" s!"{kind} name is duplicated" ++
    fields path entity

def validateEntities {α : Type} (name : α → String) (collection kind : String)
    (fields : String → α → List ConfigError) (entities : List α) : List ConfigError :=
  perItem name (validateEntity name collection kind fields) entities

def validateCollections {Sections : Type} (config : ConfigV2 Sections) : List ConfigError :=
  validateEntities ListenerDto.name "listener" "listener" validateListenerFields config.listener ++
    validateEntities UpstreamDto.name "upstreams" "upstream" (validateUpstreamFields parseUrl)
      config.upstreams ++
    validateEntities StrategyDto.name "strategy" "strategy" validateStrategyFields
      config.strategy ++
    validateEntities HostsResourceDto.name "hosts" "hosts resource" validateHostsResource
      config.hosts ++
    validateEntities OutboundDto.name "outbound" "outbound" (validateOutbound parseUrl)
      config.outbound ++
    validateEntities RuleSetDto.name "rule_set" "rule_set" (validateRuleSetFields parseUrl)
      config.ruleSet

def isSupportedPasswordHash (value : String) : Bool :=
  let starts (marker : String) := marker.toList.isPrefixOf value.toList
  ((starts "$2a$" || starts "$2b$" || starts "$2y$") && value.utf8ByteSize == 60) ||
    (starts "$argon2id$" && decide (20 ≤ value.utf8ByteSize))

def isValidPublicOrigin (origin : String) : Bool :=
  match parseUrl origin with
  | none => false
  | some parts =>
    (parts.scheme == "http" || parts.scheme == "https") && parts.host.isSome &&
      parts.username == "" && parts.password.isNone && parts.path == "/" &&
      parts.query.isNone && parts.fragment.isNone

def validateUser (index : Nat) (repeated : Bool) (user : WebUiUserDto) : List ConfigError :=
  let path := s!"webui.users[{index}]"
  validateName user.name s!"{path}.name" ++
    reportIf repeated .duplicate s!"{path}.name" "user name is duplicated" ++
    reportIf (!isSupportedPasswordHash user.passwordHash) .invalidValue s!"{path}.password_hash"
      "password_hash must use a supported one-way hash format"

def validateWebUi (webui : WebUiDto) : List ConfigError :=
  reportIf (webui.port == 0) .invalidValue "webui.port" "port must be between 1 and 65535" ++
    (match webui.publicOrigin with
      | none =>
        reportIf webui.enable .missingField "webui.public_origin"
          "public_origin is required when webui is enabled"
      | some origin =>
        reportIf (!isValidPublicOrigin parseUrl origin) .invalidValue "webui.public_origin"
          "public_origin must be an absolute http or https origin without credentials, path, query, or fragment") ++
    perItem WebUiUserDto.name validateUser webui.users

variable (config : ConfigV2 SectionsV2)

def validateStartup : List ConfigError :=
  let sections := config.sections
  reportIf (sections.work.path.utf8ByteSize == 0) .missingField "work.path"
      "path must not be empty" ++
    reportIf (sections.work.rulesPath.utf8ByteSize == 0) .missingField "work.rules_path"
      "path must not be empty" ++
    reportIf (sections.work.ruleSetMaxSizeBytes == 0) .invalidValue "work.rule_set_max_size_bytes"
      "rule-set size limit must be greater than zero" ++
    reportIf (sections.work.ruleSetMaxRules == 0) .invalidValue "work.rule_set_max_rules"
      "rule-set rule limit must be greater than zero" ++
    reportIf (sections.database.path.utf8ByteSize == 0) .missingField "database.path"
      "database path must not be empty" ++
    reportIf (sections.logs.path.utf8ByteSize == 0) .missingField "logs.path"
      "log path must not be empty" ++
    reportIf config.listener.isEmpty .missingField "listener"
      "at least one listener is required" ++
    reportIf config.upstreams.isEmpty .missingField "upstreams"
      "at least one upstream is required" ++
    reportIf config.strategy.isEmpty .missingField "strategy"
      "at least one strategy is required" ++
    validateWebUi parseUrl sections.webui

inductive BindProtocol where
  | udp
  | tcp
  deriving DecidableEq

/-- The part of `BindEntry` that can be in conflict. -/
structure BindEntry where
  protocol : BindProtocol
  address : IpAddr
  port : UInt16
  owner : String

def bindEntries (index : Nat) : ListenerDto → List BindEntry
  | .udp name addresses port _ _ => addresses.map fun address => ⟨.udp, address, port, name⟩
  | .tcp name addresses port _ _ => addresses.map fun address => ⟨.tcp, address, port, name⟩
  | .doh name _ endpoints => endpoints.flatMap fun endpoint => endpoint.addresses.map fun address =>
    ⟨.tcp, address, endpoint.port, s!"listener[{index}].{name}.{endpoint.name}"⟩

def addressesOverlap : IpAddr → IpAddr → Bool
  | .v4 left, .v4 right => left == right || left == 0 || right == 0
  | .v6 left, .v6 right => left == right || left == 0 || right == 0
  | _, _ => false

/-- The errors of `build_resource_bind_plan`. -/
def validateBindPlan (listeners : List ListenerDto) (webui : WebUiDto) : List ConfigError :=
  let entries := listeners.zipIdx.flatMap fun (listener, index) => bindEntries index listener
  (entries.zipIdx.flatMap fun (left, index) => (entries.drop (index + 1)).flatMap fun right =>
      reportIf (left.protocol == right.protocol && left.port == right.port &&
          addressesOverlap left.address right.address) .bindConflict
        s!"bind.{left.owner}.{left.port}" "expanded listener addresses conflict") ++
    (if webui.enable then entries.flatMap fun entry =>
        reportIf (entry.protocol == .tcp && entry.port == webui.port &&
            addressesOverlap entry.address webui.address) .bindConflict s!"bind.webui.{webui.port}"
          "management endpoint conflicts with a DNS TCP endpoint"
      else [])

def validateResources : List ConfigError :=
  validateStartup parseUrl config ++ validateCollections parseUrl config ++
    config.validateReferences ++ validateUpstreamCycles config.upstreams ++
    validateBindPlan config.listener config.sections.webui

def validClientId (value : String) : Bool :=
  decide (1 ≤ value.utf8ByteSize ∧ value.utf8ByteSize ≤ 128) &&
    value.toList.all fun char =>
      char.isAlphanum || char == '-' || char == '.' || char == '_' || char == '~'

def validateClientStrategy {Sections : Type} (config : ConfigV2 Sections) (index : Nat) :
    Option String → List ConfigError
  | none => []
  | some name =>
    let names := config.entityNames
    if name ∈ names.strategies then []
    else
      [⟨if name ∈ names.upstreams ++ names.hosts ++ names.ruleSets ++ names.outbounds then
          .wrongReferenceKind else .missingReference,
        s!"clients[{index}].strategy", "reference must point to strategy"⟩]

/-- The networks of a client; each may be used once in the whole configuration. -/
def validateClientIps (clients : List ClientV2) (index : Nat) (client : ClientV2) :
    List ConfigError :=
  client.ips.zipIdx.flatMap fun (ip, ipIndex) =>
    reportIf (decide (ip ∈ (clients.take index).flatMap (·.ips) ++ client.ips.take ipIndex))
      .duplicate s!"clients[{index}].match.ips[{ipIndex}]" "duplicate normalized CIDR"

def validateClient {Sections : Type} (config : ConfigV2 Sections) (index : Nat)
    (nameRepeated : Bool) (client : ClientV2) : List ConfigError :=
  let path := s!"clients[{index}]"
  let message := "duplicate management name or request identity"
  validateName client.name s!"{path}.name" ++
    reportIf nameRepeated .duplicate s!"{path}.name" message ++
    reportIf (isRepeated ClientV2.clientId config.clients index client) .duplicate
      s!"{path}.client_id" message ++
    check (validClientId client.clientId) s!"{path}.client_id"
      "client_id must contain 1..=128 URL unreserved ASCII characters" ++
    check (decide (client.ips.length ≤ 256)) s!"{path}.match.ips"
      "at most 256 IP ranges are allowed" ++
    validateClientIps config.clients index client ++
    validateClientStrategy config index client.strategy ++
    (client.cache.toList.flatMap fun cache => validateCacheOverride cache s!"{path}.cache") ++
    (client.ttlOverride.toList.flatMap fun ttl => validateTtl ttl s!"{path}.ttl_override") ++
    validateEcs client.ednsClientSubnet s!"{path}.edns_client_subnet"

def maxInlineBytes : Nat := 256 * 1024

def checkInline (text : Option String) : List ConfigError :=
  text.toList.flatMap fun text =>
    check (decide (text.utf8ByteSize ≤ maxInlineBytes)) path "inline text exceeds 256 KiB"

def checkCount (count : Nat) : List ConfigError :=
  check (decide (count ≤ 1024)) path "namespace exceeds 1024 resources"

def checkSeconds (low high : Nat) (value : Duration) (path message : String) : List ConfigError :=
  check (decide (low * second ≤ value ∧ value ≤ high * second)) path message

def validateLimits {Sections : Type} (config : ConfigV2 Sections) : List ConfigError :=
  checkCount "listener" config.listener.length ++
    checkCount "upstreams" config.upstreams.length ++
    checkCount "strategy" config.strategy.length ++
    checkCount "hosts" config.hosts.length ++
    checkCount "outbound" config.outbound.length ++
    checkCount "rule_set" config.ruleSet.length ++
    checkCount "clients" config.clients.length ++
    (config.hosts.zipIdx.flatMap fun (resource, index) =>
      checkInline s!"hosts[{index}].hosts" (match resource with
        | .const _ _ hosts => some hosts
        | .file .. => none)) ++
    (config.ruleSet.zipIdx.flatMap fun (resource, index) =>
      checkInline s!"rule_set[{index}].rule" (match resource with
        | .const _ _ rule => some rule
        | .file .. | .remote .. => none)) ++
    (config.upstreams.zipIdx.flatMap fun (upstream, index) =>
      checkInline s!"upstreams[{index}].hosts" (match upstream with
        | .hosts _ _ hosts => some hosts
        | .doh .. | .group .. => none))

def validateCacheSettings (cache : CacheSettingsV2) : List ConfigError :=
  validateSize cache.maxSizeBytes "dns.cache.memory.max_size_bytes" ++
    checkSeconds 1 300 cache.failureTtl "dns.cache.failure_ttl" "failure TTL must be in 1s..=5m" ++
    checkSeconds 1 86400 cache.negativeTtlMax "dns.cache.negative_ttl_max"
      "negative TTL max must be in 1s..=1d" ++
    validateOptimistic cache.optimistic "dns.cache.optimistic" ++
    checkSeconds 1 86400 cache.persistence.snapshotInterval
      "dns.cache.persistence.snapshot_interval" "snapshot interval must be in 1s..=1d" ++
    check (cache.persistence.path.utf8ByteSize != 0) "dns.cache.persistence.path"
      "path is required"

def validateRetention (retention : RetentionV2) : List ConfigError :=
  check (decide (0 < retention.days.toNat ∧ retention.days.toNat ≤ 3650))
      "statistics.retention.days" "days must be in 1..=3650" ++
    check (decide (retention.days.toNat + retention.graceDays.toNat ≤ 3650))
      "statistics.retention.grace_days" "days plus grace_days must not exceed 3650" ++
    validateSize retention.referenceSizeBytes "statistics.retention.reference_size_bytes"

/-- `ConfigV2::validate`: the errors that it reports, before they are sorted. -/
def ConfigV2.validate : List ConfigError :=
  let sections := config.sections
  reportIf (sections.version != 2) .unsupportedVersion "version"
      "only version 2 is accepted; use a new development directory" ++
    validateResources parseUrl config ++
    validateLimits config ++
    validateCacheSettings (sections.cache.getD .default) ++
    check (sections.database.recordsPath.utf8ByteSize != 0) "database.records_path"
      "path is required" ++
    (sections.ttlOverride.toList.flatMap fun ttl => validateTtl ttl "dns.ttl_override") ++
    validateEcs sections.ednsClientSubnet "dns.edns_client_subnet" ++
    validateRetention sections.retention ++
    perItem ClientV2.name (validateClient config) config.clients

end Urls

end FluxDns.Config
