import FluxDns.Config.Identifier
import FluxDns.Dns.Message

/-!
# The entities of a configuration document

The data of a parsed configuration.  Names and references are plain texts here: they become
identifiers when a validated configuration is resolved.
-/

namespace FluxDns.Config

/-- An address range; its prefix is never longer than the addresses of its family. -/
inductive IpNet where
  | v4 (addr : BitVec 32) (prefixLen : Fin 33)
  | v6 (addr : BitVec 128) (prefixLen : Fin 129)
  deriving DecidableEq

namespace IpNet

def prefixLen : IpNet → Nat
  | .v4 _ len => len
  | .v6 _ len => len

/-- The address of the range with its host bits cleared. -/
def network : IpNet → IpAddr
  | .v4 addr len => .v4 (addr >>> (32 - len.val) <<< (32 - len.val))
  | .v6 addr len => .v6 (addr >>> (128 - len.val) <<< (128 - len.val))

/-- An address is in the range when they agree on the prefix. -/
def contains : IpNet → IpAddr → Bool
  | .v4 addr len, .v4 other => addr >>> (32 - len.val) == other >>> (32 - len.val)
  | .v6 addr len, .v6 other => addr >>> (128 - len.val) == other >>> (128 - len.val)
  | _, _ => false

end IpNet

inductive EcsMode where
  | disabled
  | client
  | custom
  deriving DecidableEq

/-- The `edns_client_subnet` settings. -/
structure EcsDto where
  mode : EcsMode
  customIp : Option IpNet

/-- The `optimistic` settings. -/
structure OptimisticDto where
  enabled : Bool
  answerTtl : Duration
  maxAge : Duration
  negativeMaxAge : Duration

/-- The `cache` settings of a strategy or a client. -/
structure CacheOverrideDto where
  enabled : Option Bool
  optimistic : Option OptimisticDto

/-- The `ttl_override` settings. -/
structure TtlOverrideDto where
  enabled : Option Bool
  min : Option Duration
  max : Option Duration

/-- A route of a DoH endpoint. -/
structure DohRouteDto where
  path : String
  strategy : String

inductive TlsMode where
  | terminate
  | external
  deriving DecidableEq

/-- The `tls` settings. -/
structure TlsDto where
  mode : TlsMode
  certificateFile : Option String
  privateKeyFile : Option String

inductive ClientIpSource where
  | peer
  | forwardedHeader
  | proxyProtocol
  deriving DecidableEq

inductive ForwardedHeader where
  | xForwardedFor
  | xRealIp
  | forwarded
  deriving DecidableEq

inductive ForwardedDisposition where
  | reject
  | usePeer
  deriving DecidableEq

/-- Where a DoH endpoint takes the client address from. -/
structure ClientIpDto where
  source : ClientIpSource
  header : Option ForwardedHeader
  trustedProxies : Option (List IpNet)
  onMissing : Option ForwardedDisposition
  onInvalid : Option ForwardedDisposition
  deriving DecidableEq

/-- A DoH endpoint. -/
structure DohEndpointDto where
  name : String
  addresses : List IpAddr
  port : UInt16
  tls : TlsDto
  clientIp : ClientIpDto

inductive ListenerDto where
  | udp (name : String) (addresses : List IpAddr) (port : UInt16) (strategy : String)
      (hosts : Option String)
  | tcp (name : String) (addresses : List IpAddr) (port : UInt16) (strategy : String)
      (hosts : Option String)
  | doh (name : String) (routes : List DohRouteDto) (endpoints : List DohEndpointDto)

def ListenerDto.name : ListenerDto → String
  | .udp name .. | .tcp name .. | .doh name .. => name

inductive UpstreamMode where
  | parallel
  | roundRobin
  | loadBalance
  | failover
  deriving DecidableEq

/-- A member of an upstream group. -/
structure UpstreamMemberDto where
  name : String
  weight : UInt32

inductive UpstreamDto where
  | hosts (name format hosts : String)
  | doh (name address : String) (bootstrap : Option String) (connectIp : Option IpAddr)
      (proxy : Option String) (ednsClientSubnet : Option EcsDto)
  | group (name : String) (upstreams : List UpstreamMemberDto) (upstreamMode : UpstreamMode)
      (timeout : Duration) (fallbacks : Option (List UpstreamMemberDto))
      (fallbackUpstreamMode : Option UpstreamMode) (fallbackTimeout : Option Duration)

def UpstreamDto.name : UpstreamDto → String
  | .hosts name .. | .doh name .. | .group name .. => name

/-- A rule; its rule set may carry a selector after a colon. -/
structure StrategyRuleDto where
  ruleSet : Option String
  hosts : Option String
  upstream : Option String
  ednsClientSubnet : Option EcsDto

/-- A strategy. -/
structure StrategyDto where
  name : String
  rules : List StrategyRuleDto
  defaultUpstream : String
  cache : Option CacheOverrideDto
  ttlOverride : Option TtlOverrideDto
  ednsClientSubnet : Option EcsDto

inductive HostsFormat where
  | json
  | hosts
  deriving DecidableEq

inductive HostsResourceDto where
  | const (name : String) (format : HostsFormat) (hosts : String)
  | file (name : String) (format : HostsFormat) (path : String) (autoUpdate : Bool)
      (updateInterval : Option Duration)

def HostsResourceDto.name : HostsResourceDto → String
  | .const name .. | .file name .. => name

inductive OutboundType where
  | socks5
  deriving DecidableEq

/-- Where the proxy address of an outbound comes from. -/
inductive SecretRefDto where
  | env (env : String)
  | file (file : String)
  | inline (url : String)
  | parts (env file url : Option String)

/-- A proxy for outgoing connections. -/
structure OutboundDto where
  name : String
  kind : OutboundType
  proxyUrl : SecretRefDto

inductive RuleSetFormat where
  | json
  | clash
  | dat
  deriving DecidableEq

inductive RuleSetDto where
  | const (name : String) (format : RuleSetFormat) (rule : String)
  | file (name : String) (format : RuleSetFormat) (path : String) (autoUpdate : Bool)
      (updateInterval : Option Duration)
  | remote (name : String) (format : RuleSetFormat) (url : String) (proxy : Option String)
      (autoUpdate : Bool) (updateInterval : Option Duration)

def RuleSetDto.name : RuleSetDto → String
  | .const name .. | .file name .. | .remote name .. => name

/-- A client. -/
structure ClientV2 where
  name : String
  clientId : String
  ips : List IpNet
  strategy : Option String
  cache : Option CacheOverrideDto
  ttlOverride : Option TtlOverrideDto
  ednsClientSubnet : Option EcsDto

/-- The part of `GlobalCacheV2` that decides about a request. -/
structure GlobalCacheV2 where
  enabled : Bool
  optimistic : OptimisticDto

/-- The `Default` of the type. -/
def GlobalCacheV2.default : GlobalCacheV2 where
  enabled := false
  optimistic :=
    { enabled := false
      answerTtl := 10 * second
      maxAge := 86400 * second
      negativeMaxAge := 300 * second }

/-- The part of `DnsV2` that decides about a request. -/
structure DnsV2 where
  cache : Option GlobalCacheV2
  ttlOverride : Option TtlOverrideDto
  ednsClientSubnet : Option EcsDto

/-- The `work` settings. -/
structure WorkDto where
  path : String
  rulesPath : String
  ruleSetMaxSizeBytes : Nat
  ruleSetMaxRules : Nat

/-- The `database` settings. -/
structure DatabaseV2 where
  path : String
  recordsPath : String

/-- The part of `LogsDto` that is validated. -/
structure LogsDto where
  path : String

/-- A user of the web interface. -/
structure WebUiUserDto where
  name : String
  passwordHash : String

/-- The `webui` settings. -/
structure WebUiDto where
  enable : Bool
  address : IpAddr
  port : UInt16
  publicOrigin : Option String
  users : List WebUiUserDto

/-- The `persistence` settings of the cache. -/
structure SnapshotV2 where
  enabled : Bool
  path : String
  snapshotInterval : Duration

/-- `GlobalCacheV2` with the fields that only set up the cache. -/
structure CacheSettingsV2 extends GlobalCacheV2 where
  maxSizeBytes : UInt64
  failureTtl : Duration
  negativeTtlMax : Duration
  persistence : SnapshotV2

/-- The `Default` of the type. -/
def CacheSettingsV2.default : CacheSettingsV2 where
  toGlobalCacheV2 := .default
  maxSizeBytes := 64 * 1024 * 1024
  failureTtl := 5 * second
  negativeTtlMax := 300 * second
  persistence :=
    { enabled := false
      path := "./data/dns-cache.db"
      snapshotInterval := 300 * second }

/-- The `retention` settings. -/
structure RetentionV2 where
  days : UInt32
  graceDays : UInt32
  referenceSizeBytes : UInt64

/-- The sections of a configuration next to its entities. -/
structure SectionsV2 where
  version : UInt32
  work : WorkDto
  database : DatabaseV2
  logs : LogsDto
  webui : WebUiDto
  cache : Option CacheSettingsV2
  ttlOverride : Option TtlOverrideDto
  ednsClientSubnet : Option EcsDto
  retention : RetentionV2

/-- The part of the sections that decides about a request. -/
def SectionsV2.dns (sections : SectionsV2) : DnsV2 where
  cache := sections.cache.map (·.toGlobalCacheV2)
  ttlOverride := sections.ttlOverride
  ednsClientSubnet := sections.ednsClientSubnet

/-- A configuration; its sections are the parts that no reference starts from or leads to. -/
structure ConfigV2 (Sections : Type) where
  sections : Sections
  listener : List ListenerDto
  upstreams : List UpstreamDto
  strategy : List StrategyDto
  hosts : List HostsResourceDto
  outbound : List OutboundDto
  ruleSet : List RuleSetDto
  clients : List ClientV2

/-- The configuration as far as it decides about requests. -/
def ConfigV2.forRequests (config : ConfigV2 SectionsV2) : ConfigV2 DnsV2 where
  sections := config.sections.dns
  listener := config.listener
  upstreams := config.upstreams
  strategy := config.strategy
  hosts := config.hosts
  outbound := config.outbound
  ruleSet := config.ruleSet
  clients := config.clients

end FluxDns.Config
