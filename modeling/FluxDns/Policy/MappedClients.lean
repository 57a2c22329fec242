import FluxDns.Cache.Key
import FluxDns.Policy.Plan
import FluxDns.Transport.Forwarded

/-!
# Clients with mapped addresses

An IPv4 client may be delivered under its IPv4-mapped IPv6 address.  Client rules and cache digests
take both forms for the same client, but the subnet that is derived for the upstream and for the
cache key keeps the family of the form.
-/

namespace FluxDns.Policy

open Config Cache Transport ByteReader Codec BitVec IpNet ClientMatch
open Cache.Refresh (CacheDecision)

/-- The IPv4-mapped IPv6 address. -/
def toIpv6Mapped (bits : BitVec 32) : BitVec 128 := 0xffff00000000#128 + bits.zeroExtend 128

theorem toNat_toIpv6Mapped (bits : BitVec 32) :
    (toIpv6Mapped bits).toNat = 0xffff00000000 + bits.toNat := by
  simp only [toIpv6Mapped, toNat_add, zeroExtend_eq_setWidth, toNat_setWidth,
    toNat_ofNat]
  omega

theorem normalizeClientAddr_mapped (bits : BitVec 32) :
    normalizeClientAddr (.v6 (toIpv6Mapped bits)) = .v4 bits := by
  have number := toNat_toIpv6Mapped bits
  have marked : toIpv6Mapped bits >>> 32 = 0xffff#128 := by
    apply eq_of_toNat_eq
    rw [toNat_ushiftRight, number, Nat.shiftRight_eq_div_pow, toNat_ofNat]
    omega
  have kept : (toIpv6Mapped bits).truncate 32 = bits := by
    apply eq_of_toNat_eq
    rw [truncate_eq_setWidth, toNat_setWidth, number]
    omega
  rw [normalizeClientAddr, toIpv4Mapped, if_pos marked, kept]

/-- The subnet without host bits, if its lengths fit its family. -/
def normalizeClientSubnet (subnet : ClientSubnet) : Option ClientSubnet :=
  match subnet.addr with
  | .v4 bits =>
    if fits : subnet.sourcePrefix.toNat < 33 ∧ subnet.scopePrefix.toNat < 33 then
      some { subnet with addr := network (.v4 bits ⟨subnet.sourcePrefix.toNat, fits.1⟩) }
    else none
  | .v6 bits =>
    if fits : subnet.sourcePrefix.toNat < 129 ∧ subnet.scopePrefix.toNat < 129 then
      some { subnet with addr := network (.v6 bits ⟨subnet.sourcePrefix.toNat, fits.1⟩) }
    else none

/-- The subnet that stands for a client, by the family of its address. -/
def clientAddressSubnet : IpAddr → ClientSubnet
  | .v4 bits => ⟨network (.v4 bits 24), 24, 0⟩
  | .v6 bits => ⟨network (.v6 bits 56), 56, 0⟩

/-- The valid subnet of a query itself. -/
def requestSubnet (query : CanonicalQuery) : Option ClientSubnet :=
  query.ednsClientSubnet.bind normalizeClientSubnet

/-- The query under one ECS setting. -/
def effectiveUpstreamQuery (query : CanonicalQuery) (ecs : ResolvedEcs)
    (clientAddr : Option IpAddr) : CanonicalQuery :=
  query.withEdnsClientSubnet <|
    match ecs.mode with
    | .disabled => none
    | .custom => ecs.customIp.map fun network => ⟨network.network, UInt8.ofNat network.prefixLen, 0⟩
    | .client => requestSubnet query <|> clientAddr.map clientAddressSubnet

/-- The ECS settings of the members of each group; a member without one inherits. -/
structure UpstreamRuntime where
  groupMemberEcs : Map ConfigId (Map ConfigId (Option ResolvedEcs))

/-- One query for the upstream, or one for each member of a group. -/
structure PreparedUpstreamQuery where
  query : CanonicalQuery
  memberQueries : Option (List (ConfigId × CanonicalQuery))

namespace UpstreamRuntime

variable (upstreams : UpstreamRuntime) (upstream : ConfigId)

def hasMemberSpecificEcs : Bool :=
  (upstreams.groupMemberEcs.lookup upstream).any fun members => members.entries.any (·.2.isSome)

/-- Only an inherited setting gives way to those of the members; queries that carry the same subnet
are one query. -/
def prepareQuery (original : CanonicalQuery) (selectedEcs : ResolvedEcs)
    (clientAddr : Option IpAddr) : PreparedUpstreamQuery :=
  let query := effectiveUpstreamQuery original selectedEcs clientAddr
  if selectedEcs.source ≠ .default ∧ selectedEcs.source ≠ .global then ⟨query, none⟩
  else
    match upstreams.groupMemberEcs.lookup upstream with
    | none => ⟨query, none⟩
    | some members =>
      if members.entries.any (·.2.isSome) then
        let queries := members.entries.map fun member =>
          (member.1, effectiveUpstreamQuery original (member.2.getD selectedEcs) clientAddr)
        match queries with
        | [] => ⟨query, some []⟩
        | first :: rest =>
          if rest.all fun member => member.2.ednsClientSubnet = first.2.ednsClientSubnet then
            ⟨first.2, none⟩
          else ⟨query, some queries⟩
      else ⟨query, none⟩

/-- The settings under which queries to an upstream are made. -/
def ecsInUse (selectedEcs : ResolvedEcs) : List ResolvedEcs :=
  if selectedEcs.source ≠ .default ∧ selectedEcs.source ≠ .global then [selectedEcs]
  else
    match upstreams.groupMemberEcs.lookup upstream with
    | none => [selectedEcs]
    | some members =>
      if members.entries.any (·.2.isSome) then
        members.entries.map fun member => member.2.getD selectedEcs
      else [selectedEcs]

end UpstreamRuntime

/-- The queries that are sent. -/
def PreparedUpstreamQuery.sent (prepared : PreparedUpstreamQuery) : List CanonicalQuery :=
  match prepared.memberQueries with
  | none => [prepared.query]
  | some queries => queries.map (·.2)

/-- A strategy is safe for the fast key when no group that it can select has members with settings
of their own. -/
def fastCacheStrategies (config : ResolvedConfig) (upstreams : UpstreamRuntime) :
    Map ConfigId Bool :=
  config.strategies.foldl (fun strategies strategy =>
    strategies.insert strategy.id <|
      (strategy.defaultUpstream :: strategy.rules.filterMap (·.upstream)).all fun target =>
        !upstreams.hasMemberSpecificEcs target) ∅

/-- The part of a request that decides about its cache key. -/
structure DnsRequest where
  listenerId : ConfigId
  route : Option String
  clientId : Option String
  clientAddr : Option IpAddr
  query : CanonicalQuery
  cacheCompatibility : UInt64

def DnsRequest.policyRequest (request : DnsRequest) (qname : Resource.CanonicalDomain) :
    PolicyRequest :=
  ⟨request.listenerId, request.route, request.clientId, request.clientAddr, none, some qname⟩

def subnetBytes (subnet : ClientSubnet) : List UInt8 :=
  (match subnet.addr with
    | .v4 bits => 4 :: octets 4 bits.toNat
    | .v6 bits => 6 :: octets 16 bits.toNat) ++ [subnet.sourcePrefix, subnet.scopePrefix]

/-- What the keys of a request depend on besides the request; `semantics` is the fingerprint of the
policy for the context. -/
structure KeySetting where
  codec : WireCodec
  sha256 : List UInt8 → ClientCacheDigest
  fastCacheStrategies : Map ConfigId Bool
  context : PolicyContext
  semantics : CacheFingerprint

namespace KeySetting

variable (setting : KeySetting) (request : DnsRequest)

def cacheFingerprint (input : List UInt8) : CacheFingerprint :=
  ⟨(setting.sha256 input).bytes, (setting.sha256 input).length_eq⟩

def subnetCacheFingerprint (subnet : ClientSubnet) : CacheFingerprint :=
  setting.cacheFingerprint (subnetBytes subnet)

/-- The subnet that any rule may derive from the request. -/
def requestPolicyFingerprint : Option CacheFingerprint :=
  (requestSubnet request.query <|> request.clientAddr.map clientAddressSubnet).map
    setting.subnetCacheFingerprint

/-- The key before the rules are matched. -/
def fastCacheKey : Option CacheKey :=
  match setting.context.cache with
  | .disabled => none
  | .pool namespace_ _ _ _ =>
    (buildCacheKey setting.codec namespace_ (request.query.withEdnsClientSubnet none)
      request.cacheCompatibility ⟨.fast, some setting.semantics,
        setting.requestPolicyFingerprint request, none, none⟩).toOption

/-- The key of a query under its final setting. -/
def cacheKeyForQuery (upstream : ConfigId) (query : CanonicalQuery) : Option CacheKey :=
  match setting.context.cache with
  | .disabled => none
  | .pool namespace_ _ _ _ =>
    (buildCacheKey setting.codec namespace_ query request.cacheCompatibility ⟨.resolved,
      some setting.semantics, none, some (setting.cacheFingerprint (utf8 upstream.text)),
      query.ednsClientSubnet.map setting.subnetCacheFingerprint⟩).toOption

def fastCacheEligible : Bool :=
  (match setting.context.cache with
    | .disabled => false
    | .pool _ _ _ _ => true) &&
      (setting.fastCacheStrategies.lookup setting.context.strategy.id).getD false

/-- The key that is looked up before the rules are matched. -/
def fastKey : Option CacheKey :=
  if setting.fastCacheEligible then setting.fastCacheKey request else none

/-- The key under which the answer is stored; different queries of the members bypass the cache. -/
def preparedKey (upstreams : UpstreamRuntime) (upstream : ConfigId) (ecs : ResolvedEcs) :
    Option CacheKey :=
  let prepared := upstreams.prepareQuery upstream request.query ecs request.clientAddr
  if prepared.memberQueries.isSome then none
  else
    setting.fastKey request <|> setting.cacheKeyForQuery request upstream prepared.query

/-- The strategy has a fast key, and the query can be written into it. -/
def FastKeyed : Prop :=
  setting.fastCacheEligible = true ∧
    ∃ namespace_ answerTtl maxAge negativeMaxAge key,
      setting.context.cache = .pool namespace_ answerTtl maxAge negativeMaxAge ∧
      buildCacheKey setting.codec namespace_ (request.query.withEdnsClientSubnet none)
        request.cacheCompatibility ⟨.fast, some setting.semantics, none, none, none⟩ = .ok key

end KeySetting

theorem ednsClientSubnet_with (query : CanonicalQuery) (subnet : Option ClientSubnet) :
    (query.withEdnsClientSubnet subnet).ednsClientSubnet = subnet := by
  have cleared (read : EdnsOption → Option ClientSubnet)
      (other : ∀ code payload, read (.other code payload) = none) (options : List EdnsOption) :
      (options.filter (!·.isSubnet)).findSome? read = none := by
    rw [List.findSome?_eq_none_iff]
    intro option mem
    cases option with
    | subnet => simp [EdnsOption.isSubnet] at mem
    | other code payload => exact other code payload
  simp only [CanonicalQuery.ednsClientSubnet, CanonicalQuery.withEdnsClientSubnet]
  cases subnet <;> cases query.message.edns <;>
    simp [replaceClientSubnet, Edns.new, -List.findSome?_eq_none_iff, cleared]

theorem withEdnsClientSubnet_inj {query : CanonicalQuery} {left right : Option ClientSubnet} :
    query.withEdnsClientSubnet left = query.withEdnsClientSubnet right ↔ left = right := by
  refine ⟨fun same => ?_, congrArg _⟩
  rw [← ednsClientSubnet_with query left, same, ednsClientSubnet_with]

theorem clientAddressSubnet_mapped_ne (bits : BitVec 32) :
    clientAddressSubnet (.v4 bits) ≠ clientAddressSubnet (.v6 (toIpv6Mapped bits)) := by
  intro same
  cases congrArg ClientSubnet.sourcePrefix same

theorem buildCacheKey_request (codec : WireCodec) (namespace_ : CacheNamespace)
    (query : CanonicalQuery) (transport : UInt64) (dimensions : CacheKeyDimensions) :
    (∃ error, ∀ request, buildCacheKey codec namespace_ query transport
      { dimensions with request } = .error error) ∨
    ∃ before after, ∀ request, buildCacheKey codec namespace_ query transport
      { dimensions with request } = .ok
        ⟨namespace_, before ++ (encodeFingerprint request ++ after), cacheKeyFormatVersion⟩ := by
  simp only [buildCacheKey]
  cases codec.toVec query.message with
  | none => exact .inl ⟨_, fun _ => rfl⟩
  | some queryWire =>
    cases encodeKeyNamespace namespace_ with
    | error error => exact .inl ⟨_, fun _ => rfl⟩
    | ok namespaceBytes =>
      cases written : encodeComponent queryWire with
      | error error => exact .inl ⟨_, fun _ => by dsimp only; rw [written]; rfl⟩
      | ok queryBytes =>
        refine .inr ⟨[70, 68, 67, 75] ++ bigEndian 2 cacheKeyFormatVersion.toNat ++
          namespaceBytes ++ bigEndian 8 transport.toNat ++ [encodeMode dimensions.mode] ++
          encodeFingerprint dimensions.policy, encodeFingerprint dimensions.target ++
          (encodeFingerprint dimensions.ecs ++ queryBytes), fun request => ?_⟩
        dsimp only
        rw [written]
        simp only [List.append_assoc]
        rfl

theorem encodeFingerprint_inj {left right : CacheFingerprint} :
    encodeFingerprint (some left) = encodeFingerprint (some right) ↔ left = right := by
  refine ⟨fun same => ?_, fun same => by rw [same]⟩
  cases left
  cases same
  rfl

section Sent

variable {upstreams : UpstreamRuntime} {upstream : ConfigId} {query : CanonicalQuery}
  {ecs : ResolvedEcs} {left right : Option IpAddr}

/-- Queries that all carry the same subnet are sent as one. -/
def collapse : List CanonicalQuery → List CanonicalQuery
  | [] => []
  | first :: rest =>
    if rest.all fun query => query.ednsClientSubnet = first.ednsClientSubnet then [first]
    else first :: rest

theorem prepareQuery_sent (upstreams : UpstreamRuntime) (upstream : ConfigId)
    (query : CanonicalQuery) (ecs : ResolvedEcs) (addr : Option IpAddr) :
    let prepared := upstreams.prepareQuery upstream query ecs addr
    prepared.sent =
      collapse ((upstreams.ecsInUse upstream ecs).map (effectiveUpstreamQuery query · addr)) ∧
    (prepared.memberQueries.isSome ↔ prepared.sent.length ≠ 1) := by
  have one {query : CanonicalQuery} :
      (⟨query, none⟩ : PreparedUpstreamQuery).sent = collapse [query] ∧
      ((⟨query, none⟩ : PreparedUpstreamQuery).memberQueries.isSome ↔
        (⟨query, none⟩ : PreparedUpstreamQuery).sent.length ≠ 1) := by
    simp [PreparedUpstreamQuery.sent, collapse]
  simp only [UpstreamRuntime.prepareQuery, UpstreamRuntime.ecsInUse]
  split
  · exact one
  split
  · exact one
  split
  · next members _ _ =>
    cases members.entries with
    | nil => simp [PreparedUpstreamQuery.sent, collapse]
    | cons first rest =>
      simp only [List.map_cons, collapse, List.all_map, Function.comp_def]
      split
      · simp [PreparedUpstreamQuery.sent]
      · next differ =>
        have several : rest ≠ [] := by
          rintro rfl
          exact differ rfl
        simp [PreparedUpstreamQuery.sent, several]
  · exact one

theorem effectiveUpstreamQuery_eq {other : ResolvedEcs}
    (same : (effectiveUpstreamQuery query ecs left).ednsClientSubnet =
      (effectiveUpstreamQuery query other right).ednsClientSubnet) :
    effectiveUpstreamQuery query ecs left = effectiveUpstreamQuery query other right := by
  unfold effectiveUpstreamQuery at same ⊢
  rwa [ednsClientSubnet_with, ednsClientSubnet_with, ← withEdnsClientSubnet_inj] at same

/-- The queries sent for two addresses are the same when those under each setting are. -/
theorem sent_eq_iff : (upstreams.prepareQuery upstream query ecs left).sent =
      (upstreams.prepareQuery upstream query ecs right).sent ↔
    ∀ used ∈ upstreams.ecsInUse upstream ecs,
      effectiveUpstreamQuery query used left = effectiveUpstreamQuery query used right := by
  rw [(prepareQuery_sent ..).1, (prepareQuery_sent ..).1]
  refine ⟨fun same => ?_, fun same => by rw [List.map_congr_left same]⟩
  cases uses : upstreams.ecsInUse upstream ecs with
  | nil => simp
  | cons first rest =>
    simp only [uses, List.map_cons, collapse, List.all_map, Function.comp_def] at same
    -- a list that is not collapsed has a second query
    split at same <;> split at same
    · next left_same right_same =>
      simp only [List.all_eq_true, decide_eq_true_eq] at left_same right_same
      obtain ⟨firsts⟩ := List.cons.inj same
      rw [List.forall_mem_cons]
      refine ⟨firsts, fun used mem => effectiveUpstreamQuery_eq ?_⟩
      rw [left_same used mem, right_same used mem, firsts]
    · next right_differ =>
      cases rest with
      | nil => exact absurd rfl right_differ
      | cons => simp at same
    · next left_differ _ =>
      cases rest with
      | nil => exact absurd rfl left_differ
      | cons => simp at same
    · exact List.map_inj_left.mp same

theorem effectiveUpstreamQuery_mapped_iff {bits : BitVec 32} :
    effectiveUpstreamQuery query ecs (some (.v4 bits)) =
        effectiveUpstreamQuery query ecs (some (.v6 (toIpv6Mapped bits))) ↔
      (requestSubnet query).isSome ∨ ecs.mode ≠ .client := by
  cases mode : ecs.mode with
  | disabled | custom => simp [effectiveUpstreamQuery, mode]
  | client =>
    cases given : requestSubnet query with
    | some subnet => simp [effectiveUpstreamQuery, mode, given]
    | none =>
      simp [effectiveUpstreamQuery, mode, given, withEdnsClientSubnet_inj,
        clientAddressSubnet_mapped_ne]

end Sent

namespace KeySetting

variable (setting : KeySetting) (request : DnsRequest) (bits : BitVec 32)

theorem fastKey_mapped_iff : setting.fastKey { request with clientAddr := some (.v4 bits) } =
        setting.fastKey { request with clientAddr := some (.v6 (toIpv6Mapped bits)) } ↔
      (requestSubnet request.query).isSome ∨ (setting.FastKeyed request →
        setting.subnetCacheFingerprint (clientAddressSubnet (.v4 bits)) =
          setting.subnetCacheFingerprint (clientAddressSubnet (.v6 (toIpv6Mapped bits)))) := by
  cases eligible : setting.fastCacheEligible with
  | false => simp [fastKey, FastKeyed, eligible]
  | true =>
    cases cache : setting.context.cache with
    | disabled => simp [fastKey, FastKeyed, eligible, cache, fastCacheKey]
    | pool namespace_ answerTtl maxAge negativeMaxAge =>
      cases given : requestSubnet request.query with
      | some subnet =>
        simp [fastKey, eligible, cache, fastCacheKey, requestPolicyFingerprint, given]
      | none =>
        rcases buildCacheKey_request setting.codec namespace_
          (request.query.withEdnsClientSubnet none) request.cacheCompatibility
          ⟨.fast, some setting.semantics, none, none, none⟩ with
          ⟨error, failed⟩ | ⟨before, after, built⟩
        · simp [fastKey, FastKeyed, eligible, cache, fastCacheKey, failed, Except.toOption]
        · simp [fastKey, FastKeyed, eligible, cache, fastCacheKey, requestPolicyFingerprint, given,
            built, Except.toOption, encodeFingerprint_inj]

/-- The stored key follows from the queries that are sent and from the fast key. -/
theorem preparedKey_eq {upstreams : UpstreamRuntime} {upstream : ConfigId} {ecs : ResolvedEcs}
    {left right : Option IpAddr}
    (sent : (upstreams.prepareQuery upstream request.query ecs left).sent =
      (upstreams.prepareQuery upstream request.query ecs right).sent)
    (fast : setting.fastKey { request with clientAddr := left } =
      setting.fastKey { request with clientAddr := right }) :
    setting.preparedKey { request with clientAddr := left } upstreams upstream ecs =
      setting.preparedKey { request with clientAddr := right } upstreams upstream ecs := by
  have left_iff := (prepareQuery_sent upstreams upstream request.query ecs left).2
  have right_iff := (prepareQuery_sent upstreams upstream request.query ecs right).2
  rw [sent, ← right_iff] at left_iff
  simp only [preparedKey, left_iff, fast]
  split
  · rfl
  · next single =>
    have left_single := Option.not_isSome_iff_eq_none.mp (mt left_iff.mp single)
    have right_single := Option.not_isSome_iff_eq_none.mp single
    simp only [PreparedUpstreamQuery.sent, left_single, right_single, List.cons.injEq] at sent
    rw [sent.1]
    rfl

end KeySetting

/-- The matched client, its digest and the policy context are the same for both forms of an
address.  The queries that are sent and both cache keys are the same exactly when the query has a
subnet of its own, or when no setting in use derives one from the address and no fast key hashes
one that differs. -/
theorem mapped_client_iff (index : PolicyIndex) (config : ResolvedConfig)
    (upstreams : UpstreamRuntime) (keys : KeySetting) (request : DnsRequest)
    (qname : Resource.CanonicalDomain) (bits : BitVec 32) :
    let setting := { keys with fastCacheStrategies := fastCacheStrategies config upstreams }
    let plain := { request with clientAddr := some (.v4 bits) }
    let mapped := { request with clientAddr := some (.v6 (toIpv6Mapped bits)) }
    index.clients.matchClient plain.clientId plain.clientAddr =
      index.clients.matchClient mapped.clientId mapped.clientAddr ∧
    (∀ client : ClientMatch, client.cacheDigest keys.sha256 plain.clientId plain.clientAddr =
      client.cacheDigest keys.sha256 mapped.clientId mapped.clientAddr) ∧
    index.prepareContext keys.sha256 (plain.policyRequest qname) =
      index.prepareContext keys.sha256 (mapped.policyRequest qname) ∧
    ∀ (upstream : ConfigId) (ecs : ResolvedEcs),
      ((upstreams.prepareQuery upstream request.query ecs plain.clientAddr).sent =
          (upstreams.prepareQuery upstream request.query ecs mapped.clientAddr).sent ∧
        setting.fastKey plain = setting.fastKey mapped ∧
        setting.preparedKey plain upstreams upstream ecs =
          setting.preparedKey mapped upstreams upstream ecs) ↔
      (requestSubnet request.query).isSome ∨
        (∀ used ∈ upstreams.ecsInUse upstream ecs, used.mode ≠ .client) ∧
        (setting.FastKeyed request →
          setting.subnetCacheFingerprint (clientAddressSubnet (.v4 bits)) =
            setting.subnetCacheFingerprint (clientAddressSubnet (.v6 (toIpv6Mapped bits)))) := by
  intro setting plain mapped
  have normalized :
      normalizeClientAddr (.v6 (toIpv6Mapped bits)) = normalizeClientAddr (.v4 bits) :=
    normalizeClientAddr_mapped bits
  have matched : index.clients.matchClient plain.clientId plain.clientAddr =
      index.clients.matchClient mapped.clientId mapped.clientAddr := by
    simp only [plain, mapped, ClientIndex.matchClient, Option.map_some, normalized]
  have digests (client : ClientMatch) :
      client.cacheDigest keys.sha256 plain.clientId plain.clientAddr =
      client.cacheDigest keys.sha256 mapped.clientId mapped.clientAddr := by
    have inputs : client.digestInput plain.clientId plain.clientAddr =
        client.digestInput mapped.clientId mapped.clientAddr := by
      cases client with
      | unknown => rfl
      | matched rule kind =>
        cases kind with
        | exactId => cases request.clientId <;> rfl
        | cidr prefixLen => simp only [plain, mapped, digestInput, normalized]
    rw [cacheDigest, cacheDigest, inputs]
  refine ⟨matched, digests, ?_, fun upstream ecs => ?_⟩
  · simp only [PolicyIndex.prepareContext, DnsRequest.policyRequest, matched, digests]
    rfl
  · have sent_iff : (upstreams.prepareQuery upstream request.query ecs plain.clientAddr).sent =
          (upstreams.prepareQuery upstream request.query ecs mapped.clientAddr).sent ↔
        (requestSubnet request.query).isSome ∨
          ∀ used ∈ upstreams.ecsInUse upstream ecs, used.mode ≠ .client := by
      simp only [plain, mapped, sent_eq_iff, effectiveUpstreamQuery_mapped_iff]
      by_cases own : (requestSubnet request.query).isSome = true <;> simp [own]
    rw [or_and_left, ← sent_iff, ← setting.fastKey_mapped_iff]
    exact ⟨fun same => ⟨same.1, same.2.1⟩, fun same =>
      ⟨same.1, same.2, setting.preparedKey_eq request same.1 same.2⟩⟩

namespace MappedClient

/-- `192.0.2.8` -/
def bits : BitVec 32 := 0xc0000208#32

/-- An endpoint that trusts the PROXY protocol of `127.0.0.1`. -/
def endpoint : ClientIpDto := ⟨.proxyProtocol, none, some [.v4 0x7f000001#32 32], none, none⟩

def clientEcs : ResolvedEcs := ⟨.client, none, .upstream⟩

def upstream : ConfigId := ⟨"group", by decide, by decide, by decide⟩

/-- A group with one member, which has a setting of its own. -/
def group : UpstreamRuntime :=
  ⟨AList.singleton upstream (AList.singleton ⟨"member", by decide, by decide, by decide⟩
    (some clientEcs))⟩

/-- The subnets that are sent for an address, under a setting for the upstream. -/
def subnets (ecs : ResolvedEcs) (addr : IpAddr) : List (Option ClientSubnet) :=
  (group.prepareQuery upstream (sampleLongQuery 0) ecs (some addr)).sent.map (·.ednsClientSubnet)

end MappedClient

open MappedClient in
/-- A client behind a proxy: its subnet is `192.0.2.0/24`, but that of its mapped address is
`::/56`, for all mapped addresses alike, whether the setting is the one of the strategy or the one
of a member. -/
theorem mapped_client_loses_subnet :
    resolveClientIp endpoint (.v4 0x7f000001#32) none (some (.v6 (toIpv6Mapped bits))) =
      .ok (.v6 (toIpv6Mapped bits)) ∧
    normalizeClientAddr (.v6 (toIpv6Mapped bits)) = .v4 bits ∧
    (∀ ecs ∈ ([⟨.client, none, .strategy⟩, ⟨.disabled, none, .global⟩] : List ResolvedEcs),
      subnets ecs (.v4 bits) = [some ⟨.v4 0xc0000200#32, 24, 0⟩] ∧
      subnets ecs (.v6 (toIpv6Mapped bits)) = [some ⟨.v6 0, 56, 0⟩]) ∧
    subnetBytes (clientAddressSubnet (.v4 bits)) ≠
      subnetBytes (clientAddressSubnet (.v6 (toIpv6Mapped bits))) := by
  decide +kernel

end FluxDns.Policy
