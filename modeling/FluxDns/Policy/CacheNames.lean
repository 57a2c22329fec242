import FluxDns.Library.Utf8
import FluxDns.Config.Accepted
import FluxDns.Policy.Selectors

/-!
# Strategy names as cache namespaces

A cache pool that belongs to a strategy is named after it, but the names of pools follow a narrower
grammar than the names of a configuration.  A request fails for this reason exactly when its pool is
named after a strategy outside of that grammar.
-/

namespace FluxDns.Policy

open Config Resource ByteReader Traversal PolicyIndex List AList
open Cache (CacheStrategyId ClientCacheDigest isNamespaceByte isAsciiAlphanumeric)

variable {char : Char} {error : PolicyError}

variable (valid : isIdentifierChar char = true)

include valid

theorem toNat_lt_of_isIdentifierChar : char.toNat < 128 := by
  simp only [isIdentifierChar, Char.isAlphanum] at valid
  delta Char.isAlpha Char.isUpper Char.isLower at valid
  simp only [Char.isDigit, Bool.or_eq_true, Bool.and_eq_true, decide_eq_true_eq, beq_iff_eq,
    ge_iff_le, UInt32.le_iff_toNat_le] at valid
  rcases valid with (((((upper | lower) | digit) | rfl) | rfl) | rfl) | rfl
  · exact upper.2.trans_lt (by decide)
  · exact lower.2.trans_lt (by decide)
  · exact digit.2.trans_lt (by decide)
  all_goals decide

/-- On the characters of identifiers the two grammars differ in one character. -/
theorem isNamespaceByte_ofNat : isNamespaceByte (UInt8.ofNat char.toNat) = decide (char ≠ '!') := by
  have small := toNat_lt_of_isIdentifierChar valid
  have all : ∀ code : Fin 128, isIdentifierChar (Char.ofNat code.val) = true →
      isNamespaceByte (UInt8.ofNat code.val) = decide (Char.ofNat code.val ≠ '!') := by
    decide +kernel
  have found := all ⟨char.toNat, small⟩
  rw [Char.ofNat_toNat] at found
  exact found valid

theorem utf8EncodeChar_of_isIdentifierChar :
    String.utf8EncodeChar char = [UInt8.ofNat char.toNat] := by
  have small := toNat_lt_of_isIdentifierChar valid
  exact if_pos (Nat.le_of_lt_succ small)

omit valid

theorem utf8_text (id : ConfigId) :
    utf8 id.text = id.text.toList.map fun char => UInt8.ofNat char.toNat := by
  rw [utf8, Utf8.toList_toUTF8, map_eq_flatMap]
  apply flatMap_congr
  intro char mem
  exact utf8EncodeChar_of_isIdentifierChar (all_eq_true.mp id.valid char mem)

/-- A name of a configuration is no name of a pool when it is too long or has an exclamation
mark. -/
def outsideNamespace (id : ConfigId) : Bool :=
  decide (64 < id.text.utf8ByteSize) || decide ('!' ∈ id.text.toList)

theorem fromValidatedConfigId_eq_none_iff (id : ConfigId) :
    CacheStrategyId.fromValidatedConfigId (utf8 id.text) = none ↔ outsideNamespace id = true := by
  have size_eq : (utf8 id.text).length = id.text.utf8ByteSize := Utf8.length_toList_toUTF8 id.text
  have nonempty : utf8 id.text ≠ [] := by
    intro empty
    rw [empty] at size_eq
    exact id.nonempty size_eq.symm
  have valid_iff : (utf8 id.text).all isNamespaceByte = true ↔ '!' ∉ id.text.toList := by
    rw [utf8_text, all_eq_true]
    constructor
    · intro all_valid marked
      have accepted := all_valid _ (mem_map_of_mem marked)
      rw [isNamespaceByte_ofNat (all_eq_true.mp id.valid _ marked)] at accepted
      simp at accepted
    · intro absent byte mem
      obtain ⟨char, char_mem, rfl⟩ := mem_map.mp mem
      rw [isNamespaceByte_ofNat (all_eq_true.mp id.valid char char_mem), decide_eq_true_eq]
      rintro rfl
      exact absent char_mem
  rw [CacheStrategyId.fromValidatedConfigId, dif_pos nonempty]
  simp only [outsideNamespace, Bool.or_eq_true, decide_eq_true_eq, ← size_eq]
  by_cases short : (utf8 id.text).length ≤ 64
  · rw [dif_pos short]
    by_cases valid : (utf8 id.text).all isNamespaceByte = true
    · rw [dif_pos valid]
      have absent := valid_iff.mp valid
      simp [absent, short]
    · rw [dif_neg valid]
      have marked : '!' ∈ id.text.toList := by
        by_contra absent
        exact valid (valid_iff.mpr absent)
      simp [marked]
  · simp [not_le.mp short]

theorem strategyNamespace_error_iff {strategy : ResolvedStrategy} :
    strategyNamespace strategy = .error error ↔
      error = .cacheStrategyIdInvalid strategy.id ∧ outsideNamespace strategy.id = true := by
  rw [← fromValidatedConfigId_eq_none_iff, strategyNamespace]
  cases CacheStrategyId.fromValidatedConfigId (utf8 strategy.id.text) with
  | some id => simp
  | none => simp [eq_comm]

/-- The selected pool is named after the strategy: an enabled pool of a known client, or of the
strategy when the client sets none. -/
def namedAfterStrategy (client : Option ResolvedClient) (strategy : ResolvedStrategy)
    (digest : Option ClientCacheDigest) : Bool :=
  match client.bind (·.cache) with
  | some cache => cache.enabled && digest.isSome
  | none => strategy.cache.any (·.enabled)

theorem selectCache_error_iff {globalCache : ResolvedGlobalCache} {client : Option ResolvedClient}
    {strategy : ResolvedStrategy} {digest : Option ClientCacheDigest} :
    selectCache globalCache client strategy digest = .error error ↔
      namedAfterStrategy client strategy digest = true ∧
        strategyNamespace strategy = .error error := by
  rw [selectCache, namedAfterStrategy]
  cases client.bind (·.cache) with
  | some cache =>
    cases enabled : cache.enabled with
    | false => simp [enabled]
    | true =>
      cases digest with
      | none => simp [enabled]
      | some digest =>
        cases strategyNamespace strategy <;> simp [enabled, bind, Except.bind, pure, Except.pure]
  | none =>
    cases written : strategy.cache with
    | none => cases globalCache.enabled <;> simp
    | some cache =>
      cases enabled : cache.enabled with
      | false => simp [enabled]
      | true =>
        cases strategyNamespace strategy <;> simp [enabled, bind, Except.bind, pure, Except.pure]

namespace PolicyIndex

variable (index : PolicyIndex)

def requestClient (request : PolicyRequest) : Option ResolvedClient :=
  index.clientConfig (index.clients.matchClient request.clientId request.clientAddr)

def requestDigest (sha256 : List UInt8 → ClientCacheDigest) (index : PolicyIndex)
    (request : PolicyRequest) : Option ClientCacheDigest :=
  request.clientDigest <|>
    (index.clients.matchClient request.clientId request.clientAddr).cacheDigest sha256
      request.clientId request.clientAddr

theorem selectRouting_ne_cacheStrategyIdInvalid (request : PolicyRequest) (id : ConfigId) :
    index.selectRouting request ≠ .error (.cacheStrategyIdInvalid id) := by
  rw [selectRouting]
  split
  · split <;> simp
  · cases index.routes.selectStream request.listenerId <;> simp [Except.mapError]

theorem selectStrategy_ne_cacheStrategyIdInvalid (routing : RouteSelection)
    (client : Option ResolvedClient) (id : ConfigId) :
    index.selectStrategy routing client ≠ .error (.cacheStrategyIdInvalid id) := by
  unfold selectStrategy
  split
  · split
    · split <;> simp
    · simp
  · simp

theorem prepareContext_error_iff {sha256 : List UInt8 → ClientCacheDigest} {index : PolicyIndex}
    {request : PolicyRequest} {id : ConfigId} :
    index.prepareContext sha256 request = .error (.cacheStrategyIdInvalid id) ↔
      ∃ routing strategy, index.selectRouting request = .ok routing ∧
        index.selectStrategy routing (index.requestClient request) = .ok strategy ∧
        selectCache index.globalCache (index.requestClient request) strategy
          (index.requestDigest sha256 request) = .error (.cacheStrategyIdInvalid id) := by
  rw [prepareContext]
  constructor
  · intro failed
    rcases bind_eq_error failed with early | ⟨routing, routed, failed⟩
    · exact (index.selectRouting_ne_cacheStrategyIdInvalid request id early).elim
    · rcases bind_eq_error failed with early | ⟨strategy, selected, failed⟩
      · exact (index.selectStrategy_ne_cacheStrategyIdInvalid routing _ id early).elim
      · refine ⟨routing, strategy, routed, selected, ?_⟩
        rcases bind_eq_error failed with refused | ⟨cache, _, done⟩
        · exact refused
        · cases done
  · rintro ⟨routing, strategy, routed, selected, refused⟩
    rw [routed]
    simp only [requestClient] at selected refused
    simp only [ok_bind, selected]
    have refused' := refused
    rw [requestDigest] at refused'
    rw [refused']
    rfl

end PolicyIndex

/-- With an accepted configuration a request fails because of an invalid cache namespace exactly
when it reaches a strategy of the configuration whose name is longer than 64 octets or has an
exclamation mark, and the pool that it would use is named after that strategy. -/
theorem namespace_error_iff (parseUrl : String → Option UrlParts) (resolvePath : String → String)
    (config : ConfigV2 SectionsV2) (resolved : ResolvedConfig)
    (valid : config.validate parseUrl = [])
    (resolves : resolveConfig resolvePath config.forRequests = some resolved)
    (loader : ResourceLoader) (hosts : Map ConfigId HostsIndex)
    (rules : Map ConfigId RuleIndex) (index : PolicyIndex)
    (prepared : fromConfig loader resolved hosts rules = .ok index)
    (sha256 : List UInt8 → ClientCacheDigest) (request : PolicyRequest) :
    (∃ id, index.prepareContext sha256 request = .error (.cacheStrategyIdInvalid id)) ↔
      ∃ routing strategy, index.selectRouting request = .ok routing ∧
        index.selectStrategy routing (index.requestClient request) = .ok strategy ∧
        (∃ written ∈ config.strategy, written.name = strategy.id.text ∧
          ∃ path, validateName written.name path = []) ∧
        namedAfterStrategy (index.requestClient request) strategy
          (index.requestDigest sha256 request) = true ∧
        (64 < strategy.id.text.utf8ByteSize ∨ '!' ∈ strategy.id.text.toList) := by
  have outside_iff (id : ConfigId) : outsideNamespace id = true ↔
      64 < id.text.utf8ByteSize ∨ '!' ∈ id.text.toList := by
    simp [outsideNamespace]
  simp only [prepareContext_error_iff, selectCache_error_iff,
    strategyNamespace_error_iff, ← outside_iff]
  constructor
  · rintro ⟨id, routing, strategy, routed, selected, named, _, outside⟩
    refine ⟨routing, strategy, routed, selected, ?_, named, outside⟩
    obtain ⟨id, found⟩ := selectStrategy_lookup routed selected
    obtain ⟨written, written_mem, written_eq⟩ :=
      exists_source_of_mem (strategies_of_resolveConfig resolves).1
        (strategy_mem_of_lookup (fromConfig_ok prepared).2.2 found)
    obtain ⟨path, name_valid, _⟩ :=
      (of_validateEntities (accepted_of_validate valid).strategies).2 written written_mem
    exact ⟨written, written_mem, (fields_of_resolveStrategy written_eq).1.symm, _, name_valid⟩
  · rintro ⟨routing, strategy, routed, selected, _, named, outside⟩
    exact ⟨strategy.id, routing, strategy, routed, selected, named, rfl, outside⟩

namespace MarkedStrategy

def main : ConfigId := ⟨"main!", by decide, by decide, by decide⟩
def udp : ConfigId := GeoRefresh.listener
def localId : ConfigId := GeoRefresh.upstream
def static : ConfigId := ⟨"static", by decide, by decide, by decide⟩

/-- One listener, whose strategy `main!` has a cache pool of its own. -/
def config : ConfigV2 SectionsV2 :=
  { Sample.config with
    listener := [.udp "udp" [.v4 0x7f000001#32] 53 "main!" none]
    strategy := [{ Sample.strategy with name := "main!", cache := some ⟨some true, none⟩ }] }

theorem accepted : config.validate Sample.parseUrl = [] := by
  decide +kernel

def noEcs : ResolvedEcs := ⟨.disabled, none, .default⟩

def strategy : ResolvedStrategy where
  id := main
  rules := [⟨none, some static, none, noEcs⟩]
  defaultUpstream := localId
  cache := some ⟨true, some ⟨false, 10 * second, 86400 * second, 300 * second⟩, .strategy⟩
  ttlOverride := ⟨false, none, none, .default⟩
  ednsClientSubnet := noEcs

def resolved : ResolvedConfig where
  dns := resolveDns ⟨none, none, none⟩
  listeners := [.udp udp [.v4 0x7f000001#32] 53 main none]
  upstreams := [.hosts localId "hosts" "127.0.0.1 localhost"]
  strategies := [strategy]
  hosts := [.const static .hosts "127.0.0.1 localhost"]
  outbounds := []
  ruleSets := []
  clients := []

theorem resolves : resolveConfig id config.forRequests = some resolved := by
  decide +kernel

/-- A loader that finds no names in any resource. -/
def loader : ResourceLoader := ⟨fun _ => .ok ⟨∅, ∅⟩, fun _ => .error ""⟩

def index : PolicyIndex where
  routes := ⟨singleton main strategy, singleton udp (.stream main none)⟩
  clients := .empty
  clientConfigs := ∅
  upstreamEcs := ∅
  globalCache := (resolveDns ⟨none, none, none⟩).cache
  hosts := singleton static ⟨∅, ∅⟩
  ruleSets := ∅

theorem prepared : fromConfig loader resolved ∅ ∅ = .ok index := by
  rfl

def sha256 (input : List UInt8) : ClientCacheDigest := GeoRefresh.sha256 input

def request : PolicyRequest := ⟨udp, none, none, none, none, some ⟨"example.com"⟩⟩

end MarkedStrategy

open MarkedStrategy in
/-- A request to the listener of the strategy `main!` meets the condition. -/
theorem namespace_error_marked :
    ∃ id, index.prepareContext sha256 request = .error (.cacheStrategyIdInvalid id) := by
  rw [namespace_error_iff Sample.parseUrl id config resolved accepted resolves loader ∅ ∅ index
    prepared sha256 request]
  refine ⟨⟨udp, none, strategy, none⟩, strategy, rfl, rfl, ?_, rfl, .inr (by decide)⟩
  exact ⟨_, mem_cons_self, rfl, "", by decide⟩

open MarkedStrategy in
/-- Every query of an accepted configuration fails. -/
theorem marked_strategy_fails : config.validate Sample.parseUrl = [] ∧
      resolveConfig id config.forRequests = some resolved ∧
      fromConfig loader resolved ∅ ∅ = .ok index ∧
      index.selectRouting request = .ok ⟨udp, none, strategy, none⟩ ∧
      index.prepareContext sha256 request = .error (.cacheStrategyIdInvalid main) := by
  refine ⟨accepted, resolves, prepared, rfl, prepareContext_error_iff.mpr ?_⟩
  refine ⟨⟨udp, none, strategy, none⟩, strategy, rfl, rfl, selectCache_error_iff.mpr ⟨rfl, ?_⟩⟩
  exact strategyNamespace_error_iff.mpr ⟨rfl, by decide⟩

end FluxDns.Policy
