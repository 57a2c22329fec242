import FluxDns.Dns.Message
import FluxDns.Ports

/-!
# Cache keys, entries and records

The data that crosses the cache port: validated identifiers, keys, entries with their retention
deadline, versioned records, and the terminal states of a shared load.
-/

namespace FluxDns.Cache

def isAsciiAlphanumeric (byte : UInt8) : Bool :=
  (48 ≤ byte && byte ≤ 57) || (65 ≤ byte && byte ≤ 90) || (97 ≤ byte && byte ≤ 122)

/-- Bytes allowed in a namespace identifier. -/
def isNamespaceByte (byte : UInt8) : Bool :=
  isAsciiAlphanumeric byte || byte == 45 || byte == 95 || byte == 46

/-- A strategy identifier that passed `validateNamespaceId` with lengths from 1 to 64. -/
structure CacheStrategyId where
  bytes : List UInt8
  nonempty : bytes ≠ []
  length_le : bytes.length ≤ 64
  valid : bytes.all isNamespaceByte = true
  deriving DecidableEq

/-- `CacheStrategyId::from_validated_config_id` on the octets of a string. -/
def CacheStrategyId.fromValidatedConfigId (bytes : List UInt8) : Option CacheStrategyId :=
  if nonempty : bytes ≠ [] then
    if length_le : bytes.length ≤ 64 then
      if valid : bytes.all isNamespaceByte = true then some ⟨bytes, nonempty, length_le, valid⟩
      else none
    else none
  else none

/-- An irreversible digest of a client. -/
structure ClientCacheDigest where
  bytes : List UInt8
  length_eq : bytes.length = 32
  deriving DecidableEq

inductive CacheNamespace where
  | global
  | strategy (id : CacheStrategyId)
  | clientStrategy (clientDigest : ClientCacheDigest) (strategy : CacheStrategyId)
  deriving DecidableEq

/-- Bytes allowed in an upstream identifier. -/
def isUpstreamByte (byte : UInt8) : Bool := isNamespaceByte byte || byte == 33

/-- An upstream identifier that came from a validated configuration. -/
structure CacheUpstreamId where
  bytes : List UInt8
  nonempty : bytes ≠ []
  length_le : bytes.length ≤ 128
  valid : bytes.all isUpstreamByte = true
  deriving DecidableEq

/-- `CacheUpstreamId::from_validated_config_id` on the octets of a string. -/
def CacheUpstreamId.fromValidatedConfigId (bytes : List UInt8) : Option CacheUpstreamId :=
  if nonempty : bytes ≠ [] then
    if length_le : bytes.length ≤ 128 then
      if valid : bytes.all isUpstreamByte = true then some ⟨bytes, nonempty, length_le, valid⟩
      else none
    else none
  else none

/-- The upstream target that produced a response and the member that was used. -/
structure CacheUpstreamProvenance where
  targetId : CacheUpstreamId
  usedId : Option CacheUpstreamId
  deriving DecidableEq

def sampleUpstream : CacheUpstreamProvenance := ⟨⟨[117], by decide, by decide, by decide⟩, none⟩

/-- A key of the cache, encoded within its namespace. -/
structure CacheKey where
  namespace_ : CacheNamespace
  encoded : List UInt8
  formatVersion : UInt16
  deriving DecidableEq

def cacheEntryFormatVersion : UInt16 := 2

inductive CacheQuality where
  | failure
  | negative
  | complete
  deriving DecidableEq

/-- The order of qualities, as their discriminants in the source. -/
def CacheQuality.rank : CacheQuality → Nat
  | .failure => 0
  | .negative => 1
  | .complete => 2

inductive CacheResponseClass where
  | noError
  | noData
  | nxDomain
  | servFail
  | truncated
  deriving DecidableEq

/-- A response with its lifetimes and where it comes from. -/
structure CacheEntry where
  response : CanonicalResponse
  upstream : CacheUpstreamProvenance
  insertedAt : Instant
  expiresAt : Instant
  staleUntil : Option Instant
  responseClass : CacheResponseClass
  producerRevision : UInt64
  quality : CacheQuality
  checksum : UInt64
  formatVersion : UInt16
  deriving DecidableEq

/-- How long an entry stays observable after it stopped being answerable. -/
def expiredEntryRetention : Duration := 60 * second

/-- The end of the window in which an entry may answer. -/
def CacheEntry.answerableUntil (entry : CacheEntry) : Instant :=
  match entry.staleUntil with
  | none => entry.expiresAt
  | some staleUntil => max entry.expiresAt staleUntil

/-- The instant from which a store treats the entry as absent. -/
def CacheEntry.retentionDeadline (entry : CacheEntry) : Instant :=
  (Instant.checkedAdd entry.answerableUntil expiredEntryRetention).getD entry.answerableUntil

/-- A stored entry with the version that its writer was told. -/
structure CacheRecord where
  version : UInt64
  entry : CacheEntry
  deriving DecidableEq

variable (record : CacheRecord) (now : Instant)

/-- Store visibility only depends on the retention deadline. -/
def CacheRecord.isVisible : Bool :=
  decide (now < record.entry.retentionDeadline)

/-- An entry may answer before it expires, or inside its stale window. -/
def CacheRecord.isAnswerable : Bool :=
  decide (now < record.entry.expiresAt) || record.entry.staleUntil.any fun staleUntil =>
    decide (now < staleUntil)

def CacheRecord.isFresh : Bool :=
  decide (now < record.entry.expiresAt)

/-- What a conditional write expects to find. -/
inductive CacheCondition where
  | absent
  | version (version : UInt64)

def CacheCondition.holds (condition : CacheCondition) (current : Option UInt64) : Bool :=
  match condition with
  | .absent => current.isNone
  | .version expected => current == some expected

inductive CacheWriteOutcome where
  | inserted (version : UInt64)
  | replaced (version : UInt64)
  | conflict (current : Option UInt64)
  | rejectedQuality

/-- The scope of an explicit invalidation. -/
inductive CacheInvalidation where
  | exact (key : CacheKey)
  | namespace_ (namespace_ : CacheNamespace)
  | producerRevision (namespace_ : CacheNamespace) (revision : UInt64)
  | all

def CacheInvalidation.matches (scope : CacheInvalidation) (key : CacheKey) (entry : CacheEntry) :
    Bool :=
  match scope with
  | .exact expected => expected == key
  | .namespace_ expected => expected == key.namespace_
  | .producerRevision expected revision =>
    expected == key.namespace_ && entry.producerRevision == revision
  | .all => true

/-- A load failure that can be handed to every follower. -/
inductive CacheLoadFailure where
  | abandoned
  | timeout
  | cancelled (reason : CancelReason)
  | unavailable
  | resourceExhausted
  | internal
  deriving DecidableEq

/-- The terminal state of a load. -/
inductive CacheLoadCompletion where
  | ready (record : CacheRecord)
  | miss
  | failed (failure : CacheLoadFailure)
  deriving DecidableEq

end FluxDns.Cache
