import FluxDns.Library.ByteReader
import FluxDns.Cache.Admission

/-!
# The record codec of cache snapshots

`encode_record` and `decode_record` with every clock reading made explicit.  Instants are stored as
an age and as wall-clock times, since they do not survive the process.
-/

namespace FluxDns.Cache.Codec

open ByteReader Instant

inductive CodecError where
  | corrupt
  | incompatible
  | resourceExhausted
  deriving DecidableEq

def maxComponentBytes : Nat := 64 * 1024
def maxUpstreamIdBytes : Nat := 128
def maxDnsWireBytes : Nat := 65535

def cacheKeyFormatVersion : UInt16 := 2

/-- A duration in nanoseconds as a `u64`, its largest value when it does not fit. -/
def durationNanos (duration : Duration) : Nat := min duration (u64Size - 1)

/-- The wall clock as a `u64`; a reading before the epoch is zero. -/
def systemTimeNanos (wall : Nat) : Nat := durationNanos wall

/-- The wall-clock time of an instant, from a reading of both clocks. -/
def unixNanosForInstant (at_ reference : Instant) (wall : Nat) : Nat :=
  min (systemTimeNanos wall + durationNanos (saturatingDurationSince at_ reference))
    (u64Size - 1)

/-- The instant of a wall-clock time; a time that has passed becomes the reference itself. -/
def instantFromUnixNanos (value : Nat) (reference : Instant) (wall : Nat) : Option Instant :=
  if value ≤ systemTimeNanos wall then some reference
  else checkedAdd reference (value - systemTimeNanos wall)

/-- The readings of the wall clock in one call, for the expiry and for the stale window. -/
structure WallReadings where
  expires : Nat
  stale : Nat

def putU16 (value : UInt16) : List UInt8 := bigEndian 2 value.toNat
def putU32 (value : Nat) : List UInt8 := bigEndian 4 value
def putU64 (value : Nat) : List UInt8 := bigEndian 8 value

def putBytes (value : List UInt8) (maximum : Nat) : Except CodecError (List UInt8) :=
  if value.length < u32Size ∧ value.length ≤ maximum then .ok (putU32 value.length ++ value)
  else .error .resourceExhausted

def encodeNamespace : CacheNamespace → Except CodecError (List UInt8)
  | .global => .ok [0]
  | .strategy strategy => do return 1 :: (← putBytes strategy.bytes maxComponentBytes)
  | .clientStrategy digest strategy => do
      return 2 :: digest.bytes ++ (← putBytes strategy.bytes maxComponentBytes)

def encodeQuality (quality : CacheQuality) : UInt8 := UInt8.ofNat quality.rank

def encodeResponseClass : CacheResponseClass → UInt8
  | .noError => 0
  | .noData => 1
  | .nxDomain => 2
  | .servFail => 3
  | .truncated => 4

/-- The stale window is only written while it lies ahead. -/
def encodeStale (staleUntil : Option Instant) (now : Instant) (wall : Nat) : List UInt8 :=
  match staleUntil with
  | some until_ => if now < until_ then 1 :: putU64 (unixNanosForInstant until_ now wall) else [0]
  | none => [0]

def encodeUsed : Option CacheUpstreamId → Except CodecError (List UInt8)
  | some used => do return 1 :: (← putBytes used.bytes maxUpstreamIdBytes)
  | none => .ok [0]

/-- The fields of fixed width between the key and the stale window. -/
def encodeNumbers (record : CacheRecord) (now : Instant) (wall : Nat) : List UInt8 :=
  putU64 record.version.toNat ++ putU16 record.entry.formatVersion ++
    putU64 record.entry.producerRevision.toNat ++
    [encodeQuality record.entry.quality, encodeResponseClass record.entry.responseClass] ++
    putU64 record.entry.checksum.toNat ++
    putU64 (durationNanos (saturatingDurationSince now record.entry.insertedAt)) ++
    putU64 (unixNanosForInstant record.entry.expiresAt now wall)

variable (codec : WireCodec)

def encodeRecord (key : CacheKey) (record : CacheRecord) (now : Instant)
    (walls : WallReadings) : Except CodecError (List UInt8) :=
  match codec.toVec record.entry.response.message with
  | none => .error .corrupt
  | some wire =>
    if maxDnsWireBytes < wire.length % u32Size then .error .resourceExhausted
    else do
      let namespace_ ← encodeNamespace key.namespace_
      let encoded ← putBytes key.encoded maxComponentBytes
      let target ← putBytes record.entry.upstream.targetId.bytes maxUpstreamIdBytes
      let used ← encodeUsed record.entry.upstream.usedId
      let payload ← putBytes wire maxDnsWireBytes
      return namespace_ ++ (putU16 key.formatVersion ++ (encoded ++
        (encodeNumbers record now walls.expires ++
          (encodeStale record.entry.staleUntil now walls.stale ++ (target ++ (used ++ payload))))))

/-- The identity of a key in a snapshot. -/
def encodeStorageKey (key : CacheKey) : Except CodecError (List UInt8) := do
  let namespace_ ← encodeNamespace key.namespace_
  let encoded ← putBytes key.encoded maxComponentBytes
  return namespace_ ++ (putU16 key.formatVersion ++ encoded)

abbrev RecordReader := Reader CodecError

def readByte : RecordReader UInt8 := do
  match ← take CodecError.corrupt 1 with
  | [byte] => pure byte
  | _ => throw .corrupt

def readU16 : RecordReader UInt16 := UInt16.ofNat <$> number .corrupt 2
def readU32 : RecordReader Nat := number .corrupt 4
def readU64 : RecordReader Nat := number .corrupt 8

def readBytes (maximum : Nat) : RecordReader (List UInt8) := do
  let length ← readU32
  ensure (decide (length ≤ maximum)) .resourceExhausted
  take .corrupt length

def readStrategy : RecordReader CacheStrategyId := do
  let bytes ← readBytes maxComponentBytes
  require (CacheStrategyId.fromValidatedConfigId bytes) .corrupt

def readDigest : RecordReader ClientCacheDigest := do
  let bytes ← take CodecError.corrupt 32
  if length_eq : bytes.length = 32 then pure ⟨bytes, length_eq⟩ else throw .corrupt

def decodeNamespace : RecordReader CacheNamespace := do
  let tag ← readByte
  if tag = 0 then pure .global
  else if tag = 1 then return .strategy (← readStrategy)
  else if tag = 2 then do
    let digest ← readDigest
    return .clientStrategy digest (← readStrategy)
  else throw .corrupt

def decodeUpstreamId : RecordReader CacheUpstreamId := do
  let bytes ← readBytes maxUpstreamIdBytes
  require (CacheUpstreamId.fromValidatedConfigId bytes) .corrupt

/-- An optional component behind a flag byte. -/
def readOption {α : Type} (reader : RecordReader α) : RecordReader (Option α) := do
  let flag ← readByte
  if flag = 0 then pure none
  else if flag = 1 then return some (← reader)
  else throw .corrupt

def decodeQuality (value : UInt8) : Option CacheQuality :=
  if value = 0 then some .failure
  else if value = 1 then some .negative
  else if value = 2 then some .complete
  else none

def decodeResponseClass (value : UInt8) : Option CacheResponseClass :=
  if value = 0 then some .noError
  else if value = 1 then some .noData
  else if value = 2 then some .nxDomain
  else if value = 3 then some .servFail
  else if value = 4 then some .truncated
  else none

def responseClassFromResponse : ResponseClass → CacheResponseClass
  | .positive => .noError
  | .noData => .noData
  | .nxDomain => .nxDomain
  | .servFail => .servFail
  | .truncated => .truncated
  | .refused | .other _ => .servFail

/-- The stored response, checked against the query that its own question forms. -/
def decodeResponse (wire : List UInt8) : Option CanonicalResponse := do
  let message ← codec.fromVec wire
  if message.metadata.messageType = .response ∧ message.metadata.id = 0 then
    let question : Message := {
      metadata := message.metadata.asking
      queries := message.queries
      answers := []
      authorities := []
      additionals := []
      edns := message.edns }
    let query ← (CanonicalQuery.fromMessage question).toOption
    (CanonicalResponse.fromMessage message query 0).toOption
  else none

/-- Read one record with the clocks of the restoring process. -/
def readRecord (now : Instant) (walls : WallReadings) : RecordReader (CacheKey × CacheRecord) := do
  let namespace_ ← decodeNamespace
  let keyFormat ← readU16
  ensure (keyFormat == cacheKeyFormatVersion) .incompatible
  let encoded ← readBytes maxComponentBytes
  let version ← readU64
  let entryFormat ← readU16
  ensure (entryFormat == cacheEntryFormatVersion) .incompatible
  let producerRevision ← readU64
  let quality ← require (decodeQuality (← readByte)) .corrupt
  let responseClass ← require (decodeResponseClass (← readByte)) .corrupt
  let checksum ← readU64
  let age ← readU64
  let expiresUnixNanos ← readU64
  let staleUntil ← readOption do
    require (instantFromUnixNanos (← readU64) now walls.stale) .corrupt
  let targetId ← decodeUpstreamId
  let usedId ← readOption decodeUpstreamId
  let wire ← readBytes maxDnsWireBytes
  ensure (← get).isEmpty .corrupt
  let response ← require (decodeResponse codec wire) .corrupt
  ensure (responseClass == responseClassFromResponse response.responseClass &&
    canonicalChecksum codec response == some (UInt64.ofNat checksum)) .corrupt
  let insertedAt ← require (checkedSub now age) .corrupt
  let expiresAt ← require (instantFromUnixNanos expiresUnixNanos now walls.expires) .corrupt
  return (⟨namespace_, encoded, keyFormat⟩, {
    version := UInt64.ofNat version
    entry := {
      response := response
      upstream := ⟨targetId, usedId⟩
      insertedAt := insertedAt
      expiresAt := expiresAt
      staleUntil := staleUntil
      responseClass := responseClass
      producerRevision := UInt64.ofNat producerRevision
      quality := quality
      checksum := UInt64.ofNat checksum
      formatVersion := entryFormat } })

def decodeRecord (payload : List UInt8) (now : Instant)
    (walls : WallReadings) : Except CodecError (CacheKey × CacheRecord) :=
  ((readRecord codec now walls).run payload).map (·.1)

end FluxDns.Cache.Codec
