import FluxDns.Cache.CodecRoundTrip

/-!
# Cache keys and the limits of the record codec

`build_cache_key` embeds the re-encoded query in the key, behind a few fields of bounded size.  The
record codec bounds the whole key by 64 KiB, so the longest queries that the transports accept
lead to keys that no snapshot can hold.
-/

namespace FluxDns

namespace Wire

def maxDnsWireBytes : Nat := 65535

inductive WireError where
  | empty
  | tooLarge (limit : Nat)
  | decode
  | invalidQuery (error : CanonicalMessageError)

/-- A query with the id of its message. -/
structure ParsedQuery where
  id : UInt16
  query : CanonicalQuery

def decodeQuery (codec : WireCodec) (bytes : List UInt8) (maxBytes : Nat) :
    Except WireError ParsedQuery :=
  let limit := min maxBytes maxDnsWireBytes
  if bytes.isEmpty then .error .empty
  else if limit < bytes.length then .error (.tooLarge limit)
  else
    match codec.fromVec bytes with
    | none => .error .decode
    | some message =>
      match CanonicalQuery.fromMessage message with
      | .error error => .error (.invalidQuery error)
      | .ok query => .ok ⟨message.metadata.id, query⟩

end Wire

namespace Cache

open ByteReader Codec List

variable {key : CacheKey} {namespace_ : CacheNamespace} {encoded : List UInt8} {value : List UInt8}

/-- An opaque digest of a dimension of the key. -/
@[ext]
structure CacheFingerprint where
  bytes : List UInt8
  length_eq : bytes.length = 32

inductive CacheKeyMode where
  | fast
  | resolved

/-- What a key depends on besides the query. -/
structure CacheKeyDimensions where
  mode : CacheKeyMode
  policy : Option CacheFingerprint
  request : Option CacheFingerprint
  target : Option CacheFingerprint
  ecs : Option CacheFingerprint

inductive CacheKeyError where
  | queryEncoding
  | componentTooLarge

def encodeComponent (component : List UInt8) : Except CacheKeyError (List UInt8) :=
  if component.length < u32Size then .ok (bigEndian 4 component.length ++ component)
  else .error .componentTooLarge

def encodeKeyNamespace : CacheNamespace → Except CacheKeyError (List UInt8)
  | .global => .ok [0]
  | .strategy strategy => do return 1 :: (← encodeComponent strategy.bytes)
  | .clientStrategy digest strategy => do
      return 2 :: digest.bytes ++ (← encodeComponent strategy.bytes)

def encodeFingerprint : Option CacheFingerprint → List UInt8
  | some fingerprint => 1 :: fingerprint.bytes
  | none => [0]

def encodeMode : CacheKeyMode → UInt8
  | .fast => 0
  | .resolved => 1

/-- The key of a query with every dimension that changes its answer; `transport` is the value of
the `CacheCompatibilityKey`. -/
def buildCacheKey (codec : WireCodec) (namespace_ : CacheNamespace) (query : CanonicalQuery)
    (transport : UInt64) (dimensions : CacheKeyDimensions) : Except CacheKeyError CacheKey :=
  match codec.toVec query.message with
  | none => .error .queryEncoding
  | some queryWire => do
      let namespaceBytes ← encodeKeyNamespace namespace_
      let queryBytes ← encodeComponent queryWire
      return {
        namespace_ := namespace_
        encoded := [70, 68, 67, 75] ++ bigEndian 2 cacheKeyFormatVersion.toNat ++ namespaceBytes ++
          bigEndian 8 transport.toNat ++ [encodeMode dimensions.mode] ++
          encodeFingerprint dimensions.policy ++ encodeFingerprint dimensions.request ++
          encodeFingerprint dimensions.target ++ encodeFingerprint dimensions.ecs ++ queryBytes
        formatVersion := cacheKeyFormatVersion }

def namespaceSize : CacheNamespace → Nat
  | .global => 1
  | .strategy strategy => 5 + strategy.bytes.length
  | .clientStrategy _ strategy => 37 + strategy.bytes.length

def fingerprintSize (fingerprint : Option CacheFingerprint) : Nat :=
  if fingerprint.isSome then 33 else 1

/-- The bytes of a key that are not the query. -/
def keyOverhead (namespace_ : CacheNamespace) (dimensions : CacheKeyDimensions) : Nat :=
  19 + namespaceSize namespace_ + fingerprintSize dimensions.policy +
    fingerprintSize dimensions.request + fingerprintSize dimensions.target +
    fingerprintSize dimensions.ecs

theorem length_encodeComponent {component : List UInt8}
    (put : encodeComponent component = .ok encoded) : encoded.length = 4 + component.length := by
  unfold encodeComponent at put
  split at put <;> cases put
  simp

theorem length_encodeKeyNamespace (put : encodeKeyNamespace namespace_ = .ok encoded) :
    encoded.length = namespaceSize namespace_ := by
  cases namespace_ with
  | global =>
    cases put
    rfl
  | strategy strategy =>
    obtain ⟨written, component, result⟩ := bind_eq_ok.mp put
    cases result
    simp only [length_cons, length_encodeComponent component, namespaceSize]
    omega
  | clientStrategy digest strategy =>
    obtain ⟨written, component, result⟩ := bind_eq_ok.mp put
    cases result
    simp only [cons_append, length_cons, length_append, digest.length_eq,
      length_encodeComponent component, namespaceSize]
    omega

theorem length_encodeFingerprint (fingerprint : Option CacheFingerprint) :
    (encodeFingerprint fingerprint).length = fingerprintSize fingerprint := by
  cases fingerprint with
  | none => rfl
  | some fingerprint => simp [encodeFingerprint, fingerprintSize, fingerprint.length_eq]

theorem buildCacheKey_ok {codec : WireCodec} {query : CanonicalQuery}
    {transport : UInt64} {dimensions : CacheKeyDimensions}
    (built : buildCacheKey codec namespace_ query transport dimensions = .ok key) :
    ∃ queryWire, codec.toVec query.message = some queryWire ∧ key.namespace_ = namespace_ ∧
      key.formatVersion = cacheKeyFormatVersion ∧
      key.encoded.length = keyOverhead namespace_ dimensions + queryWire.length := by
  unfold buildCacheKey at built
  split at built <;> try cases built
  next queryWire written =>
  obtain ⟨namespaceBytes, put_namespace, built⟩ := bind_eq_ok.mp built
  obtain ⟨queryBytes, put_query, built⟩ := bind_eq_ok.mp built
  cases built
  refine ⟨queryWire, written, rfl, rfl, ?_⟩
  simp only [length_append, length_bigEndian, length_cons, length_nil,
    length_encodeKeyNamespace put_namespace, length_encodeFingerprint,
    length_encodeComponent put_query, keyOverhead]
  omega

theorem putBytes_of_le {maximum : Nat} (fits : value.length ≤ maximum)
    (width : maximum < u32Size) : putBytes value maximum = .ok (putU32 value.length ++ value) := by
  rw [putBytes, if_pos ⟨Nat.lt_of_le_of_lt fits width, fits⟩]

theorem putBytes_of_lt {maximum : Nat} (exceeds : maximum < value.length) :
    putBytes value maximum = .error .resourceExhausted := by
  rw [putBytes, if_neg fun fits => absurd fits.2 (Nat.not_le_of_lt exceeds)]

theorem encodeNamespace_ok (namespace_ : CacheNamespace) :
    ∃ encoded, encodeNamespace namespace_ = .ok encoded := by
  have put (strategy : CacheStrategyId) : putBytes strategy.bytes maxComponentBytes =
      .ok (putU32 strategy.bytes.length ++ strategy.bytes) :=
    putBytes_of_le (strategy.length_le.trans (by decide)) (by decide)
  cases namespace_ with
  | global => exact ⟨_, rfl⟩
  | strategy strategy =>
    rw [encodeNamespace, put strategy]
    exact ⟨_, rfl⟩
  | clientStrategy digest strategy =>
    rw [encodeNamespace, put strategy]
    exact ⟨_, rfl⟩

theorem putBytes_upstreamId (id : CacheUpstreamId) :
    putBytes id.bytes maxUpstreamIdBytes = .ok (putU32 id.bytes.length ++ id.bytes) :=
  putBytes_of_le id.length_le (by decide)

theorem encodeUsed_ok (used : Option CacheUpstreamId) :
    ∃ encoded, encodeUsed used = .ok encoded := by
  cases used with
  | none => exact ⟨_, rfl⟩
  | some used =>
    rw [encodeUsed, putBytes_upstreamId]
    exact ⟨_, rfl⟩

theorem encodeStorageKey_of_le (fits : key.encoded.length ≤ maxComponentBytes) :
    ∃ storageKey, encodeStorageKey key = .ok storageKey := by
  obtain ⟨namespaceBytes, put_namespace⟩ := encodeNamespace_ok key.namespace_
  rw [encodeStorageKey, put_namespace, putBytes_of_le fits (by decide)]
  exact ⟨_, rfl⟩

theorem encodeStorageKey_of_lt (exceeds : maxComponentBytes < key.encoded.length) :
    encodeStorageKey key = .error .resourceExhausted := by
  obtain ⟨namespaceBytes, put_namespace⟩ := encodeNamespace_ok key.namespace_
  rw [encodeStorageKey, put_namespace, putBytes_of_lt exceeds]
  rfl

section Records

variable {codec : WireCodec} {key : CacheKey} {record : CacheRecord} {wire : List UInt8}
  {now : Instant} {walls : WallReadings}

variable (written : codec.toVec record.entry.response.message = some wire)

include written

theorem encodeRecord_of_le
    (short : wire.length ≤ maxDnsWireBytes) (fits : key.encoded.length ≤ maxComponentBytes) :
    ∃ payload, encodeRecord codec key record now walls = .ok payload := by
  obtain ⟨namespaceBytes, put_namespace⟩ := encodeNamespace_ok key.namespace_
  obtain ⟨used, put_used⟩ := encodeUsed_ok record.entry.upstream.usedId
  have allowed : ¬maxDnsWireBytes < wire.length % u32Size :=
    Nat.not_lt_of_le ((Nat.mod_le _ _).trans short)
  rw [encodeRecord, written]
  dsimp only
  rw [if_neg allowed, put_namespace, putBytes_of_le fits (by decide),
    putBytes_upstreamId, put_used, putBytes_of_le short (by decide)]
  exact ⟨_, rfl⟩

theorem encodeRecord_of_lt (short : wire.length ≤ maxDnsWireBytes)
    (exceeds : maxComponentBytes < key.encoded.length) :
    encodeRecord codec key record now walls = .error .resourceExhausted := by
  obtain ⟨namespaceBytes, put_namespace⟩ := encodeNamespace_ok key.namespace_
  have allowed : ¬maxDnsWireBytes < wire.length % u32Size :=
    Nat.not_lt_of_le ((Nat.mod_le _ _).trans short)
  rw [encodeRecord, written]
  dsimp only
  rw [if_neg allowed, put_namespace, putBytes_of_lt exceeds]
  rfl

end Records

/-- A record with an admitted entry and a built key can be written to a snapshot exactly when the
wire form of the query leaves room for the rest of the key. -/
theorem snapshotable_iff {codec : WireCodec}
    (bounded : ∀ message wire, codec.toVec message = some wire → wire.length ≤ maxDnsWireBytes)
    {namespace_ : CacheNamespace} {query : CanonicalQuery} {transport : UInt64}
    {dimensions : CacheKeyDimensions} {key : CacheKey}
    (built : buildCacheKey codec namespace_ query transport dimensions = .ok key)
    {policy : CacheAdmissionPolicy} {response : CanonicalResponse}
    {upstream : CacheUpstreamProvenance} {inserted : Instant} {revision : UInt64}
    {entry : CacheEntry}
    (admitted : admitResponse codec policy response upstream inserted revision =
      some (.accepted entry))
    {queryWire : List UInt8} (sent : codec.toVec query.message = some queryWire) (version : UInt64)
    (now : Instant) (walls : WallReadings) :
    ((∃ storageKey, encodeStorageKey key = .ok storageKey) ∧
      ∃ payload, encodeRecord codec key ⟨version, entry⟩ now walls = .ok payload) ↔
    keyOverhead namespace_ dimensions + queryWire.length ≤ maxComponentBytes := by
  obtain ⟨wire, written⟩ := (admitted_of_admitResponse admitted).written
  obtain ⟨sameWire, same, -, -, length⟩ := buildCacheKey_ok built
  cases sent.symm.trans same
  rw [← length]
  constructor
  · rintro ⟨⟨storageKey, stored⟩, -⟩
    by_contra exceeds
    rw [encodeStorageKey_of_lt (Nat.lt_of_not_le exceeds)] at stored
    cases stored
  · intro fits
    exact ⟨encodeStorageKey_of_le fits, encodeRecord_of_le written (bounded _ _ written) fits⟩

variable (payload : Nat)

/-- The question `example.com. IN A` with one EDNS option of the given length. -/
def sampleLongQuery : CanonicalQuery where
  message := .ask { Metadata.new .query with recursionDesired := true }
    ⟨⟨[[101, 120, 97, 109, 112, 108, 101], [99, 111, 109]], true⟩, 1, 1⟩
    (some { Edns.new with options := [.other 65001 (replicate payload 0)] })
  question := ⟨⟨[[101, 120, 97, 109, 112, 108, 101], [99, 111, 109]], true⟩, 1, 1, rfl, rfl⟩
  shape := rfl
  ednsVersion := by
    rintro edns ⟨⟩
    rfl

/-- The wire form of that query. -/
def sampleLongWire : List UInt8 :=
  [0, 0, 1, 0, 0, 1, 0, 0, 0, 0, 0, 1,
    7, 101, 120, 97, 109, 112, 108, 101, 3, 99, 111, 109, 0, 0, 1, 0, 1,
    0, 0, 41, 2, 0, 0, 0, 0, 0] ++ bigEndian 2 (payload + 4) ++ [253, 233] ++
    bigEndian 2 payload ++ replicate payload 0

/-- The wire library as far as this query and the sample answer are concerned. -/
def sampleLongCodec : WireCodec where
  toVec message :=
    if message = (sampleLongQuery payload).message then some (sampleLongWire payload)
    else sampleCodec.toVec message
  fromVec wire :=
    if wire = sampleLongWire payload then some (sampleLongQuery payload).message
    else sampleCodec.fromVec wire

/-- The dimensions of a resolved key without fingerprints. -/
def sampleDimensions : CacheKeyDimensions := ⟨.resolved, none, none, none, none⟩

theorem length_sampleLongWire : (sampleLongWire payload).length = 44 + payload := by
  simp only [sampleLongWire, length_append, length_cons, length_nil,
    length_bigEndian, length_replicate]

theorem sampleMessage_ne_sampleLongQuery : sampleMessage ≠ (sampleLongQuery payload).message := by
  intro same
  have types := congrArg (·.metadata.messageType) same
  cases types

theorem sampleLongCodec_admits :
    admitResponse (sampleLongCodec payload) samplePolicy sampleAnswer sampleUpstream 0 1 =
      some (.accepted sampleAdmitted) := by
  have same : (sampleLongCodec payload).toVec sampleMessage = sampleCodec.toVec sampleMessage := by
    simp only [sampleLongCodec, if_neg (sampleMessage_ne_sampleLongQuery payload)]
  have checksum : canonicalChecksum (sampleLongCodec payload) sampleAnswer =
      canonicalChecksum sampleCodec sampleAnswer := by
    simp only [canonicalChecksum]
    rw [show sampleAnswer.message = sampleMessage from rfl, same]
  have admitted : admitResponse sampleCodec samplePolicy sampleAnswer sampleUpstream 0 1 =
      some (.accepted sampleAdmitted) := by decide +kernel
  rw [← admitted, admitResponse, admitResponse, checksum]

theorem sampleLongCodec_writes : (sampleLongCodec payload).toVec (sampleLongQuery payload).message =
      some (sampleLongWire payload) := by
  simp only [sampleLongCodec, if_pos]

theorem sampleLongQuery_key (short : payload < 65536) :
    ∃ key, buildCacheKey (sampleLongCodec payload) .global (sampleLongQuery payload) 0
      sampleDimensions = .ok key := by
  have fits : (sampleLongWire payload).length < u32Size := by
    rw [length_sampleLongWire, u32Size]
    omega
  rw [buildCacheKey, sampleLongCodec_writes]
  dsimp only
  rw [encodeComponent, if_pos fits]
  exact ⟨_, rfl⟩

theorem sampleLongCodec_bounded {payload : Nat} (short : payload ≤ 65491) (message : Message)
    (wire : List UInt8) (written : (sampleLongCodec payload).toVec message = some wire) :
    wire.length ≤ maxDnsWireBytes := by
  simp only [sampleLongCodec] at written
  split at written
  · cases written
    rw [length_sampleLongWire, maxDnsWireBytes]
    omega
  · simp only [sampleCodec] at written
    split at written <;> cases written
    decide

/-- A query with a short EDNS option leads to a record that fits. -/
theorem snapshotable_short_option :
    ∃ key, buildCacheKey (sampleLongCodec 8) .global (sampleLongQuery 8) 0 sampleDimensions =
        .ok key ∧
      (∃ storageKey, encodeStorageKey key = .ok storageKey) ∧
      ∃ payload, encodeRecord (sampleLongCodec 8) key ⟨1, sampleAdmitted⟩ 0 ⟨second, second⟩ =
        .ok payload := by
  obtain ⟨key, built⟩ := sampleLongQuery_key 8 (by decide)
  have fits : keyOverhead .global sampleDimensions + (sampleLongWire 8).length ≤
      maxComponentBytes := by
    decide
  exact ⟨key, built, (snapshotable_iff (sampleLongCodec_bounded (by decide)) built
    (sampleLongCodec_admits 8) (sampleLongCodec_writes 8) 1 0 ⟨second, second⟩).mpr fits⟩

/-- The longest query that a transport accepts is answered and cached, and no snapshot can hold
its record. -/
theorem longest_query_not_snapshotable : (sampleLongWire 65491).length = 65535 ∧
    Wire.decodeQuery (sampleLongCodec 65491) (sampleLongWire 65491) Wire.maxDnsWireBytes =
      .ok ⟨0, sampleLongQuery 65491⟩ ∧
    admitResponse (sampleLongCodec 65491) samplePolicy sampleAnswer sampleUpstream 0 1 =
      some (.accepted sampleAdmitted) ∧
    ∃ key, buildCacheKey (sampleLongCodec 65491) .global (sampleLongQuery 65491) 0
        sampleDimensions = .ok key ∧
      encodeStorageKey key = .error .resourceExhausted ∧
      encodeRecord (sampleLongCodec 65491) key ⟨1, sampleAdmitted⟩ 0 ⟨second, second⟩ =
        .error .resourceExhausted := by
  obtain ⟨key, built⟩ := sampleLongQuery_key 65491 (by decide)
  obtain ⟨wire, written, -, -, length⟩ := buildCacheKey_ok built
  rw [sampleLongCodec_writes] at written
  cases written
  obtain ⟨answer, wrote⟩ := (admitted_of_admitResponse (sampleLongCodec_admits 65491)).written
  have exceeds : maxComponentBytes < key.encoded.length := by
    rw [length, length_sampleLongWire]
    decide
  have read : (sampleLongCodec 65491).fromVec (sampleLongWire 65491) =
      some (sampleLongQuery 65491).message := by
    simp only [sampleLongCodec, if_pos]
  refine ⟨length_sampleLongWire 65491, ?_, sampleLongCodec_admits 65491, key, built,
    encodeStorageKey_of_lt exceeds,
    encodeRecord_of_lt wrote (sampleLongCodec_bounded (by decide) _ _ wrote) exceeds⟩
  have present : (sampleLongWire 65491).isEmpty = false := rfl
  have allowed :
      ¬min Wire.maxDnsWireBytes Wire.maxDnsWireBytes < (sampleLongWire 65491).length := by
    rw [length_sampleLongWire]
    decide
  simp only [Wire.decodeQuery, present, Bool.false_eq_true, if_false, if_neg allowed, read]
  rfl

end Cache

end FluxDns
