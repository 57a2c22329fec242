import FluxDns.Cache.CodecRestore

/-!
# TTLs of restored entries

A restored entry ages from the age it had when it was written, while its expiry is moved by the
wall clock.  The TTLs answered from it stay within the lifetime of the entry exactly when the wall
clock did not advance in between, or at most one second of TTL was left.
-/

namespace FluxDns.Cache

open Codec CanonicalResponse Instant Option List

variable {response : CanonicalResponse} {record : CacheRecord}

/-- The response built from a fresh record: TTLs age by the time in the cache, and those of a
negative response are cut to the remaining lifetime and the configured maximum. -/
def freshCacheResponse (record : CacheRecord) (negativeTtlMax : Option Duration) (now : Instant) :
    CanonicalResponse :=
  let response := record.entry.response.ageTtl
    (saturatingDurationSince now record.entry.insertedAt)
  if response.isNegative then
    let remaining := saturatingDurationSince record.entry.expiresAt now
    response.capNegativeTtl (negativeTtlMax.elim remaining (min remaining))
  else response

def secondsRoundedUp (duration : Duration) : Nat := (duration + (second - 1)) / second

theorem min?_map {f : UInt32 → UInt32}
    (commutes : ∀ left right, f (min left right) = min (f left) (f right)) (ttls : List UInt32) :
    (ttls.map f).min? = ttls.min?.map f := by
  cases ttls with
  | nil => rfl
  | cons first ttls =>
    simp only [map_cons, min?_cons', map_some, some.injEq]
    induction ttls generalizing first with
    | nil => rfl
    | cons next ttls induction =>
      simp only [map_cons, foldl_cons]
      rw [← commutes, induction]

theorem ageTtl_minTtl (response : CanonicalResponse) (elapsed : Duration) {ttl : UInt32}
    (minimum : response.ttl.minTtl = some ttl) :
    ∃ aged, (response.ageTtl elapsed).ttl.minTtl = some aged ∧
      aged.toNat = ttl.toNat - elapsed / second := by
  have commutes (left right : UInt32) :
      (if ttlSeconds elapsed ≤ min left right then min left right - ttlSeconds elapsed else 0) =
      min (if ttlSeconds elapsed ≤ left then left - ttlSeconds elapsed else 0)
        (if ttlSeconds elapsed ≤ right then right - ttlSeconds elapsed else 0) := by
    apply UInt32.toNat.inj
    simp only [toNat_min, toNat_saturatingSub]
    omega
  have own : (response.message.records.map (·.ttl)).min? = some ttl := by
    rw [← minimum, response.ttl_eq]
    rfl
  refine ⟨if ttlSeconds elapsed ≤ ttl then ttl - ttlSeconds elapsed else 0, ?_, ?_⟩
  · calc (response.ageTtl elapsed).ttl.minTtl
        = ((response.message.mapTtl fun ttl =>
            if ttlSeconds elapsed ≤ ttl then ttl - ttlSeconds elapsed else 0).records.map
              (·.ttl)).min? := rfl
      _ = _ := by rw [records_mapTtl, min?_map commutes, own, map_some]
  · have fits := ttl.toNat_lt
    rw [toNat_saturatingSub, toNat_ttlSeconds]
    simp only [u32Size]
    omega

/-- Ageing by whole seconds against a lifetime that may have been shortened. -/
theorem aged_le_remaining_iff {ttl age lifetime : Nat} (alive : 0 < lifetime) :
    (∀ passed < lifetime,
      ttl - (age + passed) / second ≤ secondsRoundedUp (lifetime - passed)) ↔
    ttl * second - age ≤ lifetime ∨ ttl * second - age ≤ second := by
  simp only [secondsRoundedUp, second]
  constructor
  · intro bounded
    by_cases long : 1000000000 ≤ lifetime
    · have last := bounded (lifetime - 1000000000) (by omega)
      omega
    · have first := bounded 0 alive
      omega
  · omega

theorem fromMessage_message {message : Message} {query : CanonicalQuery} {id : UInt16}
    (accepted : fromMessage message query id = .ok response) :
    response.message = { message with
      metadata := { message.metadata with id := 0 }
      queries := response.message.queries } := by
  unfold fromMessage at accepted
  split at accepted <;> try cases accepted
  dsimp only at accepted
  split at accepted <;> try cases accepted
  split at accepted <;> cases accepted
  rfl

theorem decodeResponse_spec {codec : WireCodec} {wire : List UInt8} {message : Message}
    (read : codec.fromVec wire = some message)
    (decoded : decodeResponse codec wire = some response) :
    response.message.records = message.records ∧
      response.responseClass = classifyResponse message := by
  obtain ⟨query, accepted⟩ :
      ∃ query, fromMessage message query 0 = .ok response := by
    simp only [decodeResponse, read, bind_eq_bind, bind_some] at decoded
    split at decoded <;> try cases decoded
    obtain ⟨query, -, accepted⟩ := bind_eq_some_iff.mp decoded
    refine ⟨query, ?_⟩
    cases outcome : fromMessage message query 0 with
    | error error =>
      rw [outcome] at accepted
      cases accepted
    | ok result =>
      rw [outcome] at accepted
      cases accepted
      rfl
  have shape := fromMessage_message accepted
  refine ⟨?_, ?_⟩
  · rw [shape]
    rfl
  · rw [response.class_eq, shape]
    rfl

theorem freshCacheResponse_positive (positive : record.entry.response.responseClass = .positive)
    (negativeTtlMax : Option Duration) (now : Instant) :
    freshCacheResponse record negativeTtlMax now = record.entry.response.ageTtl
      (saturatingDurationSince now record.entry.insertedAt) := by
  have not_negative : (record.entry.response.ageTtl
      (saturatingDurationSince now record.entry.insertedAt)).isNegative = false := by
    simp [isNegative, ageTtl, rewriteTtl, positive, ResponseClass.isNegative]
  simp [freshCacheResponse, not_negative]

theorem freshCacheResponse_minTtl (positive : record.entry.response.responseClass = .positive)
    {ttl : UInt32} (minimum : record.entry.response.ttl.minTtl = some ttl)
    (negativeTtlMax : Option Duration) (now : Instant) :
    ∃ answered, (freshCacheResponse record negativeTtlMax now).ttl.minTtl = some answered ∧
      answered.toNat = ttl.toNat - (now - record.entry.insertedAt) / second := by
  rw [freshCacheResponse_positive positive]
  exact ageTtl_minTtl record.entry.response _ minimum

/-- A time that lies ahead of the wall clock is restored at the same distance. -/
theorem instantFromUnixNanos_ahead {value wall : Nat} {reference instant : Instant}
    (restored : instantFromUnixNanos value reference wall = some instant)
    (ahead : reference < instant) :
    systemTimeNanos wall < value ∧ instant = reference + (value - systemTimeNanos wall) := by
  unfold instantFromUnixNanos at restored
  split at restored
  · cases restored
    exact absurd ahead (Nat.lt_irrefl _)
  · next later =>
    refine ⟨Nat.lt_of_not_le later, ?_⟩
    unfold checkedAdd at restored
    split at restored
    · exact (some.inj restored).symm
    · cases restored

theorem checkedSub_eq_some {instant result : Instant} {duration : Duration}
    (subtracted : checkedSub instant duration = some result) :
    duration ≤ instant ∧ result = instant - duration := by
  unfold checkedSub at subtracted
  split at subtracted
  · next fits => exact ⟨fits, (some.inj subtracted).symm⟩
  · cases subtracted

/-- What is left of the smallest TTL of a response at the time its entry is written. -/
def ttlLeft (ttl : UInt32) (inserted written : Instant) : Duration :=
  fromSecs ttl - saturatingDurationSince written inserted

/-- The TTLs answered from a restored positive entry stay within its lifetime exactly when the
wall clock leaves the entry at least the TTL it had left when it was written, or when that was at
most one second. -/
theorem restored_ttl_bounded_iff {codec : WireCodec} {policy : CacheAdmissionPolicy}
    {response : CanonicalResponse} {upstream : CacheUpstreamProvenance} {inserted : Instant}
    {revision : UInt64} {entry : CacheEntry} (positive : response.responseClass = .positive)
    (admitted : admitResponse codec policy response upstream inserted revision =
      some (.accepted entry))
    (lossless : ∀ wire, codec.toVec response.message = some wire →
      codec.fromVec wire = some response.message)
    {ttl : UInt32} (minimum : response.ttl.minTtl = some ttl) {key restoredKey : CacheKey}
    {version : UInt64} {written read : Instant} {walls readings : WallReadings}
    {payload : List UInt8} {restored : CacheRecord}
    (encoded : encodeRecord codec key ⟨version, entry⟩ written walls = .ok payload)
    (decoded : decodeRecord codec payload read readings = .ok (restoredKey, restored))
    (unexpired : read < restored.entry.expiresAt) (negativeTtlMax : Option Duration) :
    (∀ now, read ≤ now → now < restored.entry.expiresAt → ∀ answered,
      (freshCacheResponse restored negativeTtlMax now).ttl.minTtl = some answered →
        answered.toNat ≤ secondsRoundedUp (restored.entry.expiresAt - now)) ↔
    ttlLeft ttl inserted written + systemTimeNanos readings.expires ≤
        unixNanosForInstant entry.expiresAt written walls.expires ∨
      ttlLeft ttl inserted written ≤ second := by
  obtain ⟨response_eq, inserted_eq, -, -, -, -⟩ := admitted_of_admitResponse admitted
  obtain ⟨-, spec⟩ := restored_of_decodeRecord encoded decoded
  obtain ⟨wire, wrote, reread⟩ := spec.response
  rw [response_eq] at wrote
  obtain ⟨records_eq, class_eq⟩ := decodeResponse_spec (lossless wire wrote) reread
  have restored_positive : restored.entry.response.responseClass = .positive := by
    rw [class_eq, ← response.class_eq, positive]
  have restored_minimum : restored.entry.response.ttl.minTtl = some ttl := by
    rw [restored.entry.response.ttl_eq, ← minimum, response.ttl_eq]
    simp only [extractTtlMetadata, records_eq]
  -- The age is carried over, the expiry is moved by the wall clock.
  obtain ⟨age_le, inserted_at⟩ := checkedSub_eq_some spec.insertedAt
  obtain ⟨ahead, expires_at⟩ := instantFromUnixNanos_ahead spec.expiresAt unexpired
  rw [inserted_eq] at age_le inserted_at
  have answers := freshCacheResponse_minTtl restored_positive restored_minimum negativeTtlMax
  have left_eq : ttl.toNat * second -
      durationNanos (saturatingDurationSince written inserted) =
        ttlLeft ttl inserted written := by
    have fits := ttl.toNat_lt
    simp only [ttlLeft, fromSecs, durationNanos, second, u64Size]
    omega
  rw [← left_eq]
  generalize durationNanos (saturatingDurationSince written inserted) = age at *
  generalize unixNanosForInstant entry.expiresAt written walls.expires = stored at *
  generalize systemTimeNanos readings.expires = wall at *
  have lifetime_pos : 0 < stored - wall := by omega
  have split : ttl.toNat * second - age + wall ≤ stored ↔
      ttl.toNat * second - age ≤ stored - wall := by omega
  rw [split, ← aged_le_remaining_iff lifetime_pos]
  -- From here on the clocks are plain natural numbers.
  unfold Instant Duration at *
  constructor
  · intro bounded passed within
    obtain ⟨answered, answer, value⟩ := answers (read + passed)
    have bound := bounded (read + passed) (Nat.le_add_right _ _) (by omega) answered answer
    rw [value, inserted_at, expires_at] at bound
    rw [show read + passed - (read - age) = age + passed by omega,
      show read + (stored - wall) - (read + passed) = stored - wall - passed by omega] at bound
    exact bound
  · intro bounded now from_read before answered answer
    obtain ⟨same, same_answer, value⟩ := answers now
    rw [same_answer] at answer
    cases answer
    have bound := bounded (now - read) (by omega)
    rw [value, inserted_at, expires_at]
    rw [show age + (now - read) = now - (read - age) by omega,
      show stored - wall - (now - read) = read + (stored - wall) - now by omega] at bound
    exact bound

/-- The answer `example.com. 30 IN A 192.0.2.1`. -/
def sampleMessage : Message where
  metadata := Metadata.new .response
  queries := [⟨⟨[[101, 120, 97, 109, 112, 108, 101], [99, 111, 109]], true⟩, 1, 1⟩]
  answers := [⟨⟨[[101, 120, 97, 109, 112, 108, 101], [99, 111, 109]], true⟩, 1, 30,
    .other 1 [192, 0, 2, 1]⟩]
  authorities := []
  additionals := []
  edns := none

/-- The wire form of that answer. -/
def sampleWire : List UInt8 :=
  [0, 0, 128, 0, 0, 1, 0, 1, 0, 0, 0, 0,
    7, 101, 120, 97, 109, 112, 108, 101, 3, 99, 111, 109, 0, 0, 1, 0, 1,
    192, 12, 0, 1, 0, 1, 0, 0, 0, 30, 0, 4, 192, 0, 2, 1]

/-- The wire library as far as this one answer is concerned. -/
def sampleCodec : WireCodec where
  toVec message := if message = sampleMessage then some sampleWire else none
  fromVec wire := if wire = sampleWire then some sampleMessage else none

def sampleAnswer : CanonicalResponse where
  message := sampleMessage
  responseClass := .positive
  ttl := ⟨some 30, none⟩
  question := ⟨⟨⟨[[101, 120, 97, 109, 112, 108, 101], [99, 111, 109]], true⟩, 1, 1, rfl, rfl⟩,
    rfl, rfl, rfl, by simp [sampleMessage]⟩
  id_eq := rfl
  class_eq := rfl
  ttl_eq := rfl

def samplePolicy : CacheAdmissionPolicy := ⟨5 * second, none, none, none⟩

def sampleStoredKey : CacheKey := ⟨.global, [1], cacheKeyFormatVersion⟩

def sampleAdmitted : CacheEntry where
  response := sampleAnswer
  upstream := sampleUpstream
  insertedAt := 0
  expiresAt := 30 * second
  staleUntil := none
  responseClass := .noError
  producerRevision := 1
  quality := .complete
  checksum := (canonicalChecksum sampleCodec sampleAnswer).getD 0
  formatVersion := cacheEntryFormatVersion

/-- The record written at the instant zero, when the wall clock shows `wall`. -/
def samplePayload (wall : Nat) : List UInt8 :=
  (encodeRecord sampleCodec sampleStoredKey ⟨1, sampleAdmitted⟩ 0 ⟨wall, wall⟩).toOption.getD []

/-- The record restored at the instant zero of a new process with the given lifetime left. -/
def sampleRestored (lifetime : Duration) : CacheRecord where
  version := 1
  entry := { sampleAdmitted with expiresAt := lifetime }

theorem sampleCodec_lossless (wire : List UInt8)
    (written : sampleCodec.toVec sampleAnswer.message = some wire) :
    sampleCodec.fromVec wire = some sampleAnswer.message := by
  cases written
  decide +kernel

/-- Without downtime the restored TTLs are bounded. -/
theorem restored_ttl_bounded_without_downtime :
    decodeRecord sampleCodec (samplePayload second) 0 ⟨second, second⟩ =
      .ok (sampleStoredKey, sampleRestored (30 * second)) ∧
    ∀ now, 0 ≤ now → now < (sampleRestored (30 * second)).entry.expiresAt → ∀ answered,
      (freshCacheResponse (sampleRestored (30 * second)) none now).ttl.minTtl = some answered →
        answered.toNat ≤
          secondsRoundedUp ((sampleRestored (30 * second)).entry.expiresAt - now) := by
  have admitted : admitResponse sampleCodec samplePolicy sampleAnswer sampleUpstream 0 1 =
      some (.accepted sampleAdmitted) := by decide +kernel
  have encoded : encodeRecord sampleCodec sampleStoredKey ⟨1, sampleAdmitted⟩ 0 ⟨second, second⟩ =
      .ok (samplePayload second) := by decide +kernel
  have decoded : decodeRecord sampleCodec (samplePayload second) 0 ⟨second, second⟩ =
      .ok (sampleStoredKey, sampleRestored (30 * second)) := by decide +kernel
  exact ⟨decoded, (restored_ttl_bounded_iff rfl admitted sampleCodec_lossless rfl encoded decoded
    (by decide) none).mpr (by decide +kernel)⟩

/-- Twenty seconds of downtime: nine seconds after the restart one second of the entry is left, and
the answer carries a TTL of twenty-one seconds. -/
theorem restored_ttl_exceeds_lifetime :
    admitResponse sampleCodec samplePolicy sampleAnswer sampleUpstream 0 1 =
      some (.accepted sampleAdmitted) ∧
    encodeRecord sampleCodec sampleStoredKey ⟨1, sampleAdmitted⟩ 0 ⟨second, second⟩ =
      .ok (samplePayload second) ∧
    decodeRecord sampleCodec (samplePayload second) 0 ⟨21 * second, 21 * second⟩ =
      .ok (sampleStoredKey, sampleRestored (10 * second)) ∧
    (freshCacheResponse (sampleRestored (10 * second)) none (9 * second)).ttl.minTtl = some 21 ∧
    secondsRoundedUp ((sampleRestored (10 * second)).entry.expiresAt - 9 * second) = 1 := by
  decide +kernel

end FluxDns.Cache
