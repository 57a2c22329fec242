import FluxDns.Cache.Entry

/-!
# Admission of responses to the cache

Which responses become cache entries, and with which lifetime.
-/

namespace FluxDns.Cache

open Instant

/-- The admission parameters besides the store. -/
structure CacheAdmissionPolicy where
  failureTtl : Duration
  optimisticMaxAge : Option Duration
  negativeTtlMax : Option Duration
  negativeOptimisticMaxAge : Option Duration

inductive CacheAdmissionRejection where
  | refused
  | otherResponse
  | missingTtl
  | zeroTtl
  deriving DecidableEq

inductive CacheAdmissionOutcome where
  | accepted (entry : CacheEntry)
  | rejected (rejection : CacheAdmissionRejection)
  deriving DecidableEq

/-- The checksum over the encoded response, nothing when it cannot be encoded. -/
def canonicalChecksum (codec : WireCodec) (response : CanonicalResponse) : Option UInt64 :=
  (codec.toVec response.message).map fun wire =>
    wire.foldl (fun hash byte => (hash ^^^ byte.toUInt64) * 0x100000001b3) 0xcbf29ce484222325

def fromSecs (seconds : UInt32) : Duration := seconds.toNat * second

/-- The negative TTL of the response, cut to the configured maximum. -/
def negativeTtl (response : CanonicalResponse) (failureTtl : Duration)
    (negativeTtlMax : Option Duration) : Except CacheAdmissionRejection Duration :=
  let ttl := ((response.ttl.negativeTtl <|> response.ttl.minTtl).map fromSecs) <|>
    (if failureTtl = 0 then none else some failureTtl)
  match ttl with
  | none => .error .missingTtl
  | some ttl =>
    match negativeTtlMax.filter (· ≠ 0) with
    | none => .ok ttl
    | some bound => .ok (min ttl bound)

/-- The class, the quality and the lifetime of a response, or why it is not admitted. -/
def admissionClass (policy : CacheAdmissionPolicy) (response : CanonicalResponse) :
    Except CacheAdmissionRejection
      (CacheResponseClass × CacheQuality × Except CacheAdmissionRejection Duration) :=
  match response.responseClass with
  | .positive =>
    .ok (.noError, .complete, match response.ttl.minTtl with
      | some seconds => .ok (fromSecs seconds)
      | none => .error .missingTtl)
  | .noData =>
    .ok (.noData, .negative, negativeTtl response policy.failureTtl policy.negativeTtlMax)
  | .nxDomain =>
    .ok (.nxDomain, .negative, negativeTtl response policy.failureTtl policy.negativeTtlMax)
  | .servFail => .ok (.servFail, .failure, .ok policy.failureTtl)
  | .truncated => .ok (.truncated, .failure, .ok policy.failureTtl)
  | .refused => .error .refused
  | .other _ => .error .otherResponse

/-- The window after expiry in which an entry may still answer. -/
def CacheAdmissionPolicy.staleWindow (policy : CacheAdmissionPolicy) :
    CacheQuality → Option Duration
  | .complete => policy.optimisticMaxAge
  | .negative => policy.negativeOptimisticMaxAge
  | .failure => none

/-- Turn a validated response into an entry; nothing when it cannot be encoded. -/
def admitResponse (codec : WireCodec) (policy : CacheAdmissionPolicy)
    (response : CanonicalResponse) (upstream : CacheUpstreamProvenance) (now : Instant)
    (producerRevision : UInt64) : Option CacheAdmissionOutcome :=
  match admissionClass policy response with
  | .error rejection => some (.rejected rejection)
  | .ok (_, _, .error rejection) => some (.rejected rejection)
  | .ok (responseClass, quality, .ok ttl) =>
    if ttl = 0 then some (.rejected .zeroTtl)
    else
      let expiresAt := (checkedAdd now ttl).getD now
      let staleUntil := ((policy.staleWindow quality).filter (· ≠ 0)).bind
        (checkedAdd expiresAt)
      (canonicalChecksum codec response).map fun checksum =>
        .accepted {
          response := response
          upstream := upstream
          insertedAt := now
          expiresAt := expiresAt
          staleUntil := staleUntil
          responseClass := responseClass
          producerRevision := producerRevision
          quality := quality
          checksum := checksum
          formatVersion := cacheEntryFormatVersion }

/-- What the entry of an accepted response holds. -/
structure Admitted (codec : WireCodec) (policy : CacheAdmissionPolicy)
    (response : CanonicalResponse) (inserted : Instant) (entry : CacheEntry) : Prop where
  same : entry.response = response
  insertedAt : entry.insertedAt = inserted
  classified : ∃ ttl,
    admissionClass policy response = .ok (entry.responseClass, entry.quality, .ok ttl) ∧
      entry.expiresAt = (checkedAdd inserted ttl).getD inserted
  staleUntil : entry.staleUntil = ((policy.staleWindow entry.quality).filter (· ≠ 0)).bind
    (checkedAdd entry.expiresAt)
  checksum : canonicalChecksum codec response = some entry.checksum
  formatVersion : entry.formatVersion = cacheEntryFormatVersion

section Admitted

variable {codec : WireCodec} {policy : CacheAdmissionPolicy} {response : CanonicalResponse}
  {upstream : CacheUpstreamProvenance} {inserted : Instant} {revision : UInt64} {entry : CacheEntry}

theorem admitted_of_admitResponse
    (admitted : admitResponse codec policy response upstream inserted revision =
      some (.accepted entry)) : Admitted codec policy response inserted entry := by
  unfold admitResponse at admitted
  split at admitted <;> try cases admitted
  next responseClass quality ttl classified =>
  split at admitted <;> try cases admitted
  obtain ⟨checksum, computed, accepted⟩ := Option.map_eq_some_iff.mp admitted
  cases accepted
  exact ⟨rfl, rfl, ⟨ttl, classified, rfl⟩, rfl, computed, rfl⟩

theorem Admitted.written (admitted : Admitted codec policy response inserted entry) :
    ∃ wire, codec.toVec entry.response.message = some wire := by
  obtain ⟨wire, written, -⟩ := Option.map_eq_some_iff.mp admitted.checksum
  exact ⟨wire, admitted.same ▸ written⟩

end Admitted

end FluxDns.Cache
