import FluxDns.Cache.SnapshotRoundTrip

/-!
# Cache keys keep their parts apart

The parts of a cache key follow one another without separators.  Each of them shows where it ends,
so a key, and the storage key that the codec writes for it, determines the parts that it was built
from.
-/

namespace FluxDns.Cache

open ByteReader Codec List

theorem encodeFingerprint_append_inj {left right : Option CacheFingerprint}
    {leftRest rightRest : List UInt8}
    (same : encodeFingerprint left ++ leftRest = encodeFingerprint right ++ rightRest) :
    left = right ∧ leftRest = rightRest := by
  cases left with
  | none =>
    cases right with
    | none => exact ⟨rfl, append_cancel_left same⟩
    | some right => cases same
  | some left =>
    cases right with
    | none => cases same
    | some right =>
      obtain ⟨bytes, rest⟩ := append_inj (cons.inj same).2
        (left.length_eq.trans right.length_eq.symm)
      cases left
      exact ⟨by simp_all, rest⟩

theorem encodeComponent_inj {left right encoded : List UInt8}
    (put_left : encodeComponent left = .ok encoded)
    (put_right : encodeComponent right = .ok encoded) : left = right := by
  unfold encodeComponent at put_left put_right
  split at put_left
  · split at put_right
    · cases put_left
      exact (append_inj (Except.ok.inj put_right) (by simp)).2.symm
    · cases put_right
  · cases put_left

theorem encodeMode_inj {left right : CacheKeyMode} (same : encodeMode left = encodeMode right) :
    left = right := by
  cases left <;> cases right <;> first | rfl | cases same

theorem bigEndian_inj {left right : UInt64}
    (same : bigEndian 8 left.toNat = bigEndian 8 right.toNat) : left = right := by
  have numbers := congrArg fromBigEndian same
  rw [fromBigEndian_bigEndian, fromBigEndian_bigEndian] at numbers
  have left_lt := left.toNat_lt
  have right_lt := right.toNat_lt
  exact UInt64.toNat_inj.mp (by omega)

theorem cache_key_injective {codec : WireCodec} {namespace_ otherNamespace : CacheNamespace}
    {query otherQuery : CanonicalQuery} {transport otherTransport : UInt64}
    {dimensions otherDimensions : CacheKeyDimensions} {key other : CacheKey}
    (built : buildCacheKey codec namespace_ query transport dimensions = .ok key)
    (otherBuilt : buildCacheKey codec otherNamespace otherQuery otherTransport otherDimensions =
      .ok other)
    (same : key = other ∨ ∃ bytes, encodeStorageKey key = .ok bytes ∧
      encodeStorageKey other = .ok bytes) :
    namespace_ = otherNamespace ∧ transport = otherTransport ∧ dimensions = otherDimensions ∧
      codec.toVec query.message = codec.toVec otherQuery.message := by
  have keys : key = other := by
    rcases same with same | ⟨bytes, stored, otherStored⟩
    · exact same
    · exact Snapshot.encodeStorageKey_injective stored otherStored
  subst keys
  unfold buildCacheKey at built otherBuilt
  cases wire : codec.toVec query.message with
  | none => simp [wire] at built
  | some queryWire =>
    cases otherWire : codec.toVec otherQuery.message with
    | none => simp [otherWire] at otherBuilt
    | some otherQueryWire =>
      rw [wire] at built
      rw [otherWire] at otherBuilt
      obtain ⟨namespaceBytes, put_namespace, built⟩ := bind_eq_ok.mp built
      obtain ⟨queryBytes, put_query, built⟩ := bind_eq_ok.mp built
      obtain ⟨otherNamespaceBytes, put_otherNamespace, otherBuilt⟩ := bind_eq_ok.mp otherBuilt
      obtain ⟨otherQueryBytes, put_otherQuery, otherBuilt⟩ := bind_eq_ok.mp otherBuilt
      cases built
      obtain ⟨rfl, encoded, -⟩ := CacheKey.mk.inj (Except.ok.inj otherBuilt)
      cases put_namespace.symm.trans put_otherNamespace
      simp only [append_assoc, append_cancel_left_eq] at encoded
      obtain ⟨transports, encoded⟩ := append_inj encoded (by simp)
      obtain ⟨modes, encoded⟩ := cons.inj encoded
      obtain ⟨policies, encoded⟩ := encodeFingerprint_append_inj encoded
      obtain ⟨requests, encoded⟩ := encodeFingerprint_append_inj encoded
      obtain ⟨targets, encoded⟩ := encodeFingerprint_append_inj encoded
      obtain ⟨subnets, rfl⟩ := encodeFingerprint_append_inj encoded
      refine ⟨rfl, (bigEndian_inj transports).symm, ?_, ?_⟩
      · cases otherDimensions
        cases encodeMode_inj modes
        simp_all
      · rw [encodeComponent_inj put_query put_otherQuery]

theorem cache_key_injective_short_query : ∃ key,
    buildCacheKey (sampleLongCodec 8) .global (sampleLongQuery 8) 0 sampleDimensions = .ok key ∧
    ∀ transport, buildCacheKey (sampleLongCodec 8) .global (sampleLongQuery 8) transport
      sampleDimensions = .ok key → transport = 0 := by
  obtain ⟨key, built⟩ := sampleLongQuery_key 8 (by decide)
  exact ⟨key, built, fun transport other => (cache_key_injective other built (.inl rfl)).2.1⟩

end FluxDns.Cache
