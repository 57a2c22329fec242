import FluxDns.Cache.Codec

/-!
# What a restored record keeps

Every component reader takes back what its encoder wrote, so that a record that `decode_record`
accepts from the output of `encode_record` is determined by the written one and the clocks.
-/

namespace FluxDns.Cache.Codec

open ByteReader List CodecError StateT CacheStrategyId

variable {encoded : List UInt8} {now : Instant} {payload : List UInt8} {record : CacheRecord}
  {walls : WallReadings} {α : Type}

theorem reads_byte (byte : UInt8) : Reads readByte [byte] byte := by
  intro rest
  exact (reads_take corrupt [byte]).run_bind _ rest

theorem reads_u16 (value : UInt16) : Reads readU16 (putU16 value) value := by
  have fits : value.toNat < 256 ^ 2 := value.toNat_lt
  have reads := (reads_number corrupt fits).map UInt16.ofNat
  rw [UInt16.ofNat_toNat] at reads
  exact reads

theorem reads_u32 {value : Nat} (fits : value < u32Size) : Reads readU32 (putU32 value) value :=
  reads_number corrupt (by simpa [u32Size] using fits)

theorem reads_u64 {value : Nat} (fits : value < u64Size) : Reads readU64 (putU64 value) value :=
  reads_number corrupt (by simpa [u64Size] using fits)

theorem reads_bytes {value : List UInt8} {maximum : Nat}
    (put : putBytes value maximum = .ok encoded) : Reads (readBytes maximum) encoded value := by
  unfold putBytes at put
  split at put <;> cases put
  next fits =>
  intro rest
  rw [readBytes, append_assoc, (reads_u32 fits.1).run_bind]
  rw [run_ensure_bind]
  exact ⟨decide_eq_true fits.2, reads_take _ value rest⟩

theorem reads_strategy {strategy : CacheStrategyId}
    (put : putBytes strategy.bytes maxComponentBytes = .ok encoded) :
    Reads readStrategy encoded strategy := by
  have valid : fromValidatedConfigId strategy.bytes = some strategy := by
    simp [fromValidatedConfigId, strategy.nonempty, strategy.length_le,
      strategy.valid]
  intro rest
  rw [readStrategy, (reads_bytes put).run_bind, valid]
  rfl

theorem reads_digest (digest : ClientCacheDigest) : Reads readDigest digest.bytes digest := by
  intro rest
  have reads := reads_take corrupt digest.bytes
  rw [digest.length_eq] at reads
  rw [readDigest, reads.run_bind, dif_pos digest.length_eq]
  rfl

theorem reads_namespace {namespace_ : CacheNamespace}
    (put : encodeNamespace namespace_ = .ok encoded) :
    Reads decodeNamespace encoded namespace_ := by
  intro rest
  cases namespace_ with
  | global =>
    cases put
    exact (reads_byte 0).run_bind _ rest
  | strategy strategy =>
    cases bytes : putBytes strategy.bytes maxComponentBytes with
    | error error =>
      rw [encodeNamespace, bytes] at put
      cases put
    | ok written =>
      rw [encodeNamespace, bytes] at put
      cases put
      calc decodeNamespace.run ([1] ++ (written ++ rest))
          = (readStrategy >>= fun strategy => pure (.strategy strategy)).run
              (written ++ rest) := (reads_byte 1).run_bind _ _
        _ = .ok (.strategy strategy, rest) := (reads_strategy bytes).run_bind _ rest
  | clientStrategy digest strategy =>
    cases bytes : putBytes strategy.bytes maxComponentBytes with
    | error error =>
      rw [encodeNamespace, bytes] at put
      cases put
    | ok written =>
      rw [encodeNamespace, bytes] at put
      cases put
      calc decodeNamespace.run ([2] ++ (digest.bytes ++ written) ++ rest)
          = (readDigest >>= fun digest => readStrategy >>= fun strategy =>
              pure (.clientStrategy digest strategy)).run
              (digest.bytes ++ (written ++ rest)) := by
            rw [append_assoc, append_assoc]
            exact (reads_byte 2).run_bind _ _
        _ = (readStrategy >>= fun strategy =>
              pure (.clientStrategy digest strategy)).run (written ++ rest) :=
            (reads_digest digest).run_bind _ _
        _ = .ok (.clientStrategy digest strategy, rest) := (reads_strategy bytes).run_bind _ rest

theorem reads_upstreamId {id : CacheUpstreamId}
    (put : putBytes id.bytes maxUpstreamIdBytes = .ok encoded) :
    Reads decodeUpstreamId encoded id := by
  have valid : CacheUpstreamId.fromValidatedConfigId id.bytes = some id := by
    simp [CacheUpstreamId.fromValidatedConfigId, id.nonempty, id.length_le, id.valid]
  intro rest
  rw [decodeUpstreamId, (reads_bytes put).run_bind, valid]
  rfl

theorem reads_option_none (reader : RecordReader α) : Reads (readOption reader) [0] none := by
  intro rest
  exact (reads_byte 0).run_bind _ rest

theorem run_option_some (reader : RecordReader α) (input : List UInt8) :
    (readOption reader).run (1 :: input) = (some <$> reader).run input := by
  calc (readOption reader).run ([1] ++ input)
      = (reader >>= fun value => pure (some value)).run input := (reads_byte 1).run_bind _ _
    _ = (some <$> reader).run input := by rw [map_eq_pure_bind]

theorem reads_option_some {reader : RecordReader α} {bytes : List UInt8} {value : α}
    (reads : Reads reader bytes value) : Reads (readOption reader) (1 :: bytes) (some value) := by
  intro rest
  exact reads.map some rest

theorem reads_used {used : Option CacheUpstreamId} (put : encodeUsed used = .ok encoded) :
    Reads (readOption decodeUpstreamId) encoded used := by
  cases used with
  | none =>
    cases put
    exact reads_option_none decodeUpstreamId
  | some id =>
    cases bytes : putBytes id.bytes maxUpstreamIdBytes with
    | error error =>
      rw [encodeUsed, bytes] at put
      cases put
    | ok written =>
      rw [encodeUsed, bytes] at put
      cases put
      exact reads_option_some (reads_upstreamId bytes)

theorem decodeQuality_encodeQuality (quality : CacheQuality) :
    decodeQuality (encodeQuality quality) = some quality := by
  cases quality <;> rfl

theorem decodeResponseClass_encodeResponseClass (responseClass : CacheResponseClass) :
    decodeResponseClass (encodeResponseClass responseClass) = some responseClass := by
  cases responseClass <;> rfl

theorem durationNanos_lt (duration : Duration) : durationNanos duration < u64Size := by
  simp only [durationNanos, u64Size]
  omega

theorem unixNanosForInstant_lt (at_ reference : Instant) (wall : Nat) :
    unixNanosForInstant at_ reference wall < u64Size := by
  simp only [unixNanosForInstant, u64Size]
  omega

def readStale (later : Instant) (wall : Nat) : RecordReader (Option Instant) :=
  readOption do require (instantFromUnixNanos (← readU64) later wall) .corrupt

/-- A reader that goes on after the stale window found some window or none. -/
theorem run_stale_bind {β : Type} {staleUntil : Option Instant} {later : Instant}
    {wall reading : Nat} {next : Option Instant → RecordReader β} {rest : List UInt8}
    {result : β × List UInt8}
    (read : (readStale later reading >>= next).run (encodeStale staleUntil now wall ++ rest) =
      .ok result) : ∃ restored, (next restored).run rest = .ok result := by
  have absent (none_written : encodeStale staleUntil now wall = [0]) :
      ∃ restored, (next restored).run rest = .ok result := by
    rw [none_written, readStale, (reads_option_none _).run_bind] at read
    exact ⟨none, read⟩
  cases staleUntil with
  | none => exact absent rfl
  | some until_ =>
    by_cases ahead : now < until_
    · rw [encodeStale, if_pos ahead, readStale, run_bind, cons_append,
        run_option_some, map_bind, (reads_u64 (unixNanosForInstant_lt _ _ _)).run_bind] at read
      cases restored : instantFromUnixNanos (unixNanosForInstant until_ now wall) later reading with
      | none =>
        rw [restored] at read
        cases read
      | some instant =>
        rw [restored] at read
        exact ⟨some instant, read⟩
    · exact absent (by rw [encodeStale, if_neg ahead])

/-- The restored record as the written one and the clocks determine it. -/
structure Restored (codec : WireCodec) (record : CacheRecord) (now : Instant) (wall : Nat)
    (later : Instant) (reading : Nat) (restored : CacheRecord) : Prop where
  version : restored.version = record.version
  upstream : restored.entry.upstream = record.entry.upstream
  producerRevision : restored.entry.producerRevision = record.entry.producerRevision
  quality : restored.entry.quality = record.entry.quality
  responseClass : restored.entry.responseClass = record.entry.responseClass
  checksum : restored.entry.checksum = record.entry.checksum
  formatVersion : restored.entry.formatVersion = record.entry.formatVersion
  response : ∃ wire, codec.toVec record.entry.response.message = some wire ∧
    decodeResponse codec wire = some restored.entry.response
  insertedAt : Instant.checkedSub later
      (durationNanos (Instant.saturatingDurationSince now record.entry.insertedAt)) =
    some restored.entry.insertedAt
  expiresAt : instantFromUnixNanos (unixNanosForInstant record.entry.expiresAt now wall) later
    reading = some restored.entry.expiresAt

theorem encodeRecord_ok {codec : WireCodec} {key : CacheKey}
    (encoded : encodeRecord codec key record now walls = .ok payload) :
    ∃ wire namespace_ keyBytes target used wireBytes,
      codec.toVec record.entry.response.message = some wire ∧
      encodeNamespace key.namespace_ = .ok namespace_ ∧
      putBytes key.encoded maxComponentBytes = .ok keyBytes ∧
      putBytes record.entry.upstream.targetId.bytes maxUpstreamIdBytes = .ok target ∧
      encodeUsed record.entry.upstream.usedId = .ok used ∧
      putBytes wire maxDnsWireBytes = .ok wireBytes ∧
      payload = namespace_ ++ (putU16 key.formatVersion ++ (keyBytes ++
        (encodeNumbers record now walls.expires ++
          (encodeStale record.entry.staleUntil now walls.stale ++
            (target ++ (used ++ wireBytes)))))) := by
  unfold encodeRecord at encoded
  split at encoded <;> try cases encoded
  next wire written =>
  split at encoded <;> try cases encoded
  simp only [bind_eq_ok] at encoded
  obtain ⟨namespace_, put_namespace, keyBytes, put_key, target, put_target, used, put_used,
    wireBytes, put_wire, result⟩ := encoded
  cases result
  exact ⟨wire, namespace_, keyBytes, target, used, wireBytes, written, put_namespace, put_key,
    put_target, put_used, put_wire, rfl⟩

theorem restored_of_decodeRecord {codec : WireCodec} {key restoredKey : CacheKey}
    {restored : CacheRecord} {later : Instant} {readings : WallReadings}
    (encoded : encodeRecord codec key record now walls = .ok payload)
    (decoded : decodeRecord codec payload later readings = .ok (restoredKey, restored)) :
    restoredKey = key ∧
      Restored codec record now walls.expires later readings.expires restored := by
  obtain ⟨wire, namespace_, keyBytes, target, used, wireBytes, written, put_namespace, put_key,
    put_target, put_used, put_wire, rfl⟩ := encodeRecord_ok encoded
  obtain ⟨rest, read⟩ : ∃ rest, (readRecord codec later readings).run
      (namespace_ ++ (putU16 key.formatVersion ++ (keyBytes ++
        (encodeNumbers record now walls.expires ++
          (encodeStale record.entry.staleUntil now walls.stale ++
            (target ++ (used ++ wireBytes))))))) = .ok ((restoredKey, restored), rest) := by
    unfold decodeRecord at decoded
    cases outcome : (readRecord codec later readings).run _ with
    | error error =>
      rw [outcome] at decoded
      cases decoded
    | ok result =>
      rw [outcome] at decoded
      obtain ⟨value, rest⟩ := result
      cases decoded
      exact ⟨rest, rfl⟩
  rw [readRecord, (reads_namespace put_namespace).run_bind, (reads_u16 _).run_bind,
    run_ensure_bind] at read
  obtain ⟨keyFormat, read⟩ := read
  rw [(reads_bytes put_key).run_bind] at read
  simp only [encodeNumbers, append_assoc] at read
  rw [(reads_u64 record.version.toNat_lt).run_bind, (reads_u16 _).run_bind, run_ensure_bind] at read
  obtain ⟨entryFormat, read⟩ := read
  rw [(reads_u64 record.entry.producerRevision.toNat_lt).run_bind, cons_append,
    ← singleton_append, (reads_byte _).run_bind, run_require_bind] at read
  obtain ⟨quality, quality_eq, read⟩ := read
  rw [(reads_byte _).run_bind, run_require_bind] at read
  obtain ⟨responseClass, class_eq, read⟩ := read
  rw [(reads_u64 record.entry.checksum.toNat_lt).run_bind,
    (reads_u64 (durationNanos_lt _)).run_bind,
    (reads_u64 (unixNanosForInstant_lt _ _ _)).run_bind] at read
  obtain ⟨staleUntil, read⟩ := run_stale_bind read
  rw [(reads_upstreamId put_target).run_bind, (reads_used put_used).run_bind] at read
  have payload_end : wireBytes = wireBytes ++ [] := (append_nil wireBytes).symm
  rw [payload_end, (reads_bytes put_wire).run_bind, run_bind, run_get, pure_bind] at read
  obtain ⟨-, read⟩ := run_ensure_bind.mp read
  obtain ⟨response, response_eq, read⟩ := run_require_bind.mp read
  obtain ⟨-, read⟩ := run_ensure_bind.mp read
  obtain ⟨insertedAt, inserted_eq, read⟩ := run_require_bind.mp read
  obtain ⟨expiresAt, expires_eq, read⟩ := run_require_bind.mp read
  rw [decodeQuality_encodeQuality] at quality_eq
  rw [decodeResponseClass_encodeResponseClass] at class_eq
  cases read
  cases quality_eq
  cases class_eq
  refine ⟨rfl, ?_⟩
  exact ⟨UInt64.ofNat_toNat, rfl, UInt64.ofNat_toNat, rfl, rfl, UInt64.ofNat_toNat, rfl,
    ⟨wire, written, response_eq⟩, inserted_eq, expires_eq⟩

end FluxDns.Cache.Codec
