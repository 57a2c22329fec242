import FluxDns.Cache.RestoredTtl

/-!
# Writing a record and reading it back

A written record is read back with its instants moved to the clocks of the reader and everything
else unchanged.  With unchanged clocks the entry is cut to the present: what lies behind it is
forgotten, and an insertion ahead of it becomes an insertion now.
-/

namespace FluxDns.Cache.Codec

open ByteReader Instant List StateT

variable {codec : WireCodec} {response : CanonicalResponse} {policy : CacheAdmissionPolicy}
  {β : Type} {α : Type} {entry : CacheEntry} {next : α → RecordReader β} {reader : RecordReader α}
  {inserted : Instant}

theorem run_ensure_true {ε : Type} {condition : Bool} (holds : condition = true) (failure : ε)
    (next : Unit → Reader ε β) (input : List UInt8) :
    (ensure condition failure >>= next).run input = (next ()).run input := by
  rw [ensure, if_pos holds]
  rfl

theorem run_require_some {ε : Type} {value : Option α} {present : α} (found : value = some present)
    (failure : ε) (next : α → Reader ε β) (input : List UInt8) :
    (require value failure >>= next).run input = (next present).run input := by
  rw [found]
  rfl

/-- The stored response of a lossless wire form is the written one. -/
theorem decodeResponse_own {wire : List UInt8} (read : codec.fromVec wire = some response.message) :
    decodeResponse codec wire = some response := by
  obtain ⟨question, checks⟩ := response.question
  simp only [decodeResponse, read, Option.bind_eq_bind, Option.bind_some]
  rw [if_pos ⟨checks.messageType, response.id_eq⟩]
  have asked : CommonChecks (Message.ask { Metadata.new .query with
      recursionDesired := response.message.metadata.recursionDesired
      authenticData := response.message.metadata.authenticData
      checkingDisabled := response.message.metadata.checkingDisabled } question.toQuery
      response.message.edns) .query question.toQuery :=
    ⟨rfl, rfl, rfl, checks.ednsVersion⟩
  obtain ⟨query, built, same⟩ := CanonicalQuery.fromMessage_ok asked
  rw [Message.ask] at built
  rw [checks.queries, built]
  simp only [Except.toOption, Option.bind_some]
  rw [CanonicalResponse.fromMessage_own response checks same]

variable (staleUntil : Option Instant)

/-- The stale window after its way through the codec. -/
def restoreStale (now : Instant) (wall : Nat) (later : Instant)
    (reading : Nat) : Option (Option Instant) :=
  match staleUntil with
  | some until_ =>
    if now < until_ then
      (instantFromUnixNanos (unixNanosForInstant until_ now wall) later reading).map some
    else some none
  | none => some none

/-- The entry after its way through the codec, nothing when an instant is not representable. -/
def restoreEntry (entry : CacheEntry) (now : Instant) (walls : WallReadings) (later : Instant)
    (readings : WallReadings) : Option CacheEntry := do
  let staleUntil ← restoreStale entry.staleUntil now walls.stale later readings.stale
  let insertedAt ← checkedSub later
    (durationNanos (saturatingDurationSince now entry.insertedAt))
  let expiresAt ← instantFromUnixNanos (unixNanosForInstant entry.expiresAt now walls.expires) later
    readings.expires
  return { entry with insertedAt := insertedAt, expiresAt := expiresAt, staleUntil := staleUntil }

/-- The result of a reader whose value may be missing. -/
def readOr {α : Type} (value : Option α) (rest : List UInt8) : Except CodecError (α × List UInt8) :=
  value.elim (.error .corrupt) fun present => .ok (present, rest)

theorem run_stale (now later : Instant) (wall reading : Nat) (rest : List UInt8) :
    (readStale later reading).run (encodeStale staleUntil now wall ++ rest) =
      readOr (restoreStale staleUntil now wall later reading) rest := by
  cases staleUntil with
  | none => exact reads_option_none _ rest
  | some until_ =>
    rw [encodeStale, restoreStale]
    split
    · rw [readStale, cons_append, run_option_some, map_bind,
        (reads_u64 (unixNanosForInstant_lt _ _ _)).run_bind]
      cases instantFromUnixNanos (unixNanosForInstant until_ now wall) later reading <;> rfl
    · exact reads_option_none _ rest

/-- What the reader checks an entry for. -/
structure Sound (codec : WireCodec) (entry : CacheEntry) : Prop where
  formatVersion : entry.formatVersion = cacheEntryFormatVersion
  responseClass : entry.responseClass = responseClassFromResponse entry.response.responseClass
  checksum : canonicalChecksum codec entry.response = some entry.checksum
  lossless : ∀ wire, codec.toVec entry.response.message = some wire →
    codec.fromVec wire = some entry.response.message

theorem admissionClass_class {responseClass : CacheResponseClass} {quality : CacheQuality}
    {ttl : Except CacheAdmissionRejection Duration}
    (admitted : admissionClass policy response = .ok (responseClass, quality, ttl)) :
    responseClass = responseClassFromResponse response.responseClass := by
  unfold admissionClass at admitted
  split at admitted <;> cases admitted <;> simp_all [responseClassFromResponse]

theorem sound_of_admitted
    (admitted : Admitted codec policy response inserted entry) (lossless : ∀ message wire,
      codec.toVec message = some wire → codec.fromVec wire = some message) : Sound codec entry := by
  obtain ⟨rfl, -, ⟨ttl, classified, -⟩, -, computed, version⟩ := admitted
  exact ⟨version, admissionClass_class classified, computed, lossless _⟩

theorem run_stale_bind_eq (now later : Instant) (wall reading : Nat)
    (next : Option Instant → RecordReader β) (rest : List UInt8) :
    (readStale later reading >>= next).run (encodeStale staleUntil now wall ++ rest) =
      (restoreStale staleUntil now wall later reading).elim (.error .corrupt) fun restored =>
        (next restored).run rest := by
  rw [run_bind, run_stale]
  cases restoreStale staleUntil now wall later reading <;> rfl

/-- A record that was written is read back, unless one of its instants is not representable. -/
theorem decodeRecord_encodeRecord {key : CacheKey} {record : CacheRecord} {now : Instant}
    {walls : WallReadings} {payload : List UInt8}
    (current : key.formatVersion = cacheKeyFormatVersion) (sound : Sound codec record.entry)
    (encoded : encodeRecord codec key record now walls = .ok payload) (later : Instant)
    (readings : WallReadings) :
    (readRecord codec later readings).run payload =
      readOr ((restoreEntry record.entry now walls later readings).map fun entry =>
        (key, ⟨record.version, entry⟩)) [] := by
  obtain ⟨wire, namespace_, keyBytes, target, used, wireBytes, written, put_namespace, put_key,
    put_target, put_used, put_wire, rfl⟩ := encodeRecord_ok encoded
  rw [readRecord, (reads_namespace put_namespace).run_bind, (reads_u16 _).run_bind,
    run_ensure_true (by simp [current]), (reads_bytes put_key).run_bind]
  simp only [encodeNumbers, append_assoc]
  rw [(reads_u64 record.version.toNat_lt).run_bind, (reads_u16 _).run_bind,
    run_ensure_true (by simp [sound.formatVersion]),
    (reads_u64 record.entry.producerRevision.toNat_lt).run_bind, cons_append,
    ← singleton_append, (reads_byte _).run_bind,
    run_require_some (decodeQuality_encodeQuality _), (reads_byte _).run_bind,
    run_require_some (decodeResponseClass_encodeResponseClass _),
    (reads_u64 record.entry.checksum.toNat_lt).run_bind,
    (reads_u64 (durationNanos_lt _)).run_bind,
    (reads_u64 (unixNanosForInstant_lt _ _ _)).run_bind]
  refine (run_stale_bind_eq _ _ _ _ _ _ _).trans ?_
  rw [restoreEntry]
  cases restoreStale record.entry.staleUntil now walls.stale later readings.stale with
  | none => rfl
  | some staleUntil =>
    have payload_end : wireBytes = wireBytes ++ [] := (append_nil wireBytes).symm
    simp only [Option.elim_some, Option.bind_eq_bind, Option.bind_some]
    rw [(reads_upstreamId put_target).run_bind, (reads_used put_used).run_bind, payload_end,
      (reads_bytes put_wire).run_bind, run_bind, run_get, pure_bind,
      run_ensure_true (by rfl), run_require_some (decodeResponse_own (sound.lossless wire written)),
      run_ensure_true (by simp [sound.responseClass, sound.checksum])]
    cases checkedSub later
        (durationNanos (saturatingDurationSince now record.entry.insertedAt)) with
    | none => rfl
    | some insertedAt =>
      cases instantFromUnixNanos (unixNanosForInstant record.entry.expiresAt now walls.expires)
          later readings.expires with
      | none => rfl
      | some expiresAt =>
        simp only [Option.bind_some, UInt64.ofNat_toNat]
        rfl

/-- An instant moved up to the present, and down to the end of the wall clock's range. -/
def cutInstant (at_ now : Instant) (wall : Nat) : Instant :=
  now + min (saturatingDurationSince at_ now) (u64Size - 1 - systemTimeNanos wall)

/-- The entry as it is written and read at the same time. -/
def cutEntry (entry : CacheEntry) (now : Instant) (walls : WallReadings) : CacheEntry :=
  { entry with
    insertedAt := now - durationNanos (saturatingDurationSince now entry.insertedAt)
    expiresAt := cutInstant entry.expiresAt now walls.expires
    staleUntil := (entry.staleUntil.filter (now < ·)).map (cutInstant · now walls.stale) }

theorem instantFromUnixNanos_unixNanosForInstant {at_ : Instant}
    (representable : at_ < u64Size * second) (now : Instant) (wall : Nat) :
    instantFromUnixNanos (unixNanosForInstant at_ now wall) now wall =
      some (cutInstant at_ now wall) := by
  have remaining : unixNanosForInstant at_ now wall - systemTimeNanos wall =
      min (saturatingDurationSince at_ now) (u64Size - 1 - systemTimeNanos wall) := by
    simp only [unixNanosForInstant, durationNanos]
    omega
  unfold instantFromUnixNanos
  split
  · next passed =>
    rw [cutInstant, ← remaining, Nat.sub_eq_zero_of_le passed]
    rfl
  · next later =>
    have ahead : now ≤ at_ := by
      rw [saturatingDurationSince] at remaining
      unfold Instant at *
      omega
    rw [remaining, checkedAdd, if_pos, cutInstant]
    rw [saturatingDurationSince]
    unfold Instant Duration at *
    omega

/-- An entry whose instants are representable. -/
structure Representable (entry : CacheEntry) : Prop where
  expiresAt : entry.expiresAt < u64Size * second
  staleUntil : ∀ until_, entry.staleUntil = some until_ → until_ < u64Size * second

theorem checkedAdd_lt {instant result : Instant} {duration : Duration}
    (added : checkedAdd instant duration = some result) : result < u64Size * second := by
  unfold checkedAdd at added
  split at added <;> cases added
  next fits => exact fits

theorem representable_of_admitted (admitted : Admitted codec policy response inserted entry)
    (representable : inserted < u64Size * second) : Representable entry := by
  constructor
  · obtain ⟨ttl, -, expires⟩ := admitted.classified
    rw [expires]
    cases sum : checkedAdd inserted ttl with
    | none => exact representable
    | some expiresAt => exact checkedAdd_lt sum
  · intro until_ window
    rw [admitted.staleUntil] at window
    obtain ⟨age, -, sum⟩ := Option.bind_eq_some_iff.mp window
    exact checkedAdd_lt sum

theorem restoreStale_eq {now later : Instant} {wall reading : Nat} {moved : Instant → Instant}
    (read : ∀ until_, staleUntil = some until_ →
      instantFromUnixNanos (unixNanosForInstant until_ now wall) later reading =
        some (moved until_)) :
    restoreStale staleUntil now wall later reading =
      some ((staleUntil.filter (now < ·)).map moved) := by
  cases staleUntil with
  | none => rfl
  | some until_ =>
    rw [restoreStale]
    split
    · next ahead => simp [read until_ rfl, ahead]
    · next behind => simp [Nat.le_of_not_lt behind]

theorem restoreEntry_cutEntry (representable : Representable entry) (now : Instant)
    (walls : WallReadings) :
    restoreEntry entry now walls now walls = some (cutEntry entry now walls) := by
  have age : durationNanos (saturatingDurationSince now entry.insertedAt) ≤ now :=
    (Nat.min_le_left _ _).trans (Nat.sub_le _ _)
  rw [restoreEntry, restoreStale_eq _ fun until_ window =>
    instantFromUnixNanos_unixNanosForInstant (representable.staleUntil until_ window) _ _,
    instantFromUnixNanos_unixNanosForInstant representable.expiresAt, checkedSub, if_pos age]
  rfl

/-- The reader accepts no input that it does not read to its end. -/
def Exhausts {α : Type} (reader : RecordReader α) : Prop :=
  ∀ input value rest, reader.run input = .ok (value, rest) → rest = []

theorem Exhausts.bind (exhausts : ∀ value, Exhausts (next value)) : Exhausts (reader >>= next) := by
  intro input value rest read
  rw [run_bind, bind_eq_ok] at read
  obtain ⟨⟨middle, remaining⟩, -, read⟩ := read
  exact exhausts middle remaining value rest read

theorem Exhausts.of_unread
    (unread : ∀ input value rest, reader.run input = .ok (value, rest) → rest = input)
    {condition : List UInt8 → Bool} (empty : ∀ input, condition input = true → input = [])
    (failure : CodecError) :
    Exhausts (get >>= fun input => ensure (condition input) failure >>= fun _ => reader) := by
  intro input value rest read
  rw [run_bind, run_get, pure_bind, run_ensure_bind] at read
  rw [unread input value rest read.2]
  exact empty input read.1

theorem run_unread {value : Option α} {failure : CodecError}
    (unread : ∀ value input result rest, (next value).run input = .ok (result, rest) → rest = input)
    (input : List UInt8) (result : β) (rest : List UInt8)
    (read : (require value failure >>= next).run input = .ok (result, rest)) : rest = input := by
  obtain ⟨present, -, read⟩ := run_require_bind.mp read
  exact unread present input result rest read

theorem readRecord_exhausts (codec : WireCodec) (now : Instant) (walls : WallReadings) :
    Exhausts (readRecord codec now walls) := by
  -- Every component up to the check for the end of the input may leave a rest.
  iterate 19 refine Exhausts.bind fun _ => ?_
  refine Exhausts.of_unread ?_ (fun input empty => isEmpty_iff.mp empty) _
  refine run_unread fun response input result rest read => ?_
  obtain ⟨-, read⟩ := run_ensure_bind.mp read
  refine run_unread (fun insertedAt => run_unread fun expiresAt input result rest read => ?_)
    input result rest read
  cases read
  rfl

/-- A record that an admission produced is read back as its entry cut to the present, whatever the
clocks show; and no input is accepted that is not read to its end. -/
theorem record_round_trip {codec : WireCodec}
    (lossless : ∀ message wire, codec.toVec message = some wire →
      codec.fromVec wire = some message) :
    (∀ (policy : CacheAdmissionPolicy) (response : CanonicalResponse)
        (upstream : CacheUpstreamProvenance) (inserted : Instant) (revision : UInt64)
        (entry : CacheEntry) (key : CacheKey) (version : UInt64) (now : Instant)
        (walls : WallReadings) (payload : List UInt8),
      inserted < u64Size * second →
      admitResponse codec policy response upstream inserted revision = some (.accepted entry) →
      key.formatVersion = cacheKeyFormatVersion →
      encodeRecord codec key ⟨version, entry⟩ now walls = .ok payload →
      decodeRecord codec payload now walls = .ok (key, ⟨version, cutEntry entry now walls⟩)) ∧
    ∀ (payload : List UInt8) (now : Instant) (walls : WallReadings),
      (∃ error, (readRecord codec now walls).run payload = .error error) ∨
        ∃ result, (readRecord codec now walls).run payload = .ok (result, []) := by
  constructor
  · intro policy response upstream inserted revision entry key version now walls payload
      representable admitted current encoded
    have admitted := admitted_of_admitResponse admitted
    have sound := sound_of_admitted admitted lossless
    have restored := restoreEntry_cutEntry
      (representable_of_admitted admitted representable) now walls
    rw [decodeRecord, decodeRecord_encodeRecord current sound encoded, restored]
    rfl
  · intro payload now walls
    cases read : (readRecord codec now walls).run payload with
    | error error => exact .inl ⟨error, rfl⟩
    | ok result =>
      obtain ⟨value, rest⟩ := result
      obtain rfl := readRecord_exhausts codec now walls payload value rest read
      exact .inr ⟨value, rfl⟩

/-- The sample answer, admitted at a later instant. -/
def sampleInserted (inserted : Instant) : CacheEntry :=
  { sampleAdmitted with insertedAt := inserted, expiresAt := inserted + 30 * second }

/-- The record of that entry, written at the instant `now`. -/
def sampleWritten (inserted now : Instant) : List UInt8 :=
  (encodeRecord sampleCodec sampleStoredKey ⟨1, sampleInserted inserted⟩ now
    ⟨second, second⟩).toOption.getD []

theorem sampleCodec_reads (message : Message) (wire : List UInt8)
    (written : sampleCodec.toVec message = some wire) :
    sampleCodec.fromVec wire = some message := by
  simp only [sampleCodec] at written ⊢
  split at written <;> cases written
  next same => rw [if_pos rfl, same]

/-- Ten seconds after its admission the sample record is read back unchanged. -/
theorem record_round_trip_sample :
    admitResponse sampleCodec samplePolicy sampleAnswer sampleUpstream (5 * second) 1 =
      some (.accepted (sampleInserted (5 * second))) ∧
    decodeRecord sampleCodec (sampleWritten (5 * second) (15 * second)) (15 * second)
      ⟨second, second⟩ = .ok (sampleStoredKey, ⟨1, sampleInserted (5 * second)⟩) := by
  have admitted :
      admitResponse sampleCodec samplePolicy sampleAnswer sampleUpstream (5 * second) 1 =
        some (.accepted (sampleInserted (5 * second))) := by decide +kernel
  have encoded : encodeRecord sampleCodec sampleStoredKey ⟨1, sampleInserted (5 * second)⟩
      (15 * second) ⟨second, second⟩ = .ok (sampleWritten (5 * second) (15 * second)) := by
    decide +kernel
  have unchanged : cutEntry (sampleInserted (5 * second)) (15 * second) ⟨second, second⟩ =
      sampleInserted (5 * second) := by decide +kernel
  have read := (record_round_trip sampleCodec_reads).1 samplePolicy sampleAnswer sampleUpstream
    (5 * second) 1 _ sampleStoredKey 1 (15 * second) ⟨second, second⟩ _ (by decide) admitted rfl
    encoded
  exact ⟨admitted, read⟩

/-- A record admitted after the clock of the snapshot was read comes back with an earlier
insertion, which is neither its expiry nor its stale window. -/
theorem record_round_trip_moves_insertion :
    admitResponse sampleCodec samplePolicy sampleAnswer sampleUpstream (5 * second) 1 =
      some (.accepted (sampleInserted (5 * second))) ∧
    encodeRecord sampleCodec sampleStoredKey ⟨1, sampleInserted (5 * second)⟩ (3 * second)
      ⟨second, second⟩ = .ok (sampleWritten (5 * second) (3 * second)) ∧
    decodeRecord sampleCodec (sampleWritten (5 * second) (3 * second)) (3 * second)
      ⟨second, second⟩ =
        .ok (sampleStoredKey, ⟨1, { sampleInserted (5 * second) with insertedAt := 3 * second }⟩) ∧
    (sampleInserted (5 * second)).insertedAt = 5 * second := by
  decide +kernel

end FluxDns.Cache.Codec
