import FluxDns.Cache.SnapshotWriter

/-!
# Writing a snapshot and reading it back

The reader of a published snapshot hands out, in the order of the visit, the records that may still
answer by its own clocks, each of them once.
-/

namespace FluxDns.Cache.Snapshot

open ByteReader Codec FileSystem Interaction List Visited Instant Draft

variable {draft : Draft} {later : Instant} {visited : List Visited} {last : Draft}
  {codec : WireCodec} {sha : Sha256} {now : Instant} {keys : List CacheKey} {key : CacheKey}
  {bytes : List UInt8} {readings : Nat → Reading} {payload : List UInt8} {maxFileBytes : Nat}

theorem length_magic : magic.length = 4 := by decide

theorem length_encodeHeader {header : Header} (checksum : header.checksum.length = 32) :
    (encodeHeader header).length = headerBytes := by
  simp [encodeHeader, length_magic, checksum, headerBytes]

theorem decodeHeader_encodeHeader {header : Header} (checksum : header.checksum.length = 32) :
    decodeHeader (encodeHeader header) = .ok header := by
  have version : fromBigEndian (bigEndian 2 formatVersion) = formatVersion := by decide
  have size : fromBigEndian (bigEndian 2 headerBytes) = headerBytes := by decide
  have wide (width : Nat) {value : Nat} (fits : value < 256 ^ width) :
      fromBigEndian (bigEndian width value) = value := by
    rw [fromBigEndian_bigEndian, Nat.mod_eq_of_lt fits]
  -- Each slice skips the parts before it.
  simp [decodeHeader, encodeHeader, slice_append_right, slice_append_left, slice_self, length_magic,
    checksum, version, size, wide 8 header.generatedAtUtcMillis.toNat_lt,
    wide 4 header.recordCount.toNat_lt, wide 8 header.bodyBytes.toNat_lt]

/-- The monotonic clock of the reading process can express every duration of 64 bits before and
after the instant. -/
structure ClockRange (later : Instant) : Prop where
  before : u64Size ≤ later
  after : later + u64Size ≤ u64Size * second

/-- An instant that is stored as a wall-clock time, for a reader with other clocks. -/
def moveInstant (at_ now : Instant) (wall : Nat) (later : Instant) (reading : Nat) : Instant :=
  later + (unixNanosForInstant at_ now wall - systemTimeNanos reading)

/-- An entry written with one pair of clocks and read with another one. -/
def moveEntry (entry : CacheEntry) (now : Instant) (walls : WallReadings) (later : Instant)
    (readings : WallReadings) : CacheEntry :=
  { entry with
    insertedAt := later - durationNanos (saturatingDurationSince now entry.insertedAt)
    expiresAt := moveInstant entry.expiresAt now walls.expires later readings.expires
    staleUntil := (entry.staleUntil.filter (now < ·)).map
      (moveInstant · now walls.stale later readings.stale) }

theorem instantFromUnixNanos_moveInstant (range : ClockRange later) (at_ now : Instant)
    (wall reading : Nat) :
    instantFromUnixNanos (unixNanosForInstant at_ now wall) later reading =
      some (moveInstant at_ now wall later reading) := by
  have stored : unixNanosForInstant at_ now wall - systemTimeNanos reading < u64Size :=
    Nat.lt_of_le_of_lt (Nat.sub_le _ _) (unixNanosForInstant_lt at_ now wall)
  unfold instantFromUnixNanos
  split
  · next passed =>
    rw [moveInstant, Nat.sub_eq_zero_of_le passed]
    rfl
  · rw [checkedAdd,
      if_pos (Nat.lt_of_lt_of_le (Nat.add_lt_add_left stored later) range.after)]
    rfl

theorem restoreEntry_moveEntry (range : ClockRange later) (entry : CacheEntry) (now : Instant)
    (walls readings : WallReadings) :
    restoreEntry entry now walls later readings =
      some (moveEntry entry now walls later readings) := by
  have age : durationNanos (saturatingDurationSince now entry.insertedAt) ≤ later :=
    (Nat.le_of_lt (durationNanos_lt _)).trans range.before
  rw [restoreEntry, restoreStale_eq _ fun _ _ => instantFromUnixNanos_moveInstant range _ _ _ _,
    instantFromUnixNanos_moveInstant range, checkedSub, if_pos age]
  rfl

/-- The stored deadlines of a record against the wall clock of its reader. -/
def Visited.stillAnswerable (visited : Visited) (now : Instant) (readings : WallReadings) : Bool :=
  decide (systemTimeNanos readings.expires <
      unixNanosForInstant visited.record.entry.expiresAt now visited.walls.expires) ||
    (visited.record.entry.staleUntil.filter (now < ·)).any fun until_ =>
      decide (systemTimeNanos readings.stale < unixNanosForInstant until_ now visited.walls.stale)

def Visited.moved (visited : Visited) (now later : Instant) (readings : WallReadings) :
    CacheKey × CacheRecord :=
  (visited.key, ⟨visited.record.version,
    moveEntry visited.record.entry now visited.walls later readings⟩)

theorem Visited.isAnswerable_moved (visited : Visited) (now later : Instant)
    (readings : WallReadings) :
    (visited.moved now later readings).2.isAnswerable later =
      visited.stillAnswerable now readings := by
  have ahead (at_ : Instant) (wall reading : Nat) : later < moveInstant at_ now wall later reading ↔
        systemTimeNanos reading < unixNanosForInstant at_ now wall := by
    rw [moveInstant, Nat.lt_add_right_iff_pos, Nat.sub_pos_iff_lt]
  simp only [CacheRecord.isAnswerable, moved, moveEntry, stillAnswerable,
    Option.any_map, ahead]

theorem reads_storageKey (encoded : encodeStorageKey key = .ok bytes) :
    Reads (do
      let namespace_ ← decodeNamespace
      let formatVersion ← readU16
      let encoded ← readBytes maxComponentBytes
      return (⟨namespace_, encoded, formatVersion⟩ : CacheKey)) bytes key := by
  obtain ⟨namespaceBytes, put_namespace, encoded⟩ := bind_eq_ok.mp encoded
  obtain ⟨keyBytes, put_key, result⟩ := bind_eq_ok.mp encoded
  cases result
  refine (reads_namespace put_namespace).bind ((reads_u16 _).bind fun rest => ?_)
  exact (reads_bytes put_key).run_bind _ rest

/-- Keys with the same identity in a snapshot are the same. -/
theorem encodeStorageKey_injective {first second : CacheKey}
    (first_encoded : encodeStorageKey first = .ok bytes)
    (second_encoded : encodeStorageKey second = .ok bytes) : first = second := by
  have both := (reads_storageKey first_encoded []).symm.trans (reads_storageKey second_encoded [])
  cases both
  rfl

/-- The digest by which the writer and the reader recognize a key. -/
def keyDigest (sha : Sha256) (key : CacheKey) : List UInt8 :=
  sha.digest ((encodeStorageKey key).toOption.getD [])

def Apart (sha : Sha256) (keys : List CacheKey) : Prop :=
  ∀ first ∈ keys, ∀ second ∈ keys, keyDigest sha first = keyDigest sha second → first = second

theorem keyDigest_of_encoded (encoded : encodeStorageKey key = .ok bytes) :
    keyDigest sha key = sha.digest bytes := by
  rw [keyDigest, encoded]
  rfl

theorem Apart.subset {others : List CacheKey} (apart : Apart sha keys) (le : others ⊆ keys) :
    Apart sha others :=
  fun first first_mem second second_mem => apart first (le first_mem) second (le second_mem)

theorem Apart.mem_of_seen {rest : List CacheKey} (apart : Apart sha (keys ++ key :: rest))
    (seen : keyDigest sha key ∈ keys.map (keyDigest sha)) : key ∈ keys := by
  obtain ⟨other, mem, same⟩ := mem_map.mp seen
  exact apart other (mem_append_left _ mem) key (by simp) same ▸ mem

/-- The first record of each key that is not in the list yet. -/
def distinctFrom (keys : List CacheKey) : List Visited → List Visited
  | [] => []
  | visited :: rest =>
    if visited.key ∈ keys then distinctFrom keys rest
    else visited :: distinctFrom (visited.key :: keys) rest

theorem key_notMem_of_mem_distinctFrom {kept : Visited} (mem : kept ∈ distinctFrom keys visited) :
    kept.key ∉ keys ∧ kept ∈ visited := by
  induction visited generalizing keys with
  | nil => cases mem
  | cons first rest induction =>
    rw [distinctFrom] at mem
    split at mem
    · exact ⟨(induction mem).1, mem_cons_of_mem _ (induction mem).2⟩
    · next absent =>
      rcases mem_cons.mp mem with rfl | later
      · exact ⟨absent, mem_cons_self⟩
      · obtain ⟨fresh, found⟩ := induction later
        exact ⟨fun old => fresh (mem_cons_of_mem _ old), mem_cons_of_mem _ found⟩

theorem nodup_distinctFrom (keys : List CacheKey) (visited : List Visited) :
    ((distinctFrom keys visited).map (·.key)).Nodup := by
  induction visited generalizing keys with
  | nil => exact nodup_nil
  | cons first rest induction =>
    rw [distinctFrom]
    split
    · exact induction keys
    · refine nodup_cons.mpr ⟨fun repeated => ?_, induction _⟩
      obtain ⟨other, mem, same⟩ := mem_map.mp repeated
      exact (key_notMem_of_mem_distinctFrom mem).1 (same ▸ mem_cons_self)

/-- The payload of a record that was written. -/
structure Written (codec : WireCodec) (now : Instant) (visited : Visited) (payload : List UInt8) :
    Prop where
  storageKey : ∃ storageKey, encodeStorageKey visited.key = .ok storageKey
  encoded : encodeRecord codec visited.key visited.record now visited.walls = .ok payload
  length_le : payload.length ≤ maxRecordBytes

theorem addRecord_cases {next : Draft} {visited : Visited}
    (added : addRecord codec sha now draft visited = .ok next) :
    (∃ storageKey, encodeStorageKey visited.key = .ok storageKey) ∧
    (keyDigest sha visited.key ∈ draft.seen ∧ next = draft ∨
      ∃ payload, keyDigest sha visited.key ∉ draft.seen ∧ draft.recordCount + 1 ≤ maxRecords ∧
        Written codec now visited payload ∧ next = draft.add (keyDigest sha visited.key) payload ∧
        next.body.length < u64Size) := by
  rw [addRecord] at added
  cases taken : nextPayload codec sha now draft visited with
  | error error => simp [taken] at added
  | ok result =>
    rw [taken] at added
    unfold nextPayload at taken
    split at taken <;> try cases taken
    split at taken <;> try cases taken
    next storageKey key =>
    rw [keyDigest_of_encoded key]
    refine ⟨⟨storageKey, key⟩, ?_⟩
    split_ifs at taken with seen full
    · cases taken
      cases added
      exact .inl ⟨seen, rfl⟩
    · split at taken <;> try cases taken
      next payload written =>
      split_ifs at taken with long wide
      cases taken
      cases added
      refine .inr ⟨payload, seen, Nat.le_of_not_lt full, ⟨⟨storageKey, key⟩, written,
        Nat.le_of_not_lt long⟩, rfl, ?_⟩
      simp only [add, frame, length_append, length_bigEndian]
      omega

/-- The draft holds the first record of each key, one frame after the other. -/
structure Drafted (codec : WireCodec) (now : Instant) (kept : List Visited) (draft last : Draft)
    (payloads : List (List UInt8)) : Prop where
  written : List.Forall₂ (Written codec now) kept payloads
  body : last.body = draft.body ++ payloads.flatMap frame
  recordCount : last.recordCount = draft.recordCount + payloads.length
  records_le : draft.recordCount ≤ maxRecords → last.recordCount ≤ maxRecords
  body_lt : draft.body.length < u64Size → last.body.length < u64Size

theorem drafted_of_addRecords (keys : List CacheKey) (seen : draft.seen = keys.map (keyDigest sha))
    (apart : Apart sha (keys ++ visited.map (·.key)))
    (added : addRecords codec sha now visited draft = .ok last) :
    ∃ payloads, Drafted codec now (distinctFrom keys visited) draft last payloads := by
  induction visited generalizing keys draft with
  | nil =>
    cases added
    exact ⟨[], .nil, by simp, rfl, id, id⟩
  | cons first rest induction =>
    rw [addRecords] at added
    cases one : addRecord codec sha now draft first with
    | error error =>
      rw [one] at added
      cases added
    | ok next =>
      rw [one] at added
      obtain ⟨-, ⟨known, rfl⟩ | ⟨payload, fresh, room, written, rfl, narrow⟩⟩ := addRecord_cases one
      · -- A digest in the draft belongs to one of its keys, and so to this key.
        rw [distinctFrom, if_pos (apart.mem_of_seen (seen ▸ known))]
        exact induction keys seen (apart.subset ((sublist_cons_self _ _).append_left _).subset)
          added
      · have unknown : first.key ∉ keys := fun mem =>
          fresh (seen ▸ mem_map_of_mem mem)
        rw [distinctFrom, if_neg unknown]
        have seen_next : (draft.add (keyDigest sha first.key) payload).seen =
            (first.key :: keys).map (keyDigest sha) := by
          rw [add, seen, map_cons]
        obtain ⟨payloads, drafted⟩ := induction (first.key :: keys) seen_next
          (apart.subset perm_middle.symm.subset) added
        refine ⟨payload :: payloads, .cons written drafted.written, ?_, ?_, ?_, ?_⟩
        · rw [drafted.body, add, flatMap_cons, append_assoc]
        · rw [drafted.recordCount, length_cons]
          simp only [add]
          omega
        · exact fun _ => drafted.records_le room
        · exact fun _ => drafted.body_lt narrow

theorem storageKey_of_addRecords (added : addRecords codec sha now visited draft = .ok last) :
    ∀ record ∈ visited, ∃ storageKey, encodeStorageKey record.key = .ok storageKey := by
  induction visited generalizing draft with
  | nil => simp
  | cons first rest induction =>
    rw [addRecords] at added
    cases one : addRecord codec sha now draft first with
    | error error =>
      rw [one] at added
      cases added
    | ok next =>
      rw [one] at added
      exact forall_mem_cons.mpr ⟨(addRecord_cases one).1, induction added⟩

/-- The records that may still answer, as the reader finds them.  The reader reaches a record when
it and those after it remain. -/
def survivors (now later : Instant) (readings : Nat → Reading) :
    List Visited → List (CacheKey × CacheRecord)
  | [] => []
  | visited :: rest =>
    let walls := (readings (rest.length + 1)).walls
    if visited.stillAnswerable now walls then
      visited.moved now later walls :: survivors now later readings rest
    else survivors now later readings rest

/-- A record with a current key and an entry that the reader accepts. -/
structure Restorable (codec : WireCodec) (visited : Visited) : Prop where
  formatVersion : visited.key.formatVersion = cacheKeyFormatVersion
  sound : Sound codec visited.record.entry

theorem decodeRecord_written {visited : Visited}
    (restorable : Restorable codec visited) (written : Written codec now visited payload)
    (range : ClockRange later) (walls : WallReadings) :
    decodeRecord codec payload later walls = .ok (visited.moved now later walls) := by
  rw [decodeRecord, decodeRecord_encodeRecord restorable.formatVersion restorable.sound
    written.encoded, restoreEntry_moveEntry range]
  rfl

theorem admitDecoded_fresh (reader : Reader) {storageKey : List UInt8}
    (encoded : encodeStorageKey key = .ok storageKey) (fresh : sha.digest storageKey ∉ reader.seen)
    (record : CacheRecord) :
    ∃ next, admitDecoded sha reader key record =
        .ok (next, if record.isAnswerable reader.now then some (key, record) else none) ∧
      next.rest = reader.rest ∧ next.remaining = reader.remaining ∧ next.now = reader.now ∧
      next.seen = sha.digest storageKey :: reader.seen := by
  simp only [admitDecoded, encoded, if_neg fresh]
  by_cases answers : record.isAnswerable reader.now = true
  · rw [if_pos answers, if_pos answers]
    exact ⟨_, rfl, rfl, rfl, rfl, rfl⟩
  · rw [if_neg answers, if_neg answers]
    exact ⟨_, rfl, rfl, rfl, rfl, rfl⟩

theorem nextRecord_frame {visited : Visited} {rest : List UInt8}
    (restorable : Restorable codec visited) (written : Written codec now visited payload)
    {reader : Reader} (range : ClockRange reader.now)
    (position : reader.rest = frame payload ++ rest)
    (fresh : keyDigest sha visited.key ∉ reader.seen)
    (faultless : ∀ index, (readings index).fault = none) :
    ∃ next, nextRecord codec sha readings reader = .ok (next,
        if visited.stillAnswerable now (readings reader.remaining).walls then
          some (visited.moved now reader.now (readings reader.remaining).walls) else none) ∧
      next.rest = rest ∧ next.remaining = reader.remaining - 1 ∧ next.now = reader.now ∧
      next.seen = keyDigest sha visited.key :: reader.seen := by
  have width : payload.length < 256 ^ 4 := Nat.lt_of_le_of_lt written.length_le (by decide)
  have header : (reader.rest.take 4) = bigEndian 4 payload.length := by
    rw [position, frame, append_assoc]
    exact take_left' (length_bigEndian _ _)
  have after : reader.rest.drop 4 = payload ++ rest := by
    rw [position, frame, append_assoc]
    exact drop_left' (length_bigEndian _ _)
  have length : fromBigEndian (reader.rest.take 4) = payload.length := by
    rw [header, fromBigEndian_bigEndian, Nat.mod_eq_of_lt width]
  have long_enough : ¬reader.rest.length < 4 := by
    rw [position, frame]
    simp
  have available : ¬(payload ++ rest).length < payload.length := by simp
  obtain ⟨storageKey, key⟩ := written.storageKey
  rw [keyDigest_of_encoded key] at fresh ⊢
  unfold nextRecord
  rw [faultless reader.remaining]
  rw [if_neg long_enough, length, if_neg (Nat.not_lt_of_le written.length_le), after,
    if_neg available, take_left, drop_left, admitPayload,
    decodeRecord_written restorable written range]
  rw [← isAnswerable_moved visited now reader.now]
  exact admitDecoded_fresh { reader with rest := rest, remaining := reader.remaining - 1 } key
    fresh _

/-- Reading the frames of a list of records hands out those that may still answer. -/
theorem readFrames_written {kept : List Visited} {payloads : List (List UInt8)}
    (written : List.Forall₂ (Written codec now) kept payloads)
    (restorable : ∀ visited ∈ kept, Restorable codec visited) {reader : Reader}
    (range : ClockRange reader.now) (position : reader.rest = payloads.flatMap frame)
    (remaining : reader.remaining = kept.length)
    (seen : reader.seen = keys.map (keyDigest sha)) (nodup : (kept.map (·.key)).Nodup)
    (fresh : ∀ visited ∈ kept, visited.key ∉ keys) (apart : Apart sha (keys ++ kept.map (·.key)))
    (faultless : ∀ index, (readings index).fault = none) :
    ∃ last, readFrames codec sha readings kept.length reader =
      .ok (last, survivors now reader.now readings kept) := by
  induction written generalizing reader keys with
  | nil => exact ⟨reader, rfl⟩
  | @cons visited payload rest payloads first others induction =>
    have new : keyDigest sha visited.key ∉ reader.seen := fun known =>
      fresh visited mem_cons_self (apart.mem_of_seen (seen ▸ known))
    obtain ⟨next, taken, next_rest, next_remaining, next_now, next_seen⟩ := nextRecord_frame
      (restorable visited mem_cons_self) first range
      (by rw [position, flatMap_cons]) new faultless
    obtain ⟨distinct, nodup_rest⟩ := nodup_cons.mp nodup
    obtain ⟨last, read⟩ := induction
      (fun record mem => restorable record (mem_cons_of_mem _ mem))
      (next_now ▸ range) next_rest
      (by rw [next_remaining, remaining, length_cons, Nat.add_sub_cancel])
      (by rw [next_seen, seen, map_cons]) nodup_rest
      (fun record mem known => by
        rcases mem_cons.mp known with same | old
        · exact distinct (mem_map.mpr ⟨record, mem, same⟩)
        · exact fresh record (mem_cons_of_mem _ mem) old)
      (apart.subset perm_middle.symm.subset)
    refine ⟨last, ?_⟩
    rw [length_cons, readFrames_succ, taken, ok_bind]
    rw [read, survivors, next_now, remaining, length_cons]
    split <;> rfl

theorem survivors_sublist (now later : Instant) (readings : Nat → Reading) (kept : List Visited) :
    ((survivors now later readings kept).map (·.1)).Sublist (kept.map (·.key)) := by
  induction kept with
  | nil => exact List.Sublist.slnil
  | cons visited rest induction =>
    simp only [survivors]
    split
    · exact induction.cons_cons visited.key
    · exact induction.cons visited.key

theorem drop_draftFile (sha : Sha256) (inputs : WriteInputs) (draft : Draft) :
    (draftFile sha inputs draft).drop headerBytes = draft.body :=
  drop_left' (length_encodeHeader (sha.length_digest _))

theorem draftHeader_recordCount (sha : Sha256) (inputs : WriteInputs)
    (records : draft.recordCount ≤ maxRecords) :
    (draftHeader sha inputs draft).recordCount.toNat = draft.recordCount := by
  exact Nat.mod_eq_of_lt (Nat.lt_of_le_of_lt records (by decide))

theorem opened_draftFile (inputs : WriteInputs) (records : draft.recordCount ≤ maxRecords)
    (narrow : draft.body.length < u64Size)
    (bounded : (draftFile sha inputs draft).length ≤ maxFileBytes) :
    Opened sha (draftFile sha inputs draft) maxFileBytes (draftHeader sha inputs draft) := by
  have checksum : (draftHeader sha inputs draft).checksum.length = 32 := sha.length_digest _
  have length := length_encodeHeader checksum
  have count := draftHeader_recordCount sha inputs records
  have bytes : (draftHeader sha inputs draft).bodyBytes.toNat = draft.body.length := by
    exact Nat.mod_eq_of_lt narrow
  refine ⟨?_, ?_, ?_, bounded, ?_⟩
  · rw [draftFile, take_left' length]
    exact decodeHeader_encodeHeader checksum
  · rw [count]
    exact records
  · rw [bytes, draftFile, length_append, length]
  · rw [drop_draftFile]
    rfl

/-- A record as the store holds it: with a key of the current format and an admitted entry. -/
structure Storable (codec : WireCodec) (visited : Visited) : Prop where
  formatVersion : visited.key.formatVersion = cacheKeyFormatVersion
  admitted : ∃ policy response upstream inserted revision,
    admitResponse codec policy response upstream inserted revision =
      some (.accepted visited.record.entry)

/-- No two different keys of the visit have the same digest. -/
def CollisionFree (sha : Sha256) (visited : List Visited) : Prop :=
  ∀ first ∈ visited, ∀ second ∈ visited, ∀ left right,
    encodeStorageKey first.key = .ok left → encodeStorageKey second.key = .ok right →
    sha.digest left = sha.digest right → left = right

theorem CollisionFree.apart (free : CollisionFree sha visited)
    (added : addRecords codec sha now visited draft = .ok last) :
    Apart sha (visited.map (·.key)) := by
  intro first first_mem second second_mem same
  obtain ⟨one, one_mem, rfl⟩ := mem_map.mp first_mem
  obtain ⟨two, two_mem, rfl⟩ := mem_map.mp second_mem
  obtain ⟨left, left_encoded⟩ := storageKey_of_addRecords added one one_mem
  obtain ⟨right, right_encoded⟩ := storageKey_of_addRecords added two two_mem
  rw [keyDigest, keyDigest, left_encoded, right_encoded] at same
  obtain rfl := free one one_mem two two_mem left right left_encoded right_encoded same
  exact encodeStorageKey_injective left_encoded right_encoded

/-- The reader of a published draft hands out the records that may still answer. -/
theorem readAll_draftFile
    (lossless : ∀ message wire, codec.toVec message = some wire → codec.fromVec wire = some message)
    {inputs : WriteInputs}
    (added : addRecords codec sha inputs.now inputs.visited .empty = .ok draft)
    (storable : ∀ visited ∈ inputs.visited, Storable codec visited)
    (free : CollisionFree sha inputs.visited) (range : ClockRange later)
    (bounded : (draftFile sha inputs draft).length ≤ maxFileBytes) :
    ∃ reader, openCacheSnapshot sha (some (draftFile sha inputs draft)) maxFileBytes later none =
        .ok (some reader) ∧
      ∀ (readings : Nat → Reading) (sizes : Nat → Nat),
        (∀ index, (readings index).fault = none) → (∀ index, 0 < sizes index) →
        ∃ last, readAll codec sha readings reader.remaining sizes reader =
          .ok (last, survivors inputs.now later readings (distinctFrom [] inputs.visited)) := by
  have apart : Apart sha (inputs.visited.map (·.key)) := free.apart added
  obtain ⟨payloads, drafted⟩ := drafted_of_addRecords [] rfl apart added
  have records := drafted.records_le (by decide)
  have narrow := drafted.body_lt (by decide)
  have opened := opened_draftFile inputs records narrow bounded
  refine ⟨_, openCacheSnapshot_eq_ok_iff.mpr ⟨rfl, _, _, rfl, opened, rfl⟩,
    fun readings sizes faultless positive => ?_⟩
  rw [readAll_eq_readFrames (Nat.le_refl _) positive]
  have remaining :
      ((draftHeader sha inputs draft).reader (draftFile sha inputs draft) later).remaining =
      (distinctFrom [] inputs.visited).length := by
    rw [Header.reader, draftHeader_recordCount sha inputs records, drafted.recordCount,
      drafted.written.length_eq]
    exact Nat.zero_add _
  have position : ((draftHeader sha inputs draft).reader (draftFile sha inputs draft) later).rest =
      payloads.flatMap frame := by
    rw [Header.reader, drop_draftFile, drafted.body]
    rfl
  rw [remaining]
  have kept_apart : Apart sha ([] ++ (distinctFrom [] inputs.visited).map (·.key)) :=
    apart.subset (map_subset _ fun visited mem => (key_notMem_of_mem_distinctFrom mem).2)
  refine readFrames_written drafted.written (fun visited mem => ?_) range position remaining rfl
    (nodup_distinctFrom _ _) (fun visited _ => not_mem_nil) kept_apart faultless
  · have stored := storable visited (key_notMem_of_mem_distinctFrom mem).2
    obtain ⟨policy, response, upstream, inserted, revision, admitted⟩ := stored.admitted
    exact ⟨stored.formatVersion, sound_of_admitted (admitted_of_admitResponse admitted) lossless⟩

/-- A stand-in for the digest that keeps the first bytes. -/
def sampleSha : Sha256 where
  digest bytes := (bytes ++ replicate 32 0).take 32
  length_digest bytes := by simp

/-- A machine without faults. -/
def quiet : Choice := ⟨none, 7, 0, fun _ => 0⟩

def sampleInputs (visited : List Visited) : WriteInputs where
  prepared := .ok ()
  generatedAtUtcMillis := 1
  now := 0
  visited := visited
  ending := .ok ()
  late := false
  publishCurrent := .ok true

def sampleVisited (byte : UInt8) : Visited :=
  ⟨⟨.global, [byte], cacheKeyFormatVersion⟩, ⟨1, sampleAdmitted⟩, ⟨second, second⟩, false⟩

/-- The second key is visited between two visits of the first one. -/
def sampleVisit : WriteInputs := sampleInputs ([1, 2, 1].map sampleVisited)

/-- The only fault of this run is the sync of the directory, after the rename. -/
def unsynced (index : Nat) : Choice :=
  if index = 5 then { quiet with fault := some ⟨.other, false⟩ } else quiet

/-- The disk before that run, with another file published. -/
def sampleStart : SnapshotDisk := (∅ : SnapshotDisk).insert .published ⟨1, [1], true, ()⟩

end FluxDns.Cache.Snapshot
