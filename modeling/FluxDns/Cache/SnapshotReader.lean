import FluxDns.Cache.SnapshotFile

/-!
# Reading a snapshot in batches

However the calls are divided, a reader that is driven to its end makes one pass for each record of
the header.  So batches do not matter: the records, the counters and the first error are those of
the undivided sequence of passes, and each pass moves exactly one counter.
-/

namespace FluxDns.Cache.Snapshot

open ByteReader Codec Summary

variable {found : Option (CacheKey × CacheRecord)}

section Passes

variable (codec : WireCodec) (sha : Sha256) (readings : Nat → Reading)

/-- A number of passes without a division into batches. -/
def readFrames : Nat → Reader → Except CacheSnapshotError (Reader × List (CacheKey × CacheRecord))
  | 0, reader => .ok (reader, [])
  | passes + 1, reader => do
      let (next, found) ← nextRecord codec sha readings reader
      let (last, records) ← readFrames passes next
      return (last, found.toList ++ records)

end Passes

variable {codec : WireCodec} {sha : Sha256} {readings : Nat → Reading}
  {records : List (CacheKey × CacheRecord)} {maxFileBytes : Nat}

def Summary.total (summary : Summary) : Nat :=
  summary.loaded + summary.expired + summary.corrupt + summary.incompatible

theorem Summary.total_count {summary : Summary} (within : summary.total + 1 < u64Size)
    (outcome : Outcome) : (summary.count outcome).total = summary.total + 1 := by
  cases outcome <;> simp only [count, total, increment] at within ⊢ <;> omega

/-- What a pass changes besides the digests and the position in the file. -/
structure Pass (reader next : Reader) (found : Option (CacheKey × CacheRecord)) : Prop where
  remaining : next.remaining = reader.remaining - 1
  now : next.now = reader.now
  counted : ∃ outcome, next.summary = reader.summary.count outcome ∧
    (outcome = .loaded ↔ found.isSome = true)

theorem pass_of_admitDecoded {reader moved next : Reader} {key : CacheKey} {record : CacheRecord}
    (admitted : admitDecoded sha moved key record = .ok (next, found))
    (remaining : moved.remaining = reader.remaining - 1) (now : moved.now = reader.now)
    (summary : moved.summary = reader.summary) : Pass reader next found := by
  unfold admitDecoded at admitted
  split at admitted <;> try cases admitted
  dsimp only at admitted
  split at admitted
  · cases admitted
    exact ⟨remaining, now, .corrupt, by rw [summary], by simp⟩
  · split at admitted <;> cases admitted
    · exact ⟨remaining, now, .loaded, by rw [summary], by simp⟩
    · exact ⟨remaining, now, .expired, by rw [summary], by simp⟩

theorem pass_of_nextRecord {reader next : Reader}
    (taken : nextRecord codec sha readings reader = .ok (next, found)) :
    Pass reader next found := by
  unfold nextRecord at taken
  split at taken <;> try cases taken
  dsimp only at taken
  split_ifs at taken
  unfold admitPayload at taken
  split at taken
  · exact pass_of_admitDecoded taken rfl rfl rfl
  · cases taken
    exact ⟨rfl, rfl, .incompatible, rfl, by simp⟩
  · cases taken
    exact ⟨rfl, rfl, .corrupt, rfl, by simp⟩

theorem remaining_of_fillBatch {passes room : Nat} {reader next : Reader}
    {batch : List (CacheKey × CacheRecord)}
    (filled : fillBatch codec sha readings passes room reader = .ok (next, batch)) :
    next.remaining ≤ reader.remaining ∧
      (0 < passes → 0 < room → next.remaining ≤ reader.remaining - 1) := by
  induction passes generalizing room reader batch with
  | zero =>
    cases filled
    exact ⟨Nat.le_refl _, fun none_left => absurd none_left (Nat.lt_irrefl 0)⟩
  | succ passes induction =>
    cases room with
    | zero =>
      cases filled
      exact ⟨Nat.le_refl _, fun _ no_room => absurd no_room (Nat.lt_irrefl 0)⟩
    | succ room =>
      obtain ⟨⟨middle, found⟩, taken, continued⟩ := bind_eq_ok.mp filled
      have one := (pass_of_nextRecord taken).remaining
      cases found with
      | none =>
        have rest := (induction continued).1
        omega
      | some record =>
        obtain ⟨⟨final, records⟩, rest_filled, result⟩ := bind_eq_ok.mp continued
        cases result
        have rest := (induction rest_filled).1
        omega

def prepend (records : List (CacheKey × CacheRecord))
    (result : Except CacheSnapshotError (Reader × List (CacheKey × CacheRecord))) :
    Except CacheSnapshotError (Reader × List (CacheKey × CacheRecord)) :=
  result.map fun read => (read.1, records ++ read.2)

theorem prepend_prepend (first second : List (CacheKey × CacheRecord))
    (result : Except CacheSnapshotError (Reader × List (CacheKey × CacheRecord))) :
    prepend first (prepend second result) = prepend (first ++ second) result := by
  cases result with
  | error error => rfl
  | ok read => simp [prepend, Except.map]

theorem readFrames_succ (passes : Nat) (reader : Reader) :
    readFrames codec sha readings (passes + 1) reader =
      nextRecord codec sha readings reader >>= fun step =>
        prepend step.2.toList (readFrames codec sha readings passes step.1) := by
  rw [readFrames]
  cases nextRecord codec sha readings reader with
  | error error => rfl
  | ok step =>
    obtain ⟨next, found⟩ := step
    dsimp only
    cases readFrames codec sha readings passes next <;> rfl

theorem fillBatch_succ (passes room : Nat) (reader : Reader) :
    fillBatch codec sha readings (passes + 1) (room + 1) reader =
      nextRecord codec sha readings reader >>= fun step =>
        prepend step.2.toList
          (fillBatch codec sha readings passes (room + 1 - step.2.toList.length) step.1) := by
  rw [fillBatch]
  cases nextRecord codec sha readings reader with
  | error error => rfl
  | ok step =>
    obtain ⟨next, found⟩ := step
    cases found with
    | none =>
      change fillBatch codec sha readings passes (room + 1) next =
        prepend [] (fillBatch codec sha readings passes (room + 1) next)
      cases fillBatch codec sha readings passes (room + 1) next <;> rfl
    | some record =>
      change (fillBatch codec sha readings passes room next >>= fun rest =>
        pure (rest.1, record :: rest.2)) =
          prepend [record] (fillBatch codec sha readings passes room next)
      cases fillBatch codec sha readings passes room next <;> rfl

theorem fillBatch_readFrames (passes room : Nat) {reader : Reader}
    (left : reader.remaining = passes) :
    (fillBatch codec sha readings passes room reader >>= fun batch =>
      prepend batch.2 (readFrames codec sha readings batch.1.remaining batch.1)) =
        readFrames codec sha readings passes reader := by
  have whole (passes : Nat) (reader : Reader) :
      prepend [] (readFrames codec sha readings passes reader) =
        readFrames codec sha readings passes reader := by
    cases readFrames codec sha readings passes reader <;> rfl
  induction passes generalizing room reader with
  | zero => rw [fillBatch, ok_bind, whole, left]
  | succ passes induction =>
    cases room with
    | zero => rw [fillBatch, ok_bind, whole, left]
    | succ room =>
      rw [fillBatch_succ, readFrames_succ]
      cases taken : nextRecord codec sha readings reader with
      | error error => rfl
      | ok step =>
        have one : step.1.remaining = passes := by
          rw [(pass_of_nextRecord taken).remaining, left, Nat.add_sub_cancel]
        rw [ok_bind, ok_bind, ← induction (room + 1 - step.2.toList.length) one]
        cases fillBatch codec sha readings passes (room + 1 - step.2.toList.length) step.1 with
        | error error => rfl
        | ok batch =>
          rw [ok_bind, prepend_prepend]
          rfl

/-- The division into batches does not matter. -/
theorem readAll_eq_readFrames {calls : Nat} {sizes : Nat → Nat} {reader : Reader}
    (enough : reader.remaining ≤ calls) (positive : ∀ index, 0 < sizes index) :
    readAll codec sha readings calls sizes reader =
      readFrames codec sha readings reader.remaining reader := by
  induction calls generalizing sizes reader with
  | zero =>
    rw [Nat.eq_zero_of_le_zero enough]
    rfl
  | succ calls induction =>
    rw [readAll]
    split
    · next complete =>
      rw [eq_of_beq complete]
      rfl
    · next incomplete =>
      have some_left : reader.remaining ≠ 0 := fun none_left => incomplete (by
        rw [Reader.isComplete, none_left]
        rfl)
      rw [← fillBatch_readFrames reader.remaining (sizes 0) rfl, nextBatch,
        if_neg (Nat.ne_of_gt (positive 0))]
      cases filled : fillBatch codec sha readings reader.remaining (sizes 0) reader with
      | error error => rfl
      | ok batch =>
        obtain ⟨next, records⟩ := batch
        have progress := (remaining_of_fillBatch filled).2 (Nat.pos_of_ne_zero some_left)
          (positive 0)
        rw [ok_bind, ok_bind]
        dsimp only
        rw [induction (by omega) fun index => positive (index + 1)]
        cases readFrames codec sha readings next.remaining next <;> rfl

theorem Summary.loaded_count {summary : Summary} (within : summary.total + 1 < u64Size)
    {outcome : Outcome} (loaded : outcome = .loaded ↔ found.isSome = true) :
    (summary.count outcome).loaded = summary.loaded + found.toList.length := by
  cases found with
  | none =>
    cases outcome with
    | loaded => simp at loaded
    | expired | corrupt | incompatible => rfl
  | some record =>
    obtain rfl := loaded.mpr rfl
    simp only [count, total, increment, Option.toList_some, List.length_cons,
      List.length_nil] at within ⊢
    omega

/-- Every pass moves one counter, and a record is handed out exactly when it is counted as
loaded. -/
theorem summary_of_readFrames {passes : Nat} {reader last : Reader}
    (within : reader.summary.total + passes < u64Size)
    (read : readFrames codec sha readings passes reader = .ok (last, records)) :
    last.summary.total = reader.summary.total + passes ∧
      last.summary.loaded = reader.summary.loaded + records.length ∧
      last.remaining = reader.remaining - passes := by
  induction passes generalizing reader records with
  | zero =>
    cases read
    exact ⟨rfl, rfl, rfl⟩
  | succ passes induction =>
    rw [readFrames_succ] at read
    obtain ⟨⟨next, found⟩, taken, continued⟩ := bind_eq_ok.mp read
    have pass := pass_of_nextRecord taken
    obtain ⟨outcome, summary, loaded⟩ := pass.counted
    have one : next.summary.total = reader.summary.total + 1 := by
      rw [summary, total_count (by omega)]
    cases rest : readFrames codec sha readings passes next with
    | error error =>
      rw [rest] at continued
      cases continued
    | ok result =>
      obtain ⟨final, others⟩ := result
      rw [rest] at continued
      cases continued
      obtain ⟨total, others_loaded, remaining⟩ := induction (by omega) rest
      refine ⟨by omega, ?_, by rw [remaining, pass.remaining]; omega⟩
      rw [others_loaded, summary, loaded_count (by omega) loaded, List.length_append,
        Nat.add_assoc]

/-- What has been checked of a file before its first record is read. -/
structure Opened (sha : Sha256) (bytes : List UInt8) (maxFileBytes : Nat) (header : Header) :
    Prop where
  decoded : decodeHeader (bytes.take headerBytes) = .ok header
  records : header.recordCount.toNat ≤ maxRecords
  length : headerBytes + header.bodyBytes.toNat = bytes.length
  bounded : bytes.length ≤ maxFileBytes
  checksum : fileChecksum sha (bytes.drop headerBytes) header = header.checksum

/-- The reader of a file that was checked. -/
def Header.reader (header : Header) (bytes : List UInt8) (now : Instant) : Reader where
  rest := bytes.drop headerBytes
  remaining := header.recordCount.toNat
  now := now
  summary := .zero
  seen := []

theorem openCacheSnapshot_eq_ok_iff {content : Option (List UInt8)}
    {now : Instant} {fault : Option CacheSnapshotError} {reader : Reader} :
    openCacheSnapshot sha content maxFileBytes now fault = .ok (some reader) ↔
      fault = none ∧ ∃ bytes header, content = some bytes ∧ Opened sha bytes maxFileBytes header ∧
        reader = header.reader bytes now := by
  constructor
  · intro opened
    unfold openCacheSnapshot at opened
    split at opened <;> try cases opened
    next bytes =>
    split_ifs at opened with short long
    split at opened <;> try cases opened
    next header decoded =>
    split_ifs at opened with size checksum
    cases opened
    rw [not_or, not_not] at size
    exact ⟨rfl, bytes, header, rfl, ⟨decoded, Nat.le_of_not_lt size.1, size.2,
      Nat.le_of_not_lt long, not_not.mp checksum⟩, rfl⟩
  · rintro ⟨rfl, bytes, header, rfl, opened, rfl⟩
    have length := opened.length
    rw [openCacheSnapshot, if_neg (by omega), if_neg (Nat.not_lt_of_le opened.bounded),
      opened.decoded]
    dsimp only
    rw [if_neg fun failed => failed.elim (Nat.not_lt_of_le opened.records)
      fun different => different length, if_neg (not_not.mpr opened.checksum)]
    rfl

/-- A full read counts every record of the header once, and the division into batches changes
neither the counters nor the records. -/
theorem counts_of_readAll {bytes : List UInt8} {header : Header}
    (opened : Opened sha bytes maxFileBytes header) {now : Instant} {sizes : Nat → Nat}
    (positive : ∀ index, 0 < sizes index) {last : Reader}
    (read : readAll codec sha readings header.recordCount.toNat sizes (header.reader bytes now) =
      .ok (last, records)) :
    last.isComplete = true ∧ last.summary.total = header.recordCount.toNat ∧
      last.summary.loaded = records.length := by
  have enough : (header.reader bytes now).remaining ≤ header.recordCount.toNat := Nat.le_refl _
  rw [readAll_eq_readFrames enough positive] at read
  have records_le := opened.records
  have within : (header.reader bytes now).summary.total + header.recordCount.toNat < u64Size := by
    simp only [Header.reader, zero, total, u64Size, maxRecords] at records_le ⊢
    omega
  obtain ⟨total, loaded, remaining⟩ := summary_of_readFrames within read
  refine ⟨?_, total.trans (Nat.zero_add _), loaded.trans (Nat.zero_add _)⟩
  rw [Reader.isComplete, remaining, Nat.sub_eq_zero_of_le enough]
  rfl

end FluxDns.Cache.Snapshot
