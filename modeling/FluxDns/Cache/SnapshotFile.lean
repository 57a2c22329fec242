import FluxDns.Library.FileSystem
import FluxDns.Cache.Key

/-!
# The snapshot file

A header with a checksum, followed by one frame for each record.  The writer fills a temporary file
beside the published one and renames it; the reader checks the whole file before it decodes the
first record, and hands the records out in batches.
-/

namespace FluxDns.Cache.Snapshot

open ByteReader Codec FileSystem Interaction Program

def formatVersion : Nat := 1

def headerBytes : Nat := 60

def maxRecords : Nat := 100000

def maxRecordBytes : Nat := 2 * 1024 * 1024

inductive CacheSnapshotError where
  | timeout
  | unavailable
  | superseded
  | corrupt
  | incompatible
  | resourceExhausted
  | io (error : IoError)
  deriving DecidableEq

def mapCodecError : CodecError → CacheSnapshotError
  | .corrupt => .corrupt
  | .incompatible => .incompatible
  | .resourceExhausted => .resourceExhausted

/-- The hash function of the snapshots. -/
structure Sha256 where
  digest : List UInt8 → List UInt8
  length_digest : ∀ bytes, (digest bytes).length = 32

/-- The header of a snapshot file. -/
structure Header where
  generatedAtUtcMillis : UInt64
  recordCount : UInt32
  bodyBytes : UInt64
  checksum : List UInt8

/-- The letters `FDCS`. -/
def magic : List UInt8 := [70, 68, 67, 83]

def encodeHeader (header : Header) : List UInt8 :=
  magic ++ (bigEndian 2 formatVersion ++ (bigEndian 2 headerBytes ++
    (bigEndian 8 header.generatedAtUtcMillis.toNat ++ (bigEndian 4 header.recordCount.toNat ++
      (bigEndian 8 header.bodyBytes.toNat ++ header.checksum)))))

def decodeHeader (bytes : List UInt8) : Except CacheSnapshotError Header :=
  if slice bytes 0 4 ≠ magic then .error .corrupt
  else if fromBigEndian (slice bytes 4 6) ≠ formatVersion then .error .incompatible
  else if fromBigEndian (slice bytes 6 8) ≠ headerBytes then .error .corrupt
  else .ok {
    generatedAtUtcMillis := UInt64.ofNat (fromBigEndian (slice bytes 8 16))
    recordCount := UInt32.ofNat (fromBigEndian (slice bytes 16 20))
    bodyBytes := UInt64.ofNat (fromBigEndian (slice bytes 20 28))
    checksum := slice bytes 28 60 }

/-- The checksum of a body and of the header in front of it. -/
def fileChecksum (sha : Sha256) (body : List UInt8) (header : Header) : List UInt8 :=
  sha.digest (body ++ (bigEndian 8 header.generatedAtUtcMillis.toNat ++
    (bigEndian 4 header.recordCount.toNat ++ bigEndian 8 header.bodyBytes.toNat)))

/-- A record that the store hands to the writer. -/
structure Visited where
  key : CacheKey
  record : CacheRecord
  /-- The wall clock while the record is encoded. -/
  walls : WallReadings
  /-- The deadline has passed when the record is reached. -/
  late : Bool

/-- What has been written to the temporary file after the header. -/
structure Draft where
  body : List UInt8
  recordCount : Nat
  seen : List (List UInt8)

def Draft.empty : Draft := ⟨[], 0, []⟩

/-- One record in the file. -/
def frame (payload : List UInt8) : List UInt8 := bigEndian 4 payload.length ++ payload

def Draft.add (draft : Draft) (digest payload : List UInt8) : Draft :=
  ⟨draft.body ++ frame payload, draft.recordCount + 1, digest :: draft.seen⟩

/-- The digest and the payload of the next record, nothing when its key was written before. -/
def nextPayload (codec : WireCodec) (sha : Sha256) (now : Instant) (draft : Draft)
    (visited : Visited) : Except CacheSnapshotError (Option (List UInt8 × List UInt8)) :=
  if visited.late then .error .timeout
  else
    match encodeStorageKey visited.key with
    | .error error => .error (mapCodecError error)
    | .ok storageKey =>
      if sha.digest storageKey ∈ draft.seen then .ok none
      else if maxRecords < draft.recordCount + 1 then .error .resourceExhausted
      else
        match encodeRecord codec visited.key visited.record now visited.walls with
        | .error error => .error (mapCodecError error)
        | .ok payload =>
          if maxRecordBytes < payload.length then .error .resourceExhausted
          else if u64Size ≤ draft.body.length + (4 + payload.length) then
            .error .resourceExhausted
          else .ok (some (sha.digest storageKey, payload))

/-- The draft after a record. -/
def addRecord (codec : WireCodec) (sha : Sha256) (now : Instant) (draft : Draft)
    (visited : Visited) : Except CacheSnapshotError Draft :=
  match nextPayload codec sha now draft visited with
  | .error error => .error error
  | .ok none => .ok draft
  | .ok (some (digest, payload)) => .ok (draft.add digest payload)

/-- The two files that a write touches. -/
inductive SnapshotPath where
  | published
  | temporary
  deriving DecidableEq

abbrev SnapshotDisk := Disk SnapshotPath Unit

abbrev SnapshotProgram (α : Type) := Program (Request SnapshotPath Unit) Reply CacheSnapshotError α

/-- One request to the operating system. -/
def ask (request : Request SnapshotPath Unit) : SnapshotProgram Unit :=
  .ask request fun
    | .ok _ => .finish (.ok ())
    | .error error => .finish (.error (.io error))

/-- What the writer takes from the store, the clocks and its caller. -/
structure WriteInputs where
  /-- The first deadline check, the parent directory and the check of the target. -/
  prepared : Except CacheSnapshotError Unit
  generatedAtUtcMillis : UInt64
  now : Instant
  visited : List Visited
  /-- How the visit ends after its last record. -/
  ending : Except CacheSnapshotError Unit
  /-- The deadline has passed when the temporary file is complete. -/
  late : Bool
  publishCurrent : Except CacheSnapshotError Bool

/-- What a write reports. -/
structure CacheSnapshotWriteSummary where
  generatedAtUtcMillis : UInt64
  records : Nat
  bytes : Nat
  deriving DecidableEq

section Writing

variable (codec : WireCodec) (sha : Sha256) (inputs : WriteInputs)

def emptyHeader : List UInt8 := List.replicate headerBytes 0

def writeRecord (draft : Draft) (visited : Visited) : SnapshotProgram Draft :=
  match nextPayload codec sha inputs.now draft visited with
  | .error error => fail error
  | .ok none => pure draft
  | .ok (some (digest, payload)) => do
      ask (.write .temporary (emptyHeader ++ draft.body ++ bigEndian 4 payload.length))
      ask (.write .temporary (emptyHeader ++ (draft.add digest payload).body))
      pure (draft.add digest payload)

def writeRecords : List Visited → Draft → SnapshotProgram Draft
  | [], draft => pure draft
  | visited :: rest, draft => do
      let next ← writeRecord codec sha inputs draft visited
      writeRecords rest next

def draftHeader (draft : Draft) : Header :=
  let header : Header := {
    generatedAtUtcMillis := inputs.generatedAtUtcMillis
    recordCount := UInt32.ofNat draft.recordCount
    bodyBytes := UInt64.ofNat draft.body.length
    checksum := [] }
  { header with checksum := fileChecksum sha draft.body header }

def writeTemporarySnapshot : SnapshotProgram CacheSnapshotWriteSummary := do
  ask (.create .temporary ())
  ask (.write .temporary emptyHeader)
  let draft ← writeRecords codec sha inputs inputs.visited .empty
  .finish inputs.ending
  ask (.write .temporary (encodeHeader (draftHeader sha inputs draft) ++ draft.body))
  ask (.sync .temporary)
  pure ⟨inputs.generatedAtUtcMillis, draft.recordCount, headerBytes + draft.body.length⟩

/-- Move a complete temporary file to its place, unless the caller objects. -/
def publish : SnapshotProgram Unit :=
  if inputs.late then fail .timeout
  else
    match inputs.publishCurrent with
    | .error error => fail error
    | .ok false => fail .superseded
    | .ok true => do
        ask (.rename .temporary .published)
        ask (.syncParent .published)

def writeCacheSnapshotIfCurrent : SnapshotProgram CacheSnapshotWriteSummary := do
  .finish inputs.prepared
  let result ← attempt (do
    let summary ← writeTemporarySnapshot codec sha inputs
    publish inputs
    pure summary)
  match result with
  | .ok summary => pure summary
  | .error error => do
      let _ ← (ask (.unlink .temporary)).attempt
      fail error

end Writing

/-- `CacheRecoverySummary` -/
structure Summary where
  loaded : Nat
  expired : Nat
  corrupt : Nat
  incompatible : Nat

def Summary.zero : Summary := ⟨0, 0, 0, 0⟩

/-- `saturating_add(1)` on a counter. -/
def increment (count : Nat) : Nat := min (count + 1) (u64Size - 1)

/-- What became of a record of the file. -/
inductive Outcome where
  | loaded
  | expired
  | corrupt
  | incompatible

def Summary.count (summary : Summary) : Outcome → Summary
  | .loaded => { summary with loaded := increment summary.loaded }
  | .expired => { summary with expired := increment summary.expired }
  | .corrupt => { summary with corrupt := increment summary.corrupt }
  | .incompatible => { summary with incompatible := increment summary.incompatible }

/-- `CacheSnapshotReader` -/
structure Reader where
  /-- The file from the reader's position on. -/
  rest : List UInt8
  remaining : Nat
  now : Instant
  summary : Summary
  seen : List (List UInt8)

/-- What the environment contributes to one record. -/
structure Reading where
  walls : WallReadings
  /-- The deadline has passed, or the file cannot be read. -/
  fault : Option CacheSnapshotError

def openCacheSnapshot (sha : Sha256) (content : Option (List UInt8)) (maxFileBytes : Nat)
    (now : Instant) (fault : Option CacheSnapshotError) :
    Except CacheSnapshotError (Option Reader) :=
  match fault, content with
  | some error, _ => .error error
  | none, none => .ok none
  | none, some bytes =>
    if bytes.length < headerBytes then .error .corrupt
    else if maxFileBytes < bytes.length then .error .resourceExhausted
    else
      match decodeHeader (bytes.take headerBytes) with
      | .error error => .error error
      | .ok header =>
        if maxRecords < header.recordCount.toNat ∨
            headerBytes + header.bodyBytes.toNat ≠ bytes.length then .error .corrupt
        else if fileChecksum sha (bytes.drop headerBytes) header ≠ header.checksum then
          .error .corrupt
        else .ok (some {
          rest := bytes.drop headerBytes
          remaining := header.recordCount.toNat
          now := now
          summary := .zero
          seen := [] })

section Reading

variable (codec : WireCodec) (sha : Sha256) (readings : Nat → Reading) (reader : Reader)

def admitDecoded (key : CacheKey) (record : CacheRecord) :
    Except CacheSnapshotError (Reader × Option (CacheKey × CacheRecord)) :=
  match encodeStorageKey key with
  | .error error => .error (mapCodecError error)
  | .ok storageKey =>
    let digest := sha.digest storageKey
    if digest ∈ reader.seen then
      .ok ({ reader with summary := reader.summary.count .corrupt }, none)
    else if record.isAnswerable reader.now then
      .ok ({ reader with
        summary := reader.summary.count .loaded
        seen := digest :: reader.seen }, some (key, record))
    else
      .ok ({ reader with
        summary := reader.summary.count .expired
        seen := digest :: reader.seen }, none)

def admitPayload (walls : WallReadings) (payload : List UInt8) :
    Except CacheSnapshotError (Reader × Option (CacheKey × CacheRecord)) :=
  match decodeRecord codec payload reader.now walls with
  | .ok (key, record) => admitDecoded sha reader key record
  | .error .incompatible =>
    .ok ({ reader with summary := reader.summary.count .incompatible }, none)
  | .error _ => .ok ({ reader with summary := reader.summary.count .corrupt }, none)

/-- One pass of the loop in `next_batch`.  The number of remaining records identifies the pass, so
that the environment can be the same for every division into batches. -/
def nextRecord :
    Except CacheSnapshotError (Reader × Option (CacheKey × CacheRecord)) :=
  match (readings reader.remaining).fault with
  | some error => .error error
  | none =>
    if reader.rest.length < 4 then .error (.io .other)
    else
      let length := fromBigEndian (reader.rest.take 4)
      if maxRecordBytes < length then .error .corrupt
      else if (reader.rest.drop 4).length < length then .error (.io .other)
      else
        admitPayload codec sha { reader with
          rest := (reader.rest.drop 4).drop length
          remaining := reader.remaining - 1 }
          (readings reader.remaining).walls ((reader.rest.drop 4).take length)

/-- The loop of `next_batch` with room for more records in the batch; it makes at most as many
passes as records remain. -/
def fillBatch : (passes room : Nat) → Reader →
    Except CacheSnapshotError (Reader × List (CacheKey × CacheRecord))
  | 0, _, reader => .ok (reader, [])
  | _ + 1, 0, reader => .ok (reader, [])
  | passes + 1, room + 1, reader => do
      match ← nextRecord codec sha readings reader with
      | (next, none) => fillBatch passes (room + 1) next
      | (next, some record) => do
          let (last, batch) ← fillBatch passes room next
          return (last, record :: batch)

def nextBatch (batchSize : Nat) (reader : Reader) :
    Except CacheSnapshotError (Reader × List (CacheKey × CacheRecord)) :=
  if batchSize = 0 then .error .resourceExhausted
  else fillBatch codec sha readings reader.remaining batchSize reader

def Reader.isComplete : Bool := reader.remaining == 0

/-- Read batches of the given sizes until the reader is complete, in at most `calls` calls. -/
def readAll : (calls : Nat) → (sizes : Nat → Nat) → Reader →
    Except CacheSnapshotError (Reader × List (CacheKey × CacheRecord))
  | 0, _, reader => .ok (reader, [])
  | calls + 1, sizes, reader =>
    if reader.isComplete then .ok (reader, [])
    else do
      let (next, batch) ← nextBatch codec sha readings (sizes 0) reader
      let (last, records) ← readAll calls (fun index => sizes (index + 1)) next
      return (last, batch ++ records)

end Reading

end FluxDns.Cache.Snapshot
