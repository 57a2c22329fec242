import FluxDns.Library.Keyset
import FluxDns.Storage.DetailRecord

/-!
# Detail queries

A detail query scans the day shards of its time range, merges the first matching rows of each shard
and returns one page with the cursors of the neighbouring pages.
-/

namespace FluxDns.Storage

open ByteReader Function

variable {Trace : Type}

/-- A query for one page. -/
structure DetailQuery where
  filter : DetailQueryFilter
  cursor : Option String
  direction : DetailPageDirection
  pageSize : Nat
  sort : DetailQuerySort
  order : DetailSortOrder
  deriving DecidableEq

/-- A position in the commits. -/
structure DetailCommitCursor where
  epoch : String
  sequence : UInt64
  deriving DecidableEq

/-- A page with its cursors. -/
structure DetailQueryPage (Trace : Type) where
  items : List (DetailQueryRecord Trace)
  previousCursor : Option String
  nextCursor : Option String
  snapshotCursor : DetailCommitCursor
  retentionRevision : UInt64
  availableFromUtcMillis : Option Nat

def maxQuerySpanMillis : Nat := 3650 * dayMillis

def isControl (character : Char) : Bool :=
  character.val < 32 || (127 ≤ character.val && character.val ≤ 159)

/-- A text condition that is empty, too long or has a control character. -/
def badText (maxBytes : Nat) (value : String) : Bool :=
  value.isEmpty || decide (maxBytes < value.utf8ByteSize) || value.toList.any isControl

/-- An identifier that is empty or too long. -/
def badId (value : String) : Bool := value.isEmpty || decide (128 < value.utf8ByteSize)

def validateQuery (query : DetailQuery) : Except PortError Unit := do
  let filter := query.filter
  reject (query.pageSize == 0 || decide (100 < query.pageSize) ||
    decide (filter.toUtcMillis ≤ filter.fromUtcMillis) ||
    decide (i64Bound ≤ filter.toUtcMillis) ||
    decide (maxQuerySpanMillis < filter.toUtcMillis - filter.fromUtcMillis) ||
    decide (1024 < filter.matchedClientIds.length) ||
    filter.clientIp.any (badText 64) || filter.qname.any (badText 253) ||
    filter.clientId.any badId || filter.matchedClientId.any badId ||
    filter.matchedClientIds.any badId) (invalid "detail_query.validate")
  let _ ← utcDay filter.fromUtcMillis
  let _ ← utcDay (filter.toUtcMillis - 1)
  return ()

/-- What a validated query guarantees to the scan. -/
structure ValidQuery (query : DetailQuery) : Prop where
  pageSize_pos : 0 < query.pageSize
  from_lt_to : query.filter.fromUtcMillis < query.filter.toUtcMillis
  to_lt : query.filter.toUtcMillis < i64Bound
  from_day : ∃ day, utcDay query.filter.fromUtcMillis = .ok day
  to_day : ∃ day, utcDay (query.filter.toUtcMillis - 1) = .ok day

theorem validQuery_of_validateQuery {query : DetailQuery} {result : Unit}
    (validated : validateQuery query = .ok result) : ValidQuery query := by
  simp only [validateQuery, bind_eq_ok] at validated
  obtain ⟨_, accepted, fromDay, from_eq, toDay, to_eq, -⟩ := validated
  have checks := reject_eq_ok.mp accepted
  simp only [Bool.or_eq_false_iff, decide_eq_false_iff_not, beq_eq_false_iff_ne] at checks
  exact ⟨by omega, by omega, by omega, ⟨fromDay, from_eq⟩, ⟨toDay, to_eq⟩⟩

def sortByte : DetailQuerySort → UInt8
  | .occurredAt => 0
  | .duration => 1

def orderByte : DetailSortOrder → UInt8
  | .asc => 0
  | .desc => 1

def directionByte : DetailPageDirection → UInt8
  | .older => 0
  | .newer => 1

theorem sortByte_injective : Injective sortByte := by
  intro left right
  cases left <;> cases right <;> simp [sortByte]

theorem orderByte_injective : Injective orderByte := by
  intro left right
  cases left <;> cases right <;> simp [orderByte]

theorem directionByte_injective : Injective directionByte := by
  intro left right
  cases left <;> cases right <;> simp [directionByte]

variable (primitives : Primitives Trace) (query : DetailQuery)

def filterFingerprint : List UInt8 :=
  (primitives.sha256
    (primitives.filterJson query.filter.canonical query.sort query.order)).toList.take 16

def cursorDigest (key payload : List UInt8) : List UInt8 :=
  (primitives.sha256
    ("fluxdns.detail.cursor.v1".toUTF8.toList ++ key ++ payload ++ key)).toList.take 16

/-- The position that a cursor points at. -/
structure CursorAnchor where
  primary : Nat
  location : RecordLocation

def cursorPayloadLen : Nat := 48

def cursorDigestLen : Nat := 16

/-- The payload that `encode_cursor` assembles. -/
def cursorPayload (anchor : CursorAnchor) (query : DetailQuery) (direction : DetailPageDirection)
    (fingerprint : List UInt8) (retentionRevision : UInt64) : List UInt8 :=
  1 :: (fingerprint ++ (bigEndian 8 retentionRevision.toNat ++
    (sortByte query.sort :: orderByte query.order :: directionByte direction ::
      (bigEndian 8 anchor.primary ++ (bigEndian 4 (unsigned 32 anchor.location.dayUtc) ++
        bigEndian 8 (unsigned 64 anchor.location.rowId))))))

def LocatedRecord.anchor (located : LocatedRecord Trace) (sort : DetailQuerySort) : CursorAnchor :=
  ⟨located.primary sort, located.location⟩

variable (key : List UInt8)

def encodeCursor
    (located : LocatedRecord Trace) (query : DetailQuery) (direction : DetailPageDirection)
    (fingerprint : List UInt8) (retentionRevision : UInt64) : String :=
  let payload := cursorPayload (located.anchor query.sort) query direction fingerprint
    retentionRevision
  "cur1_" ++ primitives.base64Encode (payload ++ cursorDigest primitives key payload)

def stripPrefix (start text : String) : Option String :=
  if start.toList <+: text.toList then some (.ofList (text.toList.drop start.toList.length))
  else none

/-- The first part of `decode_cursor`: the bytes of a cursor, split into payload and digest. -/
def openCursor (cursor : String) : Except PortError (List UInt8 × List UInt8) := do
  let encoded ← required (stripPrefix "cur1_" cursor)
    (invalidCursor "detail_query.cursor" "invalid cursor")
  let decoded ← required (primitives.base64Decode encoded)
    (invalidCursor "detail_query.cursor" "invalid cursor")
  reject (decide (decoded.length ≠ cursorPayloadLen + cursorDigestLen) ||
    decoded[0]? != some 1) (invalidCursor "detail_query.cursor" "invalid cursor")
  return (decoded.take cursorPayloadLen, decoded.drop cursorPayloadLen)

def decodeCursor (cursor : String)
    (query : DetailQuery) (fingerprint : List UInt8) (retentionRevision : UInt64) :
    Except PortError CursorAnchor := do
  let (payload, suppliedDigest) ← openCursor primitives cursor
  reject (suppliedDigest != cursorDigest primitives key payload ||
    slice payload 1 17 != fingerprint ||
    payload[25]? != some (sortByte query.sort) ||
    payload[26]? != some (orderByte query.order) ||
    payload[27]? != some (directionByte query.direction))
    (invalidCursor "detail_query.cursor" "cursor context mismatch")
  reject (UInt64.ofNat (fromBigEndian (slice payload 17 25)) != retentionRevision)
    (invalidCursor "detail_query.cursor" "cursor retention revision expired")
  let primary := fromBigEndian (slice payload 28 36)
  let dayUtc := signed 32 (fromBigEndian (slice payload 36 40))
  let rowId := signed 64 (fromBigEndian (slice payload 40 48))
  reject (decide (rowId ≤ 0) || !hasShardFileName dayUtc)
    (invalidCursor "detail_query.cursor" "invalid cursor anchor")
  return ⟨primary, ⟨dayUtc, rowId⟩⟩

def scanAscending : Bool :=
  match query.direction with
  | .older => query.order == .asc
  | .newer => query.order != .asc

/-- The order of sort key, day and row, before the scan direction is applied. -/
def compareKeys (sort : DetailQuerySort) (left right : LocatedRecord Trace) : Ordering :=
  (compare (left.primary sort) (right.primary sort)).then
    ((compare left.location.dayUtc right.location.dayUtc).then
      (compare left.location.rowId right.location.rowId))

def compareScan (left right : LocatedRecord Trace) : Ordering :=
  if scanAscending query then compareKeys query.sort left right
  else (compareKeys query.sort left right).swap

def insertBounded (query : DetailQuery) (limit : Nat) (candidates : List (LocatedRecord Trace))
    (record : LocatedRecord Trace) : List (LocatedRecord Trace) :=
  Keyset.insertBounded (compareScan query) limit candidates record

/-- The comparison `>` of an ascending scan and `<` of a descending one. -/
def scanComparison (column anchor : Int) : Bool :=
  if scanAscending query then decide (anchor < column) else decide (column < anchor)

/-- The condition that puts a row after the anchor in the scan. -/
def anchorCondition (dayUtc : Int) (row : SqliteRow) (anchor : CursorAnchor) : Bool :=
  scanComparison query (row.primaryColumn query.sort) anchor.primary ||
    (row.primaryColumn query.sort == anchor.primary &&
      match compare dayUtc anchor.location.dayUtc with
      | .gt => scanAscending query
      | .lt => !scanAscending query
      | .eq => scanComparison query row.id anchor.location.rowId)

/-- `ORDER BY` of the statement: the sort column, then the row id, both in scan direction. -/
def compareRows (left right : SqliteRow) : Ordering :=
  let order := (compare (left.primaryColumn query.sort) (right.primaryColumn query.sort)).then
    (compare left.id right.id)
  if scanAscending query then order else order.swap

/-- An opened shard: its rows, how the statement and how closing the pool end. -/
structure DetailShardLease where
  rows : List SqliteRow
  fetch : Except PortError Unit
  close : Except PortError Unit

def queryShard (lease : DetailShardLease) (dayUtc : Int)
    (query : DetailQuery) (anchor : Option CursorAnchor) (limit : Nat) :
    Except PortError (List (LocatedRecord Trace)) := do
  reject (decide (i64Bound ≤ query.filter.fromUtcMillis)) (invalid "detail_query.range")
  reject (decide (i64Bound ≤ query.filter.toUtcMillis)) (invalid "detail_query.range")
  reject (anchor.any fun anchor => decide (i64Bound ≤ anchor.primary))
    (invalid "detail_query.cursor")
  lease.fetch
  let matching := lease.rows.filter fun row =>
    query.filter.selects row && anchor.all (anchorCondition query dayUtc row)
  ((Keyset.sortBy (compareRows query) matching).take limit).mapM (mapRow primitives · dayUtc)

/-- What one call reads from the store while it runs. -/
structure StoreReads where
  cursorKey : List UInt8
  /-- The retention revision at the start of the call. -/
  retentionRevision : UInt64
  /-- The retention revision after the scan. -/
  currentRetentionRevision : UInt64
  snapshotCursor : DetailCommitCursor
  deadlineExpired : Int → Bool
  acquireRead : Int → Except PortError (Option DetailShardLease)
  availableFromUtcMillis : Except PortError (Option Nat)

variable (reads : StoreReads) (query : DetailQuery)

/-- One iteration of the loop over the days. -/
def scanDay
    (anchor : Option CursorAnchor) (limit : Nat) (candidates : List (LocatedRecord Trace))
    (dayUtc : Int) : Except PortError (List (LocatedRecord Trace)) := do
  reject (reads.deadlineExpired dayUtc) (.new .timeout "detail_query.search")
  match ← reads.acquireRead dayUtc with
  | none => .ok candidates
  | some lease =>
    -- An error of the statement wins over one of closing the shard.
    let rows ← queryShard primitives lease dayUtc query anchor limit
    lease.close
    .ok (rows.foldl (insertBounded query limit) candidates)

/-- The days from one to another, both included. -/
def dayRange (fromDay toDay : Int) : List Int :=
  (List.range (toDay - fromDay + 1).toNat).map fun offset : Nat => fromDay + offset

variable (candidates : List (LocatedRecord Trace))

/-- The cursor of the page before a page. -/
def previousCursor (hasMore : Bool) (fingerprint : List UInt8) (retentionRevision : UInt64) :
    Option String :=
  match candidates.head?, query.direction with
  | some record, .older =>
    if query.cursor.isSome then
      some (encodeCursor primitives key record query .newer fingerprint retentionRevision)
    else none
  | some record, .newer =>
    if hasMore then
      some (encodeCursor primitives key record query .newer fingerprint retentionRevision)
    else none
  | none, _ => none

/-- The cursor of the page after a page. -/
def nextCursor (hasMore : Bool) (fingerprint : List UInt8) (retentionRevision : UInt64) :
    Option String :=
  match candidates.getLast?, query.direction with
  | some record, .older =>
    if hasMore then
      some (encodeCursor primitives key record query .older fingerprint retentionRevision)
    else none
  | some record, .newer =>
    if query.cursor.isSome then
      some (encodeCursor primitives key record query .older fingerprint retentionRevision)
    else none
  | none, _ => none

def decodeAnchor :
    Except PortError (Option CursorAnchor) :=
  match query.cursor with
  | none => .ok none
  | some cursor => some <$> decodeCursor primitives reads.cursorKey cursor query
      (filterFingerprint primitives query) reads.retentionRevision

def queryDetails :
    Except PortError (DetailQueryPage Trace) := do
  validateQuery query
  let fingerprint := filterFingerprint primitives query
  let anchor ← decodeAnchor primitives reads query
  reject (query.cursor.isNone && query.direction == .newer)
    (invalidCursor "detail_query.cursor" "newer direction requires a cursor")
  let fromDay ← utcDay query.filter.fromUtcMillis
  let toDay ← utcDay (query.filter.toUtcMillis - 1)
  let perShardLimit := query.pageSize + 1
  let scanned ← (dayRange fromDay toDay).foldlM
    (scanDay primitives reads query anchor perShardLimit) []
  let sorted := Keyset.sortBy (compareScan query) scanned
  let hasMore := decide (query.pageSize < sorted.length)
  let truncated := sorted.take query.pageSize
  let candidates := if query.direction = .newer then truncated.reverse else truncated
  reject (reads.currentRetentionRevision != reads.retentionRevision)
    (invalidCursor "detail_query.cursor" "retention changed during query")
  let availableFromUtcMillis ← reads.availableFromUtcMillis
  return {
    items := candidates.map (·.record)
    previousCursor := previousCursor primitives reads.cursorKey query candidates hasMore
      fingerprint reads.retentionRevision
    nextCursor := nextCursor primitives reads.cursorKey query candidates hasMore fingerprint
      reads.retentionRevision
    snapshotCursor := reads.snapshotCursor
    retentionRevision := reads.retentionRevision
    availableFromUtcMillis }

end FluxDns.Storage
