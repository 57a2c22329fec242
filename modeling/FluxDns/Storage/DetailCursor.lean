import FluxDns.Storage.DetailQuery

/-!
# Cursors of detail queries

A cursor that was issued for a position decodes to that position, in the context it was issued for
and in no other.
-/

namespace FluxDns.Storage

open ByteReader Option List

variable {Trace : Type} {primitives : Primitives Trace}

variable {fingerprint : List UInt8} {query : DetailQuery} {retentionRevision : UInt64}
  {key : List UInt8} {cursor : String} {anchor : CursorAnchor} {direction : DetailPageDirection}

@[simp]
theorem length_filterFingerprint (primitives : Primitives Trace) (query : DetailQuery) :
    (filterFingerprint primitives query).length = 16 := by
  simp [filterFingerprint]

@[simp]
theorem length_cursorDigest (key payload : List UInt8) :
    (cursorDigest primitives key payload).length = 16 := by
  simp [cursorDigest]

theorem stripPrefix_append (start text : String) :
    stripPrefix start (start ++ text) = some text := by
  simp [stripPrefix]

/-- The fields of a payload, at the offsets that decoding reads them from. -/
structure PayloadFields (payload : List UInt8) (anchor : CursorAnchor) (query : DetailQuery)
    (direction : DetailPageDirection) (fingerprint : List UInt8) (retentionRevision : UInt64) :
    Prop where
  length_eq : payload.length = cursorPayloadLen
  version_eq : payload[0]? = some 1
  fingerprint_eq : slice payload 1 17 = fingerprint
  revision_eq : slice payload 17 25 = bigEndian 8 retentionRevision.toNat
  sort_eq : payload[25]? = some (sortByte query.sort)
  order_eq : payload[26]? = some (orderByte query.order)
  direction_eq : payload[27]? = some (directionByte direction)
  primary_eq : slice payload 28 36 = bigEndian 8 anchor.primary
  day_eq : slice payload 36 40 = bigEndian 4 (unsigned 32 anchor.location.dayUtc)
  rowId_eq : slice payload 40 48 = bigEndian 8 (unsigned 64 anchor.location.rowId)

theorem payloadFields (anchor : CursorAnchor) (query : DetailQuery)
    (direction : DetailPageDirection) (length : fingerprint.length = 16)
    (retentionRevision : UInt64) :
    PayloadFields (cursorPayload anchor query direction fingerprint retentionRevision) anchor query
      direction fingerprint retentionRevision := by
  constructor <;> simp [cursorPayload, cursorPayloadLen, length, slice_cons, slice_append_right,
    slice_append_left, slice_self]

section Issued

variable {key : List UInt8} {located : LocatedRecord Trace} {query : DetailQuery}
  {direction : DetailPageDirection} {fingerprint : List UInt8} {retentionRevision : UInt64}

theorem openCursor_encodeCursor (length : fingerprint.length = 16) : openCursor primitives
        (encodeCursor primitives key located query direction fingerprint retentionRevision) =
      .ok (cursorPayload (located.anchor query.sort) query direction fingerprint
          retentionRevision,
        cursorDigest primitives key
          (cursorPayload (located.anchor query.sort) query direction fingerprint
            retentionRevision)) := by
  have fields := payloadFields (located.anchor query.sort) query direction length retentionRevision
  set payload := cursorPayload (located.anchor query.sort) query direction fingerprint
    retentionRevision
  set digest := cursorDigest primitives key payload with digest_eq
  have nonempty : 0 < payload.length := by rw [fields.length_eq]; decide
  have total : (payload ++ digest).length = cursorPayloadLen + cursorDigestLen := by
    rw [length_append, fields.length_eq, digest_eq, length_cursorDigest, cursorDigestLen]
  have version : (payload ++ digest)[0]? = some 1 := by
    rw [getElem?_append_left nonempty, fields.version_eq]
  have opened : openCursor primitives
      ("cur1_" ++ primitives.base64Encode (payload ++ digest)) =
        .ok ((payload ++ digest).take cursorPayloadLen,
          (payload ++ digest).drop cursorPayloadLen) := by
    have stripped := stripPrefix_append "cur1_" (primitives.base64Encode (payload ++ digest))
    have decoded := primitives.base64_decode_encode (payload ++ digest)
    simp only [openCursor, bind_eq_ok]
    exact ⟨_, by rw [stripped]; rfl, _, by rw [decoded]; rfl, (), reject_eq_ok.mpr
      (by simp [total, version]), rfl⟩
  rw [← fields.length_eq, take_left, drop_left] at opened
  exact opened

/-- The positions that a record of a shard can have. -/
structure ValidAnchor (anchor : CursorAnchor) : Prop where
  primary_lt : anchor.primary < i64Bound
  rowId_pos : 0 < anchor.location.rowId
  rowId_lt : anchor.location.rowId < i64Bound
  named : hasShardFileName anchor.location.dayUtc = true

theorem ValidAnchor.day_bounds (valid : ValidAnchor anchor) :
    -2 ^ 31 ≤ anchor.location.dayUtc ∧ anchor.location.dayUtc < 2 ^ 31 := by
  have named := valid.named
  simp only [hasShardFileName, Bool.and_eq_true, decide_eq_true_eq] at named
  omega

/-- A cursor decodes to its position in the context that it was issued for. -/
theorem decodeCursor_encodeCursor (valid : ValidAnchor (located.anchor query.sort))
    (length : fingerprint.length = 16) {used : DetailQuery} (sort_eq : used.sort = query.sort)
    (order_eq : used.order = query.order) (direction_eq : used.direction = direction) :
    decodeCursor primitives key
        (encodeCursor primitives key located query direction fingerprint retentionRevision)
        used fingerprint retentionRevision =
      .ok (located.anchor query.sort) := by
  have fields := payloadFields (located.anchor query.sort) query direction length retentionRevision
  set anchor := located.anchor query.sort with anchor_eq
  have revision : UInt64.ofNat (fromBigEndian (bigEndian 8 retentionRevision.toNat)) =
      retentionRevision := by
    rw [fromBigEndian_bigEndian]
    simp
  have primary : fromBigEndian (bigEndian 8 anchor.primary) = anchor.primary := by
    have bound : anchor.primary < 2 ^ 63 := valid.primary_lt
    rw [fromBigEndian_bigEndian, Nat.mod_eq_of_lt (by omega)]
  have day : signed 32 (fromBigEndian (bigEndian 4 (unsigned 32 anchor.location.dayUtc))) =
      anchor.location.dayUtc := by
    rw [fromBigEndian_bigEndian,
      Nat.mod_eq_of_lt (show unsigned 32 anchor.location.dayUtc < 256 ^ 4 from unsigned_lt 32 _)]
    exact signed_unsigned 31 valid.day_bounds.1 valid.day_bounds.2
  have rowId : signed 64 (fromBigEndian (bigEndian 8 (unsigned 64 anchor.location.rowId))) =
      anchor.location.rowId := by
    have positive := valid.rowId_pos
    have bound : anchor.location.rowId < (2 ^ 63 : Nat) := valid.rowId_lt
    rw [fromBigEndian_bigEndian,
      Nat.mod_eq_of_lt (show unsigned 64 anchor.location.rowId < 256 ^ 8 from unsigned_lt 64 _)]
    exact signed_unsigned 63 (by omega) (by push_cast at bound; exact bound)
  have positive : decide (anchor.location.rowId ≤ 0) = false := by
    have := valid.rowId_pos
    simp only [decide_eq_false_iff_not]
    omega
  simp only [decodeCursor, bind_eq_ok]
  refine ⟨_, openCursor_encodeCursor length, (), reject_eq_ok.mpr ?_, (), reject_eq_ok.mpr ?_,
    (), reject_eq_ok.mpr ?_, ?_⟩ <;> simp only [← anchor_eq]
  · simp [fields.fingerprint_eq, fields.sort_eq, fields.order_eq, fields.direction_eq, sort_eq,
      order_eq, direction_eq]
  · simp [fields.revision_eq, revision]
  · simp [fields.day_eq, fields.rowId_eq, day, rowId, positive, valid.named]
  · rw [fields.primary_eq, fields.day_eq, fields.rowId_eq, primary, day, rowId]
    rfl

end Issued

/-- The payload of a cursor whose digest belongs to the key. -/
def authenticPayload (primitives : Primitives Trace) (key : List UInt8) (cursor : String) :
    Option (List UInt8) :=
  match openCursor primitives cursor with
  | .ok (payload, digest) =>
    if digest = cursorDigest primitives key payload then some payload else none
  | .error _ => none

theorem authenticPayload_encodeCursor {located : LocatedRecord Trace}
    (length : fingerprint.length = 16) :
    authenticPayload primitives key
        (encodeCursor primitives key located query direction fingerprint retentionRevision) =
      some (cursorPayload (located.anchor query.sort) query direction fingerprint
        retentionRevision) := by
  rw [authenticPayload, openCursor_encodeCursor length]
  simp

inductive DetailQueryPage.Offers (page : DetailQueryPage Trace) :
    DetailPageDirection → String → Prop
  | previous {cursor : String} (offered : page.previousCursor = some cursor) :
      Offers page .newer cursor
  | next {cursor : String} (offered : page.nextCursor = some cursor) : Offers page .older cursor

section Offered

variable (key : List UInt8) (query : DetailQuery) (candidates : List (LocatedRecord Trace))
  (hasMore : Bool) (fingerprint : List UInt8) (retentionRevision : UInt64)

theorem previousCursor_eq :
    previousCursor primitives key query candidates hasMore fingerprint retentionRevision =
      if (match query.direction with | .older => query.cursor.isSome | .newer => hasMore) = true
      then candidates.head?.map fun record =>
        encodeCursor primitives key record query .newer fingerprint retentionRevision
      else none := by
  unfold previousCursor
  cases candidates.head? <;> cases query.direction <;> simp

theorem nextCursor_eq :
    nextCursor primitives key query candidates hasMore fingerprint retentionRevision =
      if (match query.direction with | .older => hasMore | .newer => query.cursor.isSome) = true
      then candidates.getLast?.map fun record =>
        encodeCursor primitives key record query .older fingerprint retentionRevision
      else none := by
  unfold nextCursor
  cases candidates.getLast? <;> cases query.direction <;> simp

end Offered

theorem encoded_of_offers {reads : StoreReads} {page : DetailQueryPage Trace}
    (answered : queryDetails primitives reads query = .ok page)
    (offers : page.Offers direction cursor) :
    ∃ located, cursor = encodeCursor primitives reads.cursorKey located query direction
      (filterFingerprint primitives query) reads.retentionRevision := by
  simp only [queryDetails, bind_eq_ok] at answered
  obtain ⟨_, -, _, -, _, -, _, -, _, -, scanned, -, _, -, _, -, answered⟩ := answered
  cases answered
  cases offers with
  | previous offered =>
    rw [previousCursor_eq, ite_none_right_eq_some, map_eq_some_iff] at offered
    obtain ⟨-, record, -, encoded⟩ := offered
    exact ⟨record, encoded.symm⟩
  | next offered =>
    rw [nextCursor_eq, ite_none_right_eq_some, map_eq_some_iff] at offered
    obtain ⟨-, record, -, encoded⟩ := offered
    exact ⟨record, encoded.symm⟩

/-- Accepting a cursor means that its authentic payload names the context of the call. -/
theorem payload_of_decodeCursor (accepted : decodeCursor primitives key cursor query fingerprint
      retentionRevision = .ok anchor) :
    ∃ payload, authenticPayload primitives key cursor = some payload ∧
      slice payload 1 17 = fingerprint ∧
      payload[25]? = some (sortByte query.sort) ∧
      payload[26]? = some (orderByte query.order) ∧
      payload[27]? = some (directionByte query.direction) ∧
      UInt64.ofNat (fromBigEndian (slice payload 17 25)) = retentionRevision := by
  simp only [decodeCursor, bind_eq_ok] at accepted
  obtain ⟨⟨payload, digest⟩, opened, _, context, _, revision, -⟩ := accepted
  have context_eq := reject_eq_ok.mp context
  have revision_eq := reject_eq_ok.mp revision
  simp only [Bool.or_eq_false_iff, bne_eq_false_iff_eq] at context_eq revision_eq
  obtain ⟨⟨⟨⟨digest_eq, fingerprint_eq⟩, sort_eq⟩, order_eq⟩, direction_eq⟩ := context_eq
  refine ⟨payload, ?_, fingerprint_eq, sort_eq, order_eq, direction_eq, revision_eq⟩
  rw [authenticPayload, opened]
  simp [digest_eq]

/-- One answered call. -/
structure Exchange (Trace : Type) where
  reads : StoreReads
  query : DetailQuery
  page : DetailQueryPage Trace

variable (primitives)

def Answered (key : List UInt8) (history : List (Exchange Trace)) : Prop :=
  ∀ exchange ∈ history, exchange.reads.cursorKey = key ∧
    queryDetails primitives exchange.reads exchange.query = .ok exchange.page

/-- A caller cannot make a digest: an authentic payload comes from an offered cursor. -/
def Unforgeable (key : List UInt8) (history : List (Exchange Trace)) (cursor : String) : Prop :=
  ∀ payload, authenticPayload primitives key cursor = some payload →
    ∃ exchange ∈ history, ∃ direction issued, exchange.page.Offers direction issued ∧
      authenticPayload primitives key issued = some payload

/-- The fingerprint of a query is not shared with another context of the history. -/
def CollisionFree (history : List (Exchange Trace)) (query : DetailQuery) : Prop :=
  ∀ exchange ∈ history,
    filterFingerprint primitives exchange.query = filterFingerprint primitives query →
      exchange.query.filter.canonical = query.filter.canonical

variable {primitives}

theorem offered_of_decodeCursor {history : List (Exchange Trace)}
    (answered : Answered primitives key history)
    (unforgeable : Unforgeable primitives key history cursor)
    (collision_free : CollisionFree primitives history query)
    (accepted : decodeCursor primitives key cursor query (filterFingerprint primitives query)
      retentionRevision = .ok anchor) :
    ∃ exchange ∈ history, ∃ issued, exchange.page.Offers query.direction issued ∧
      authenticPayload primitives key issued = authenticPayload primitives key cursor ∧
      exchange.query.filter.canonical = query.filter.canonical ∧
      exchange.query.sort = query.sort ∧ exchange.query.order = query.order ∧
      exchange.reads.retentionRevision = retentionRevision := by
  obtain ⟨payload, authentic, fingerprint_eq, sort_eq, order_eq, direction_eq, revision_eq⟩ :=
    payload_of_decodeCursor accepted
  obtain ⟨exchange, mem, direction, issued, offers, issued_payload⟩ := unforgeable payload authentic
  obtain ⟨key_eq, page_eq⟩ := answered exchange mem
  obtain ⟨located, rfl⟩ := encoded_of_offers page_eq offers
  rw [key_eq] at offers issued_payload
  have encoded := issued_payload
  rw [authenticPayload_encodeCursor (length_filterFingerprint _ _)] at encoded
  cases encoded
  have fields := payloadFields (located.anchor exchange.query.sort) exchange.query direction
    (length_filterFingerprint primitives exchange.query)
    exchange.reads.retentionRevision
  rw [fields.fingerprint_eq] at fingerprint_eq
  rw [fields.sort_eq, some.injEq] at sort_eq
  rw [fields.order_eq, some.injEq] at order_eq
  rw [fields.direction_eq, some.injEq] at direction_eq
  rw [fields.revision_eq, fromBigEndian_bigEndian] at revision_eq
  obtain rfl := directionByte_injective direction_eq
  refine ⟨exchange, mem, _, offers, issued_payload.trans authentic.symm,
    collision_free exchange mem fingerprint_eq, sortByte_injective sort_eq,
    orderByte_injective order_eq, ?_⟩
  simpa using revision_eq

end FluxDns.Storage
