import FluxDns.Storage.DetailScan

/-!
# Walking through the pages of a detail query

Every page that is reached through the cursors of a query is a segment of one ordered listing, and
its two cursors lead to the segments right after and right before it.
-/

namespace FluxDns.Storage

open ByteReader Keyset FixedStore List Option DetailQuery DetailQueryFilter
open Std (TransCmp OrientedCmp)

variable {Trace : Type} {primitives : Primitives Trace} {store : FixedStore primitives}
  {query : DetailQuery} {located : LocatedRecord Trace} {page : DetailQueryPage Trace}

def DetailQuery.turn (query : DetailQuery) (direction : DetailPageDirection) (cursor : String) :
    DetailQuery :=
  { query with cursor := some cursor, direction }

/-- A query that starts a walk: valid, without a cursor and in the older direction. -/
structure Start (query : DetailQuery) : Prop where
  validated : validateQuery query = .ok ()
  cursor_eq : query.cursor = none
  direction_eq : query.direction = .older

variable (start : Start query)

include start

variable (cursor : String)

theorem compareScan_turn_older :
    (compareScan (query.turn .older cursor) : LocatedRecord Trace → _ → _) =
      compareScan query := by
  funext left right
  simp [compareScan, scanAscending, turn, start.direction_eq]

theorem compareScan_turn_newer :
    (compareScan (query.turn .newer cursor) : LocatedRecord Trace → _ → _) =
      fun left right => (compareScan query left right).swap := by
  funext left right
  cases order : query.order <;>
    simp [compareScan, scanAscending, turn, start.direction_eq, order]

theorem listing_turn_older : store.listing (query.turn .older cursor) = store.listing query := by
  simp only [listing, compareScan_turn_older start]
  rfl

theorem listing_turn_newer :
    store.listing (query.turn .newer cursor) = (store.listing query).reverse := by
  simp only [listing, compareScan_turn_newer start]
  exact (store.distinct_matching query.filter query).sortBy_swap

omit start

section Neighbours

variable {before after : List (LocatedRecord Trace)} {located : LocatedRecord Trace}

theorem scan_older (start : Start query)
    (listing_eq : store.listing query = before ++ located :: after) (cursor : String) :
    store.scan (query.turn .older cursor) (some located) = after := by
  have ascending := store.ascending_listing query
  rw [listing_eq] at ascending
  rw [scan, listing_turn_older start, listing_eq, afterOrigin_some, compareScan_turn_older start]
  exact (filter_anchor ascending).1

theorem scan_newer (start : Start query)
    (listing_eq : store.listing query = before ++ located :: after) (cursor : String) :
    store.scan (query.turn .newer cursor) (some located) = before.reverse := by
  have ascending := store.ascending_listing query
  rw [listing_eq] at ascending
  have swapped : ∀ item, (compareScan query located item).swap = compareScan query item located :=
    fun item => OrientedCmp.eq_swap.symm
  rw [scan, listing_turn_newer start, listing_eq, filter_reverse,
    afterOrigin_some, compareScan_turn_newer start]
  simp only [swapped]
  rw [(filter_anchor ascending).2]

end Neighbours

def FixedStore.cursorAt (store : FixedStore primitives) (query : DetailQuery)
    (direction : DetailPageDirection) (located : LocatedRecord Trace) : String :=
  encodeCursor primitives store.cursorKey located query direction
    (filterFingerprint primitives query) store.retentionRevision

variable (start : Start query)

include start

theorem validAnchor_of_mem (mem : located ∈ store.listing query) :
    ValidAnchor (located.anchor query.sort) := by
  have valid := validQuery_of_validateQuery start.validated
  rw [listing, mem_sortBy, mem_matching valid] at mem
  obtain ⟨day, row, -, -, mapped_row⟩ := mem
  have mapped := mapped_of_mapRow mapped_row
  constructor
  case primary_lt =>
    have primary := mapped.primary_eq query.sort
    have bound : row.primaryColumn query.sort < i64Bound := by
      cases query.sort with
      | occurredAt => exact row.eventTime_lt
      | duration => exact row.duration_lt
    change located.primary query.sort < i64Bound
    omega
  case rowId_pos =>
    change 0 < located.location.rowId
    rw [mapped.location_eq]
    exact mapped.rowId_pos
  case rowId_lt =>
    change located.location.rowId < i64Bound
    rw [mapped.location_eq]
    exact row.id_lt
  case named =>
    change hasShardFileName located.location.dayUtc = true
    rw [mapped.location_eq]
    exact (utcDay_eq_ok mapped.day_eq).2

/-- Following the cursor of a record shows the scan that starts there. -/
theorem queryDetails_from (store : FixedStore primitives) (direction : DetailPageDirection)
    (valid : ValidAnchor (located.anchor query.sort)) :
    queryDetails primitives store.reads
        (query.turn direction (store.cursorAt query direction located)) =
      .ok (store.pageOf (query.turn direction (store.cursorAt query direction located))
        (store.scan (query.turn direction (store.cursorAt query direction located))
          (some located))) := by
  apply queryDetails_eq
  · exact start.validated
  · have decoded : decodeCursor primitives store.cursorKey
        (store.cursorAt query direction located)
        (query.turn direction (store.cursorAt query direction located))
        (filterFingerprint primitives query) store.retentionRevision =
          .ok (located.anchor query.sort) :=
      decodeCursor_encodeCursor valid (length_filterFingerprint _ _) rfl rfl rfl
    change some <$> decodeCursor primitives store.cursorKey
      (store.cursorAt query direction located) _ (filterFingerprint primitives query)
      store.retentionRevision = _
    rw [decoded]
    rfl
  · intro origin origin_eq
    cases origin_eq
    exact valid.primary_lt
  · intro absent
    cases absent

theorem queryDetails_start : queryDetails primitives store.reads query =
      .ok (store.pageOf query (store.listing query)) := by
  have scan_eq : store.scan query none = store.listing query := by
    simp [scan, afterOrigin]
  rw [← scan_eq]
  apply queryDetails_eq start.validated
  · simp [decodeAnchor, start.cursor_eq]
  · intro origin origin_eq
    cases origin_eq
  · exact fun _ => start.direction_eq

omit start

section Pages

variable (store) (scan before : List (LocatedRecord Trace)) (cursor : String)

theorem ite_more {α : Type*} (size : Nat) (items : List α) {result : Option String} :
    (if decide (size < items.length) = true then result else none) =
      if items.drop size = [] then none else result := by
  by_cases more : size < items.length
  · simp [more]
  · simp [more, Nat.le_of_not_lt more]

theorem previousCursor_start (start : Start query) :
    (store.pageOf query scan).previousCursor = none := by
  simp [pageOf, previousCursor_eq, start.direction_eq, start.cursor_eq]

theorem nextCursor_start (start : Start query) :
    (store.pageOf query scan).nextCursor = if scan.drop query.pageSize = [] then none
      else (scan.take query.pageSize).getLast?.map (store.cursorAt query .older) := by
  simp only [pageOf, nextCursor_eq, start.direction_eq, reduceCtorEq, if_false]
  exact ite_more _ _

theorem previousCursor_older : (store.pageOf (query.turn .older cursor) scan).previousCursor =
      (scan.take query.pageSize).head?.map (store.cursorAt query .newer) :=
  previousCursor_eq ..

theorem nextCursor_older : (store.pageOf (query.turn .older cursor) scan).nextCursor =
      if scan.drop query.pageSize = [] then none
      else (scan.take query.pageSize).getLast?.map (store.cursorAt query .older) := by
  rw [← ite_more]
  exact nextCursor_eq ..

theorem previousCursor_newer :
    (store.pageOf (query.turn .newer cursor) before.reverse).previousCursor =
      if before.rdrop query.pageSize = [] then none
      else (before.rtake query.pageSize).head?.map (store.cursorAt query .newer) := by
  have dropped : before.rdrop query.pageSize = [] ↔ before.reverse.drop query.pageSize = [] := by
    rw [rdrop_eq_reverse_drop_reverse, reverse_eq_nil_iff]
  rw [rtake_eq_reverse_take_reverse, if_congr dropped rfl rfl, ← ite_more]
  exact previousCursor_eq ..

theorem nextCursor_newer : (store.pageOf (query.turn .newer cursor) before.reverse).nextCursor =
      (before.rtake query.pageSize).getLast?.map (store.cursorAt query .older) := by
  rw [rtake_eq_reverse_take_reverse]
  exact nextCursor_eq ..

end Pages

/-- The position of a page in the listing, and where its cursors point. -/
structure Window (store : FixedStore primitives) (query : DetailQuery)
    (page : DetailQueryPage Trace) (before items after : List (LocatedRecord Trace)) : Prop where
  listing_eq : store.listing query = before ++ items ++ after
  items_eq : page.items = items.map (·.record)
  nonempty : items = [] → store.listing query = []
  previous_eq : page.previousCursor =
    if before = [] then none else items.head?.map (store.cursorAt query .newer)
  next_eq : page.nextCursor =
    if after = [] then none else items.getLast?.map (store.cursorAt query .older)

/-- The first page shows the beginning of the listing. -/
theorem window_start (store : FixedStore primitives) (start : Start query) :
    ∃ page, queryDetails primitives store.reads query = .ok page ∧
      Window store query page [] ((store.listing query).take query.pageSize)
        ((store.listing query).drop query.pageSize) := by
  have positive := (validQuery_of_validateQuery start.validated).pageSize_pos
  refine ⟨_, queryDetails_start start, ?_⟩
  constructor
  case listing_eq => simp
  case items_eq => simp [pageOf, start.direction_eq]
  case nonempty =>
    intro empty
    simpa [take_eq_nil_iff, positive.ne'] using empty
  case previous_eq => exact previousCursor_start store _ start
  case next_eq => exact nextCursor_start store _ start

section Steps

variable {page : DetailQueryPage Trace} {before items after : List (LocatedRecord Trace)}
  {cursor : String}

variable (window : Window store query page before items after)

include window

theorem Window.next (start : Start query) (offered : page.nextCursor = some cursor) :
    after ≠ [] ∧ ∃ next, queryDetails primitives store.reads (query.turn .older cursor) = .ok next ∧
      Window store query next (before ++ items) (after.take query.pageSize)
        (after.drop query.pageSize) := by
  have positive := (validQuery_of_validateQuery start.validated).pageSize_pos
  rw [window.next_eq, ite_none_left_eq_some, map_eq_some_iff] at offered
  obtain ⟨after_ne, located, last_eq, rfl⟩ := offered
  obtain ⟨rest, rfl⟩ := getLast?_eq_some_iff.mp last_eq
  have split_eq : store.listing query = (before ++ rest) ++ located :: after := by
    rw [window.listing_eq]
    simp
  have mem : located ∈ store.listing query := by simp [split_eq]
  have answered := queryDetails_from start store .older (validAnchor_of_mem start mem)
  rw [scan_older start split_eq] at answered
  refine ⟨after_ne, _, answered, ?_⟩
  constructor
  case listing_eq => simpa using window.listing_eq
  case items_eq => rfl
  case nonempty =>
    intro empty
    exact absurd empty (by simp [take_eq_nil_iff, positive.ne', after_ne])
  case previous_eq => simpa using previousCursor_older store after _
  case next_eq => exact nextCursor_older store after _

theorem Window.previous (start : Start query) (offered : page.previousCursor = some cursor) :
    before ≠ [] ∧
    ∃ previous, queryDetails primitives store.reads (query.turn .newer cursor) = .ok previous ∧
      Window store query previous (before.rdrop query.pageSize) (before.rtake query.pageSize)
        (items ++ after) := by
  have positive := (validQuery_of_validateQuery start.validated).pageSize_pos
  rw [window.previous_eq, ite_none_left_eq_some, map_eq_some_iff] at offered
  obtain ⟨before_ne, located, head_eq, rfl⟩ := offered
  obtain ⟨rest, rfl⟩ := head?_eq_some_iff.mp head_eq
  have split_eq : store.listing query = before ++ located :: (rest ++ after) := by
    rw [window.listing_eq]
    simp
  have mem : located ∈ store.listing query := by simp [split_eq]
  have answered := queryDetails_from start store .newer (validAnchor_of_mem start mem)
  rw [scan_newer start split_eq] at answered
  have regrouped : before.rdrop query.pageSize ++ before.rtake query.pageSize = before := by
    rw [rdrop, rtake, take_append_drop]
  refine ⟨before_ne, _, answered, ?_⟩
  constructor
  case listing_eq =>
    rw [regrouped, split_eq]
    simp
  case items_eq =>
    rw [rtake_eq_reverse_take_reverse]
    rfl
  case nonempty =>
    intro empty
    have length := congrArg length empty
    have before_pos := length_pos_iff.mpr before_ne
    simp only [rtake, length_drop, length_nil] at length
    omega
  case previous_eq => exact previousCursor_newer store before _
  case next_eq => simpa using nextCursor_newer store before _

theorem Window.after_eq_nil (ended : page.nextCursor = none) : after = [] := by
  by_contra after_ne
  rw [window.next_eq, if_neg after_ne, map_eq_none_iff, getLast?_eq_none_iff] at ended
  have listing_nil := window.nonempty ended
  rw [window.listing_eq] at listing_nil
  exact after_ne (append_eq_nil_iff.mp listing_nil).2

theorem Window.before_eq_nil (ended : page.previousCursor = none) : before = [] := by
  by_contra before_ne
  rw [window.previous_eq, if_neg before_ne, map_eq_none_iff, head?_eq_none_iff] at ended
  have listing_nil := window.nonempty ended
  rw [window.listing_eq, append_assoc] at listing_nil
  exact before_ne (append_eq_nil_iff.mp listing_nil).1

end Steps

/-- Follow `next_cursor` from a page on, for at most a number of further pages. -/
def followNext (primitives : Primitives Trace) (reads : StoreReads) (query : DetailQuery) :
    Nat → DetailQueryPage Trace → Except PortError (List (DetailQueryPage Trace))
  | 0, page => .ok [page]
  | fuel + 1, page =>
    match page.nextCursor with
    | none => .ok [page]
    | some cursor => do
        let next ← queryDetails primitives reads (query.turn .older cursor)
        return page :: (← followNext primitives reads query fuel next)

/-- The pages that are reached from the first page of a query through offered cursors. -/
inductive Visited (primitives : Primitives Trace) (reads : StoreReads) (query : DetailQuery) :
    DetailQueryPage Trace → Prop
  | first {page : DetailQueryPage Trace}
      (answered : queryDetails primitives reads query = .ok page) :
      Visited primitives reads query page
  | next {page next : DetailQueryPage Trace} {cursor : String}
      (visited : Visited primitives reads query page)
      (offered : page.nextCursor = some cursor)
      (answered : queryDetails primitives reads (query.turn .older cursor) = .ok next) :
      Visited primitives reads query next
  | previous {page previous : DetailQueryPage Trace} {cursor : String}
      (visited : Visited primitives reads query page)
      (offered : page.previousCursor = some cursor)
      (answered : queryDetails primitives reads (query.turn .newer cursor) = .ok previous) :
      Visited primitives reads query previous

theorem followNext_of_window (start : Start query) {fuel : Nat}
    {before items after : List (LocatedRecord Trace)}
    (window : Window store query page before items after) (enough : after.length ≤ fuel) :
    ∃ pages, followNext primitives store.reads query fuel page = .ok pages ∧
      pages.flatMap (·.items) = (items ++ after).map (·.record) ∧
      ∃ last, pages.getLast? = some last ∧ last.nextCursor = none := by
  induction fuel generalizing page before items after with
  | zero =>
    have after_eq : after = [] := length_eq_zero_iff.mp (Nat.le_zero.mp enough)
    subst after_eq
    exact ⟨[page], rfl, by simp [window.items_eq], page, rfl, by simp [window.next_eq]⟩
  | succ fuel induction =>
    cases ended : page.nextCursor with
    | none =>
      have after_eq := window.after_eq_nil ended
      subst after_eq
      exact ⟨[page], by simp [followNext, ended], by simp [window.items_eq], page, rfl, ended⟩
    | some cursor =>
      obtain ⟨after_ne, next, answered, next_window⟩ := window.next start ended
      have positive := (validQuery_of_validateQuery start.validated).pageSize_pos
      have shorter : (after.drop query.pageSize).length ≤ fuel := by
        rw [length_drop]
        omega
      obtain ⟨pages, walked, items_eq, last, last_eq, last_ended⟩ := induction next_window shorter
      refine ⟨page :: pages, ?_, ?_, last, ?_, last_ended⟩
      · simp only [followNext, ended, answered, bind_eq_ok]
        exact ⟨next, rfl, pages, walked, rfl⟩
      · rw [flatMap_cons, items_eq, take_append_drop, window.items_eq, map_append]
      · rw [getLast?_cons, last_eq, getD_some]

theorem window_of_visited (start : Start query)
    (visited : Visited primitives store.reads query page) :
    ∃ before items after, Window store query page before items after := by
  induction visited with
  | first answered =>
    obtain ⟨page', answered', window⟩ := window_start store start
    rw [answered] at answered'
    cases answered'
    exact ⟨_, _, _, window⟩
  | next visited offered answered induction =>
    obtain ⟨before, items, after, window⟩ := induction
    obtain ⟨-, next', answered', next_window⟩ := window.next start offered
    rw [answered] at answered'
    cases answered'
    exact ⟨_, _, _, next_window⟩
  | previous visited offered answered induction =>
    obtain ⟨before, items, after, window⟩ := induction
    obtain ⟨-, previous', answered', previous_window⟩ := window.previous start offered
    rw [answered] at answered'
    cases answered'
    exact ⟨_, _, _, previous_window⟩

/-- The pages of a query list the records `listing`, forwards and backwards. -/
structure Paginates (store : FixedStore primitives) (query : DetailQuery)
    (listing : List (LocatedRecord Trace)) : Prop where
  /-- The records stand in the total order of sort key, day and row id, each once. -/
  ordered : Ascending (compareScan query) listing
  /-- They are the visible rows that the filter selects. -/
  complete : ∀ located, located ∈ listing ↔ store.Matches query.filter located
  /-- Following `next_cursor` from the first page shows all of them and then ends. -/
  forwards : ∀ fuel, listing.length ≤ fuel → ∃ first pages,
    queryDetails primitives store.reads query = .ok first ∧
    followNext primitives store.reads query fuel first = .ok pages ∧
    pages.flatMap (·.items) = listing.map (·.record) ∧
    ∃ last, pages.getLast? = some last ∧ last.nextCursor = none
  /-- From any page, `previous_cursor` leads to the rows right before it; a page without one is at
  the beginning. -/
  backwards : ∀ page, Visited primitives store.reads query page → ∃ before items after,
    listing = before ++ items ++ after ∧ page.items = items.map (·.record) ∧
    (page.previousCursor = none → before = []) ∧
    ∀ cursor, page.previousCursor = some cursor → ∃ previous,
      queryDetails primitives store.reads (query.turn .newer cursor) = .ok previous ∧
      previous.items = (before.rtake query.pageSize).map (·.record)

/-- A cursor is accepted only for the filter, sort, order, direction and retention revision of an
answer that offered it. -/
def CursorsBound (primitives : Primitives Trace) : Prop :=
  ∀ (reads : StoreReads) (history : List (Exchange Trace)) (query : DetailQuery)
    (cursor : String) (page : DetailQueryPage Trace),
    Answered primitives reads.cursorKey history → query.cursor = some cursor →
    Unforgeable primitives reads.cursorKey history cursor →
    CollisionFree primitives history query →
    queryDetails primitives reads query = .ok page →
    ∃ exchange ∈ history, ∃ issued, exchange.page.Offers query.direction issued ∧
      authenticPayload primitives reads.cursorKey issued =
        authenticPayload primitives reads.cursorKey cursor ∧
      exchange.query.filter.canonical = query.filter.canonical ∧
      (∀ row, exchange.query.filter.selects row = query.filter.selects row) ∧
      exchange.query.sort = query.sort ∧ exchange.query.order = query.order ∧
      exchange.reads.retentionRevision = reads.retentionRevision

theorem paginates_listing (store : FixedStore primitives) (start : Start query) :
    Paginates store query (store.listing query) := by
  have valid := validQuery_of_validateQuery start.validated
  constructor
  case ordered => exact store.ascending_listing query
  case complete =>
    intro located
    rw [listing, mem_sortBy, mem_matching valid]
  case forwards =>
    intro fuel enough
    obtain ⟨first, answered, window⟩ := window_start store start
    have rest_le : ((store.listing query).drop query.pageSize).length ≤ fuel := by
      rw [length_drop]
      omega
    obtain ⟨pages, walked, items_eq, ended⟩ := followNext_of_window start window rest_le
    refine ⟨first, pages, answered, walked, ?_, ended⟩
    rw [items_eq, take_append_drop]
  case backwards =>
    intro page visited
    obtain ⟨before, items, after, window⟩ := window_of_visited start visited
    refine ⟨before, items, after, window.listing_eq, window.items_eq, window.before_eq_nil, ?_⟩
    intro cursor offered
    obtain ⟨-, previous, answered, previous_window⟩ := window.previous start offered
    exact ⟨previous, answered, previous_window.items_eq⟩

theorem cursorsBound (primitives : Primitives Trace) : CursorsBound primitives := by
  intro reads history query cursor page answered cursor_eq unforgeable collision_free accepted
  simp only [queryDetails, bind_eq_ok] at accepted
  obtain ⟨-, -, anchor, decoded, -⟩ := accepted
  cases anchor_eq : decodeCursor primitives reads.cursorKey cursor query
      (filterFingerprint primitives query) reads.retentionRevision with
  | error error =>
    simp only [decodeAnchor, cursor_eq, anchor_eq] at decoded
    cases decoded
  | ok anchor =>
    obtain ⟨exchange, mem, issued, offers, payload_eq, filter_eq, context⟩ :=
      offered_of_decodeCursor answered unforgeable collision_free anchor_eq
    refine ⟨exchange, mem, issued, offers, payload_eq, filter_eq, fun row => ?_, context⟩
    rw [← selects_canonical, filter_eq, selects_canonical]

/-- Keyset pagination of the query details: the pages of a query list every matching row exactly
once in the total order, in both directions, and cursors are bound to their context. -/
theorem details_paginated (store : FixedStore primitives) {query : DetailQuery}
    (validated : validateQuery query = .ok ()) (cursor_eq : query.cursor = none)
    (direction_eq : query.direction = .older) :
    (∃ listing, Paginates store query listing) ∧ CursorsBound primitives :=
  ⟨⟨_, paginates_listing store ⟨validated, cursor_eq, direction_eq⟩⟩, cursorsBound primitives⟩

/-- A sum in place of the digest, and characters in place of the digits of base64. -/
def samplePrimitives : Primitives Unit where
  sha256 := fun bytes => .replicate 32 (bytes.foldr (fun byte sum => 31 * sum + byte) 7)
  base64Encode := fun bytes => .ofList (bytes.map fun byte => Char.ofNat byte.toNat)
  base64Decode := fun text => some (text.toList.map fun character => UInt8.ofNat character.toNat)
  normalizeIp := some
  parseTrace := fun _ => none
  parseAnswers := fun _ => some []
  filterJson := fun filter _ _ => bigEndian 8 filter.fromUtcMillis
  base64_decode_encode := by
    intro bytes
    have codes : ∀ code < 256, UInt8.ofNat (Char.ofNat code).toNat = UInt8.ofNat code := by
      decide +kernel
    have characters : ∀ byte : UInt8, UInt8.ofNat (Char.ofNat byte.toNat).toNat = byte := by
      intro byte
      rw [codes byte.toNat byte.toNat_lt, UInt8.ofNat_toNat]
    simp [Function.comp_def, characters]

/-- A row of the second day after the epoch. -/
def sampleRow (id eventTime duration : Int) (id_lt : id < i64Bound)
    (eventTime_lt : eventTime < i64Bound) (duration_lt : duration < i64Bound) : SqliteRow where
  id := id
  eventTimeUtcMillis := eventTime
  durationMillis := duration
  dnsCoreDurationMicros := none
  listenerId := some "udp"
  clientId := none
  clientIp := none
  clientMatchSource := none
  matchedClientId := none
  canonicalQname := some "a.example."
  qtype := 1
  transport := some "udp"
  rcode := 0
  source := some "upstream"
  failureClass := none
  cacheStatus := some "miss"
  strategyId := none
  upstreamId := none
  upstreamUsedId := none
  answerCount := some 0
  answersTruncated := some 0
  answerSummaryJson := some "[]"
  executionJson := none
  id_lt := id_lt
  eventTime_lt := eventTime_lt
  duration_lt := duration_lt

/-- Two rows of one day with the same time. -/
def sampleRows : List SqliteRow :=
  [sampleRow 1 86400001 9 (by decide) (by decide) (by decide),
   sampleRow 2 86400001 3 (by decide) (by decide) (by decide)]

def sampleStore : FixedStore samplePrimitives where
  cursorKey := []
  retentionRevision := 0
  snapshotCursor := ⟨"dqs_", 2⟩
  availableFromUtcMillis := some 86400000
  shards := fun day => if day = 1 then some sampleRows else none
  rowIds_distinct := by
    intro day rows found
    rw [ite_none_right_eq_some, some.injEq] at found
    rw [← found.2]
    decide
  readable := by
    intro day rows found row member
    rw [ite_none_right_eq_some, some.injEq] at found
    obtain ⟨rfl, rfl⟩ := found
    have mapped : ∀ row ∈ sampleRows, (mapRow samplePrimitives row 1).isOk = true := by
      decide +kernel
    cases row_mapped : mapRow samplePrimitives row 1 with
    | ok located => exact ⟨located, rfl⟩
    | error error => simpa [row_mapped, Except.isOk, Except.toBool] using mapped row member

/-- All rows of the second day, the newest first, one on each page. -/
def sampleQuery : DetailQuery where
  filter := ⟨86400000, 172800000, none, none, none, none, none, [], false, none, none, none, none,
    none⟩
  cursor := none
  direction := .older
  pageSize := 1
  sort := .occurredAt
  order := .desc

abbrev samplePage (query : DetailQuery) : Except PortError (DetailQueryPage Unit) :=
  queryDetails samplePrimitives sampleStore.reads query

/-- The cursor of the first page is accepted for the second one, and only because the first page
has offered it. -/
theorem details_paginated_sampleStore :
    validateQuery sampleQuery = .ok () ∧ (∃ listing, Paginates sampleStore sampleQuery listing) ∧
    ∃ first cursor second, samplePage sampleQuery = .ok first ∧ first.nextCursor = some cursor ∧
      samplePage (sampleQuery.turn .older cursor) = .ok second ∧
      ∃ issued, first.Offers .older issued ∧
        authenticPayload samplePrimitives [] issued =
          authenticPayload samplePrimitives [] cursor := by
  have validated : validateQuery sampleQuery = .ok () := by decide +kernel
  obtain ⟨⟨listing, paginates⟩, bound⟩ := details_paginated sampleStore validated rfl rfl
  obtain ⟨first, -, answered, -⟩ := paginates.forwards _ (Nat.le_refl _)
  have offers : (samplePage sampleQuery).map (·.nextCursor.isSome) = .ok true := by decide +kernel
  have turned : ((samplePage sampleQuery).bind fun page =>
      (samplePage (sampleQuery.turn .older (page.nextCursor.getD ""))).map fun _ => ()) =
        .ok () := by decide +kernel
  simp only [answered] at offers turned
  obtain ⟨cursor, offered⟩ := isSome_iff_exists.mp (Except.ok.inj offers)
  rw [Except.bind, offered, Option.getD_some] at turned
  cases accepted : samplePage (sampleQuery.turn .older cursor) with
  | error error => simp [accepted, Except.map] at turned
  | ok second =>
    have offer : first.Offers .older cursor := .next offered
    obtain ⟨exchange, mem, issued, offers, same, -⟩ := bound sampleStore.reads
      [⟨sampleStore.reads, sampleQuery, first⟩] (sampleQuery.turn .older cursor) cursor second
      (by simpa [Answered] using answered) rfl
      (fun payload authentic => ⟨_, mem_singleton_self _, .older, cursor, offer, authentic⟩)
      (by simp [CollisionFree, turn]) accepted
    obtain rfl := mem_singleton.mp mem
    exact ⟨validated, ⟨listing, paginates⟩, first, cursor, second, answered, offered, accepted,
      issued, offers, same⟩

end FluxDns.Storage
