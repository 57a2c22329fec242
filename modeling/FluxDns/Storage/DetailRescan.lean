import FluxDns.Storage.DetailPagination

/-!
# Calls over a growing store

Rows are added between the scans of one call and between the calls of a walk.  What a call with an
answer has scanned is a fixed set of rows again, and a row that every call of a walk has scanned is
on one of its pages.
-/

namespace FluxDns.Storage

open ByteReader Keyset List FixedStore Except Ordering
open Std (TransCmp OrientedCmp)

variable {Trace : Type} {primitives : Primitives Trace} {query : DetailQuery} {day : Int}
  {anchor : Option CursorAnchor} {found : List (LocatedRecord Trace)} {rows : List SqliteRow}
  {limit : Nat}

/-- The order of sort column and row id, before the scan direction is applied. -/
def compareColumns (sort : DetailQuerySort) : SqliteRow → SqliteRow → Ordering :=
  compareLex (compareOn fun row => row.primaryColumn sort) (compareOn fun row => row.id)

instance (sort : DetailQuerySort) : TransCmp (compareColumns sort) :=
  inferInstanceAs (TransCmp (compareLex _ _))

instance (query : DetailQuery) : TransCmp (compareRows query) := by
  cases direction : scanAscending query with
  | true =>
    have ascending : compareRows query = compareColumns query.sort := by
      funext left right
      simp [compareRows, direction, compareColumns, compareLex, compareOn]
    rw [ascending]
    infer_instance
  | false =>
    have descending : compareRows query = fun left right =>
        compareColumns query.sort right left := by
      funext left right
      have swapped : compareColumns query.sort right left =
          (compareColumns query.sort left right).swap := OrientedCmp.eq_swap
      rw [swapped]
      simp [compareRows, direction, compareColumns, compareLex, compareOn]
    rw [descending]
    exact TransCmp.opposite

theorem distinct_compareRows (distinct : rows.Pairwise fun left right => left.id ≠ right.id) :
    Distinct (compareRows query) rows := by
  refine distinct.imp fun {left right} different equal => different ?_
  unfold compareRows at equal
  split at equal
  · exact Std.compare_eq_iff_eq.mp (then_eq_eq.mp equal).2
  · rw [swap_eq_eq] at equal
    exact Std.compare_eq_iff_eq.mp (then_eq_eq.mp equal).2

/-- The rows of a shard that map to a record of its day. -/
def readableRows (primitives : Primitives Trace) (day : Int) (rows : List SqliteRow) :
    List SqliteRow :=
  rows.filter fun row => (mapRow primitives row day).isOk

theorem mem_readableRows {row : SqliteRow} : row ∈ readableRows primitives day rows ↔
      row ∈ rows ∧ ∃ located, mapRow primitives row day = .ok located := by
  rw [readableRows, mem_filter]
  cases mapRow primitives row day <;> simp [Except.isOk, Except.toBool]

theorem exists_ok_of_mapM {α β ε : Type} {function : α → Except ε β} {items : List α}
    {results : List β} (mapped : items.mapM function = .ok results) :
    ∀ item ∈ items, ∃ result, function item = .ok result := by
  induction items generalizing results with
  | nil => exact fun _ mem => (nomatch mem)
  | cons item items induction =>
    rw [mapM_cons, bind_eq_ok] at mapped
    obtain ⟨first, first_eq, mapped⟩ := mapped
    rw [bind_eq_ok] at mapped
    obtain ⟨rest, rest_eq, -⟩ := mapped
    exact forall_mem_cons.mpr ⟨⟨first, first_eq⟩, induction rest_eq⟩

theorem queryShard_readableRows (distinct : rows.Pairwise fun left right => left.id ≠ right.id)
    (scanned : queryShard primitives ⟨rows, .ok (), .ok ()⟩ day query anchor limit = .ok found) :
    queryShard primitives ⟨readableRows primitives day rows, .ok (), .ok ()⟩ day query anchor
      limit = .ok found := by
  simp only [queryShard, bind_eq_ok] at scanned ⊢
  obtain ⟨_, from_ok, _, to_ok, _, anchor_ok, _, fetched, mapped⟩ := scanned
  refine ⟨_, from_ok, _, to_ok, _, anchor_ok, (), fetched, ?_⟩
  rw [← mapped, readableRows, filter_filter]
  set wanted := fun row => query.filter.selects row && anchor.all (anchorCondition query day row)
  have commuted : (rows.filter fun row => wanted row && (mapRow primitives row day).isOk) =
      (rows.filter wanted).filter fun row => (mapRow primitives row day).isOk := by
    rw [filter_filter]
    exact filter_congr fun row _ => Bool.and_comm _ _
  have different : Distinct (compareRows query) (rows.filter wanted) :=
    (distinct_compareRows distinct).sublist filter_sublist
  rw [commuted, different.sortBy_filter, take_filter_of_forall]
  intro row mem
  obtain ⟨located, located_eq⟩ := exists_ok_of_mapM mapped row mem
  rw [located_eq]
  rfl

/-- What a call reads that meets no fault: the rows of each shard at the time of its scan. -/
structure Scanned where
  cursorKey : List UInt8
  retentionRevision : UInt64
  currentRetentionRevision : UInt64
  snapshotCursor : DetailCommitCursor
  availableFromUtcMillis : Option Nat
  shards : Int → Option (List SqliteRow)

variable (scanned : Scanned)

def Scanned.reads : StoreReads where
  cursorKey := scanned.cursorKey
  retentionRevision := scanned.retentionRevision
  currentRetentionRevision := scanned.currentRetentionRevision
  snapshotCursor := scanned.snapshotCursor
  deadlineExpired := fun _ => false
  acquireRead := fun day => .ok ((scanned.shards day).map fun rows => ⟨rows, .ok (), .ok ()⟩)
  availableFromUtcMillis := .ok scanned.availableFromUtcMillis

def Scanned.Keyed : Prop :=
  ∀ day rows, scanned.shards day = some rows →
    rows.Pairwise fun left right => left.id ≠ right.id

def Scanned.Matches (primitives : Primitives Trace)
    (filter : DetailQueryFilter) (located : LocatedRecord Trace) : Prop :=
  ∃ day rows row, scanned.shards day = some rows ∧ row ∈ rows ∧ filter.selects row = true ∧
    mapRow primitives row day = .ok located

variable {scanned : Scanned} {page : DetailQueryPage Trace} {located : LocatedRecord Trace}
  {origin : LocatedRecord Trace} {candidates : List (LocatedRecord Trace)} {offered : UInt64}
  {direction : DetailPageDirection} {reads : StoreReads}

/-- A store at rest with the readable rows of a call. -/
def Scanned.fixed (scanned : Scanned) (primitives : Primitives Trace) (keyed : scanned.Keyed) :
    FixedStore primitives where
  cursorKey := scanned.cursorKey
  retentionRevision := scanned.retentionRevision
  snapshotCursor := scanned.snapshotCursor
  availableFromUtcMillis := scanned.availableFromUtcMillis
  shards := fun day => (scanned.shards day).map (readableRows primitives day)
  rowIds_distinct := by
    intro day rows found
    obtain ⟨all, all_eq, rfl⟩ := Option.map_eq_some_iff.mp found
    exact (keyed day all all_eq).sublist filter_sublist
  readable := by
    intro day rows found row member
    obtain ⟨all, all_eq, rfl⟩ := Option.map_eq_some_iff.mp found
    exact (mem_readableRows.mp member).2

theorem Scanned.Matches.fixed {filter : DetailQueryFilter}
    (matched : scanned.Matches primitives filter located) (keyed : scanned.Keyed) :
    (scanned.fixed primitives keyed).Matches filter located := by
  obtain ⟨day, rows, row, found, mem, selected, mapped⟩ := matched
  refine ⟨day, row, ?_, selected, mapped⟩
  simpa [FixedStore.rows, Scanned.fixed, found] using mem_readableRows.mpr ⟨mem, located, mapped⟩

variable (keyed : scanned.Keyed)

theorem scanDay_fixed
    (answered : scanDay primitives scanned.reads query anchor limit candidates day = .ok found) :
    scanDay primitives (scanned.fixed primitives keyed).reads query anchor limit candidates day =
      .ok found := by
  simp only [scanDay, bind_eq_ok] at answered ⊢
  obtain ⟨_, in_time, lease, acquired, answered⟩ := answered
  refine ⟨(), in_time, ?_⟩
  cases shard : scanned.shards day with
  | none =>
    simp only [Scanned.reads, shard, Option.map_none, ok.injEq] at acquired
    subst acquired
    refine ⟨none, ?_, answered⟩
    simp [reads, Scanned.fixed, shard]
  | some rows =>
    simp only [Scanned.reads, shard, Option.map_some, ok.injEq] at acquired
    subst acquired
    rw [bind_eq_ok] at answered
    obtain ⟨records, records_eq, answered⟩ := answered
    refine ⟨some ⟨readableRows primitives day rows, .ok (), .ok ()⟩, ?_, ?_⟩
    · simp [reads, Scanned.fixed, shard]
    · rw [bind_eq_ok]
      exact ⟨records, queryShard_readableRows (keyed day rows shard) records_eq, answered⟩

theorem foldlM_scanDay_fixed {days : List Int}
    (answered : days.foldlM (scanDay primitives scanned.reads query anchor limit) candidates =
      .ok found) :
    days.foldlM (scanDay primitives (scanned.fixed primitives keyed).reads query anchor limit)
      candidates = .ok found := by
  induction days generalizing candidates with
  | nil => exact answered
  | cons day days induction =>
    rw [foldlM_cons, bind_eq_ok] at answered ⊢
    obtain ⟨next, next_eq, answered⟩ := answered
    exact ⟨next, scanDay_fixed keyed next_eq, induction answered⟩

/-- A call with an answer saw one retention revision, and the readable rows at rest give the same
answer. -/
theorem queryDetails_fixed (answered : queryDetails primitives scanned.reads query = .ok page) :
    scanned.currentRetentionRevision = scanned.retentionRevision ∧
      queryDetails primitives (scanned.fixed primitives keyed).reads query = .ok page := by
  simp only [queryDetails, bind_eq_ok] at answered ⊢
  obtain ⟨_, validated, anchor, decoded, _, directed, fromDay, from_eq, toDay, to_eq, candidates,
    scanned_eq, _, unchanged, available, available_eq, page_eq⟩ := answered
  have same := reject_eq_ok.mp unchanged
  simp only [Scanned.reads, bne_eq_false_iff_eq] at same
  refine ⟨same, (), validated, anchor, ?_, (), directed, fromDay, from_eq, toDay, to_eq,
    candidates, foldlM_scanDay_fixed keyed scanned_eq, (), ?_, available, available_eq, page_eq⟩
  · rw [← decoded]
    rfl
  · exact reject_eq_ok.mpr (by simp [reads])

/-- A page shows a record, or offers a cursor of a position before it. -/
def Reaches (primitives : Primitives Trace) (key : List UInt8) (query : DetailQuery)
    (page : DetailQueryPage Trace) (located : LocatedRecord Trace) : Prop :=
  located.record ∈ page.items ∨ ∃ origin, ValidAnchor (origin.anchor query.sort) ∧
    page.nextCursor = some (encodeCursor primitives key origin query .older
      (filterFingerprint primitives query) page.retentionRevision) ∧
    compareScan query origin located = .lt

theorem reaches_of_mem (store : FixedStore primitives) (start : Start query)
    {scan : List (LocatedRecord Trace)} (ascending : Ascending (compareScan query) scan)
    (listed : ∀ located ∈ scan, located ∈ store.listing query)
    (items_eq : page.items = (scan.take query.pageSize).map (·.record))
    (next_eq : page.nextCursor = if scan.drop query.pageSize = [] then none
      else (scan.take query.pageSize).getLast?.map (store.cursorAt query .older))
    (revision_eq : page.retentionRevision = store.retentionRevision) (mem : located ∈ scan) :
    Reaches primitives store.cursorKey query page located := by
  have positive := (validQuery_of_validateQuery start.validated).pageSize_pos
  rcases ascending.mem_take_or_last_less positive mem with shown | ⟨more, last, last_eq, less⟩
  · rw [Reaches, items_eq]
    exact .inl (mem_map_of_mem shown)
  · refine .inr ⟨last, ?_, ?_, less⟩
    · exact validAnchor_of_mem start
        (listed last (mem_of_mem_take (mem_of_getLast? last_eq)))
    · rw [next_eq, if_neg more, last_eq, revision_eq]
      rfl

theorem reaches_start (start : Start query) (keyed : scanned.Keyed) {page : DetailQueryPage Trace}
    (answered : queryDetails primitives scanned.reads query = .ok page)
    {located : LocatedRecord Trace} (matched : scanned.Matches primitives query.filter located) :
    Reaches primitives scanned.cursorKey query page located := by
  have valid := validQuery_of_validateQuery start.validated
  set store := scanned.fixed primitives keyed with store_eq
  have page_eq := (queryDetails_fixed keyed answered).2
  rw [← store_eq, queryDetails_start start, ok.injEq] at page_eq
  subst page_eq
  refine reaches_of_mem store start (store.ascending_listing query) (fun _ => id) ?_
    (nextCursor_start store _ start) rfl ?_
  · simp [FixedStore.pageOf, start.direction_eq]
  · rw [listing, mem_sortBy, mem_matching valid]
    exact matched.fixed keyed

theorem accepted_of_decodeAnchor {cursor : String} (cursor_eq : query.cursor = some cursor)
    (decoded : decodeAnchor primitives reads query = .ok anchor) :
    ∃ accepted, decodeCursor primitives reads.cursorKey cursor query
      (filterFingerprint primitives query) reads.retentionRevision = .ok accepted := by
  cases accepted : decodeCursor primitives reads.cursorKey cursor query
      (filterFingerprint primitives query) reads.retentionRevision with
  | ok anchor => exact ⟨anchor, rfl⟩
  | error error =>
    simp only [decodeAnchor, cursor_eq, accepted] at decoded
    cases decoded

/-- A cursor is accepted only under the retention revision that it was issued for. -/
theorem revision_eq_of_decodeCursor {key : List UInt8} {fingerprint used : List UInt8}
    {current : UInt64} {next : DetailQuery} {anchor : CursorAnchor}
    (length : fingerprint.length = 16) (accepted : decodeCursor primitives key
      (encodeCursor primitives key origin query direction fingerprint offered) next used current =
        .ok anchor) : current = offered := by
  obtain ⟨payload, authentic, -, -, -, -, revision⟩ := payload_of_decodeCursor accepted
  rw [authenticPayload_encodeCursor length, Option.some.injEq] at authentic
  subst authentic
  have bound : offered.toNat < 256 ^ 8 := offered.toNat_lt
  rw [(payloadFields _ query direction length offered).revision_eq, fromBigEndian_bigEndian,
    Nat.mod_eq_of_lt bound, UInt64.ofNat_toNat] at revision
  exact revision.symm

theorem revision_eq_of_turn (answered : queryDetails primitives reads
      (query.turn direction (encodeCursor primitives reads.cursorKey origin query direction
        (filterFingerprint primitives query) offered)) = .ok page) :
    reads.retentionRevision = offered := by
  simp only [queryDetails, bind_eq_ok] at answered
  obtain ⟨-, -, anchor, decoded, -⟩ := answered
  obtain ⟨origin_anchor, accepted⟩ := accepted_of_decodeAnchor rfl decoded
  exact revision_eq_of_decodeCursor (length_filterFingerprint _ _) accepted

theorem reaches_next (start : Start query) (keyed : scanned.Keyed)
    (valid : ValidAnchor (origin.anchor query.sort)) {page : DetailQueryPage Trace}
    (answered : queryDetails primitives scanned.reads
      (query.turn .older (encodeCursor primitives scanned.cursorKey origin query .older
        (filterFingerprint primitives query) offered)) = .ok page) {located : LocatedRecord Trace}
    (matched : scanned.Matches primitives query.filter located)
    (later : compareScan query origin located = .lt) :
    Reaches primitives scanned.cursorKey query page located := by
  have same : scanned.retentionRevision = offered := revision_eq_of_turn answered
  have valid_query := validQuery_of_validateQuery start.validated
  set store := scanned.fixed primitives keyed with store_eq
  have page_eq := (queryDetails_fixed keyed answered).2
  have turned : queryDetails primitives store.reads (query.turn .older _) = .ok _ :=
    queryDetails_from start store .older valid
  rw [← store_eq, ← same] at page_eq
  have page_shown := turned.symm.trans page_eq
  rw [ok.injEq] at page_shown
  subst page_shown
  have scan_eq : store.scan (query.turn .older (store.cursorAt query .older origin)) (some origin) =
      (store.listing query).filter fun located => compareScan query origin located == .lt := by
    rw [FixedStore.scan, listing_turn_older start, afterOrigin_some, compareScan_turn_older start]
  refine reaches_of_mem store start ?_ ?_ rfl (nextCursor_older store _ _) rfl ?_
  · rw [scan_eq]
    exact (store.ascending_listing query).sublist filter_sublist
  · rw [scan_eq]
    exact fun _ => mem_of_mem_filter
  · rw [scan_eq, mem_filter, listing, mem_sortBy,
      mem_matching valid_query]
    exact ⟨matched.fixed keyed, by simpa using later⟩

end FluxDns.Storage
