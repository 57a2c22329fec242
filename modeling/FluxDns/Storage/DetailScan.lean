import FluxDns.Storage.DetailCursor

/-!
# The scan of a fixed set of rows

While the rows do not change, a call sees the rows that match its filter as one list in the total
order of sort key, day and row id; its page is a segment of that list next to its anchor.
-/

namespace FluxDns.Storage

open ByteReader Keyset List
open Std (TransCmp OrientedCmp)

variable {Trace : Type} {primitives : Primitives Trace}

variable {origin : Option (LocatedRecord Trace)} {query : DetailQuery}

instance (sort : DetailQuerySort) :
    TransCmp (compareKeys sort : LocatedRecord Trace → LocatedRecord Trace → Ordering) :=
  inferInstanceAs (TransCmp (compareLex
    (compareOn fun located : LocatedRecord Trace => located.primary sort)
    (compareLex (compareOn fun located : LocatedRecord Trace => located.location.dayUtc)
      (compareOn fun located : LocatedRecord Trace => located.location.rowId))))

theorem compareKeys_eq_lt {sort : DetailQuerySort} {left right : LocatedRecord Trace} :
    compareKeys sort left right = .lt ↔
      left.primary sort < right.primary sort ∨ left.primary sort = right.primary sort ∧
        (left.location.dayUtc < right.location.dayUtc ∨
          left.location.dayUtc = right.location.dayUtc ∧
            left.location.rowId < right.location.rowId) := by
  simp [compareKeys, Ordering.then_eq_lt, compare_lt_iff_lt]

theorem compareScan_of_ascending (ascending : scanAscending query = true) :
    (compareScan query : LocatedRecord Trace → LocatedRecord Trace → Ordering) =
      compareKeys query.sort := by
  funext left right
  simp [compareScan, ascending]

theorem compareScan_of_descending (descending : scanAscending query = false) :
    (compareScan query : LocatedRecord Trace → LocatedRecord Trace → Ordering) =
      fun left right => compareKeys query.sort right left := by
  funext left right
  have swapped : compareKeys query.sort right left = (compareKeys query.sort left right).swap :=
    OrientedCmp.eq_swap
  simp [compareScan, descending, swapped]

instance (query : DetailQuery) :
    TransCmp (compareScan query : LocatedRecord Trace → LocatedRecord Trace → Ordering) := by
  cases direction : scanAscending query with
  | true =>
    rw [compareScan_of_ascending direction]
    infer_instance
  | false =>
    rw [compareScan_of_descending direction]
    exact TransCmp.opposite

theorem compareScan_eq_iff {left right : LocatedRecord Trace} : compareScan query left right = .eq ↔
      left.primary query.sort = right.primary query.sort ∧ left.location = right.location := by
  have keys : compareKeys query.sort left right = .eq ↔
      left.primary query.sort = right.primary query.sort ∧ left.location = right.location := by
    simp [compareKeys, Ordering.then_eq_eq, RecordLocation.ext_iff]
  rw [← keys]
  unfold compareScan
  split
  · rfl
  · simp

/-- A store whose rows and retention revision do not change.  Row ids are primary keys, and every
visible row is a readable row of its day. -/
structure FixedStore (primitives : Primitives Trace) where
  cursorKey : List UInt8
  retentionRevision : UInt64
  snapshotCursor : DetailCommitCursor
  availableFromUtcMillis : Option Nat
  shards : Int → Option (List SqliteRow)
  rowIds_distinct : ∀ day rows, shards day = some rows →
    rows.Pairwise fun left right => left.id ≠ right.id
  readable : ∀ day rows, shards day = some rows →
    ∀ row ∈ rows, ∃ located, mapRow primitives row day = .ok located

variable (store : FixedStore primitives)

def FixedStore.reads : StoreReads where
  cursorKey := store.cursorKey
  retentionRevision := store.retentionRevision
  currentRetentionRevision := store.retentionRevision
  snapshotCursor := store.snapshotCursor
  deadlineExpired := fun _ => false
  acquireRead := fun day => .ok ((store.shards day).map fun rows => ⟨rows, .ok (), .ok ()⟩)
  availableFromUtcMillis := .ok store.availableFromUtcMillis

def FixedStore.rows (day : Int) : List SqliteRow :=
  (store.shards day).getD []

def FixedStore.Matches (filter : DetailQueryFilter) (located : LocatedRecord Trace) : Prop :=
  ∃ day, ∃ row ∈ store.rows day, filter.selects row = true ∧
    mapRow primitives row day = .ok located

/-- The selected records of a day, in no particular order. -/
def FixedStore.located (filter : DetailQueryFilter) (day : Int) : List (LocatedRecord Trace) :=
  ((store.rows day).filter filter.selects).filterMap fun row =>
    (mapRow primitives row day).toOption

variable {store : FixedStore primitives} {query : DetailQuery} {day : Int}
  {located : LocatedRecord Trace} {row : SqliteRow} {filter : DetailQueryFilter}

theorem FixedStore.rows_readable (mem : row ∈ store.rows day) :
    ∃ located, mapRow primitives row day = .ok located := by
  unfold FixedStore.rows at mem
  cases found : store.shards day with
  | none => simp [found] at mem
  | some rows =>
    rw [found] at mem
    exact store.readable day rows found row mem

theorem FixedStore.rows_distinct (store : FixedStore primitives) (day : Int) :
    (store.rows day).Pairwise fun left right => left.id ≠ right.id := by
  unfold FixedStore.rows
  cases found : store.shards day with
  | none => exact List.Pairwise.nil
  | some rows => exact store.rowIds_distinct day rows found

theorem FixedStore.mem_located : located ∈ store.located filter day ↔
      ∃ row ∈ store.rows day, filter.selects row = true ∧
        mapRow primitives row day = .ok located := by
  simp only [FixedStore.located, mem_filterMap, mem_filter, and_assoc]
  refine exists_congr fun row => and_congr_right fun _ => and_congr_right fun _ => ?_
  cases mapRow primitives row day <;> simp [Except.toOption]

/-- A total version of the row mapping that agrees with it on the rows of a day. -/
theorem FixedStore.exists_mapping (store : FixedStore primitives) (day : Int) :
    ∃ mapping : SqliteRow → LocatedRecord Trace,
      ∀ row ∈ store.rows day, mapRow primitives row day = .ok (mapping row) := by
  classical
  have inhabited : Nonempty (LocatedRecord Trace) :=
    ⟨⟨⟨none, none, ⟨""⟩, 0, 0, none, none, none, none, none, "", 0, .udp, 0, .cache, .answered,
      .hit, none, none, none, [], 0, false⟩, ⟨0, 0⟩⟩⟩
  choose! mapping mapped using fun row (mem : row ∈ store.rows day) =>
    store.rows_readable mem
  exact ⟨mapping, mapped⟩

theorem mapM_eq_ok_map {α β ε : Type} {function : α → Except ε β} {mapping : α → β}
    {items : List α} (agrees : ∀ item ∈ items, function item = .ok (mapping item)) :
    items.mapM function = .ok (items.map mapping) := by
  induction items with
  | nil => rfl
  | cons item items induction =>
    rw [forall_mem_cons] at agrees
    rw [mapM_cons, agrees.1, induction agrees.2]
    rfl

section Shards

variable {left right : SqliteRow} {leftLocated rightLocated : LocatedRecord Trace}

theorem Mapped.primary_eq (mapped : Mapped row day located) (sort : DetailQuerySort) :
    (located.primary sort : Int) = row.primaryColumn sort := by
  cases sort with
  | occurredAt => exact mapped.occurredAt_eq
  | duration => exact mapped.duration_eq

/-- `ORDER BY` sorts the rows of a shard like their records. -/
theorem compareRows_eq (left_mapped : Mapped left day leftLocated)
    (right_mapped : Mapped right day rightLocated) :
    compareRows query left right = compareScan query leftLocated rightLocated := by
  have primary : compare (left.primaryColumn query.sort) (right.primaryColumn query.sort) =
      compare (leftLocated.primary query.sort) (rightLocated.primary query.sort) := by
    rw [← left_mapped.primary_eq, ← right_mapped.primary_eq]
    simp [compare, compareOfLessAndEq]
  simp [compareRows, compareScan, compareKeys, left_mapped.location_eq, right_mapped.location_eq,
    primary]

theorem anchorCondition_eq (origin : LocatedRecord Trace)
    (right_mapped : Mapped right day rightLocated) :
    anchorCondition query day right (origin.anchor query.sort) =
      (compareScan query origin rightLocated == .lt) := by
  have primary := right_mapped.primary_eq query.sort
  have anchor_primary : (origin.anchor query.sort).primary = origin.primary query.sort := rfl
  have anchor_location : (origin.anchor query.sort).location = origin.location := rfl
  generalize origin.anchor query.sort = anchor at anchor_primary anchor_location
  rw [Bool.eq_iff_iff, beq_iff_eq]
  cases direction : scanAscending query
  case' true => rw [compareScan_of_ascending direction]
  case' false => rw [compareScan_of_descending direction]
  all_goals
    rw [compareKeys_eq_lt, right_mapped.location_eq, ← anchor_primary, ← anchor_location]
    rcases lt_trichotomy day anchor.location.dayUtc with before | same | after
    case' inl => have order := compare_lt_iff_lt.mpr before
    case' inr.inl => have order := Std.compare_eq_iff_eq.mpr same
    case' inr.inr => have order := compare_gt_iff_gt.mpr after
    all_goals
      simp only [anchorCondition, scanComparison, direction, ← primary, order, if_true,
        Bool.false_eq_true, if_false, Bool.or_eq_true, Bool.and_eq_true, beq_iff_eq,
        decide_eq_true_eq, Bool.not_true, Bool.not_false, and_true, and_false, or_false]
      omega

end Shards

/-- Whether a record comes after the origin of the scan. -/
def afterOrigin (query : DetailQuery) (origin : Option (LocatedRecord Trace))
    (located : LocatedRecord Trace) : Bool :=
  origin.all fun origin => compareScan query origin located == .lt

theorem afterOrigin_some (query : DetailQuery) (origin : LocatedRecord Trace) :
    afterOrigin query (some origin) = fun located => compareScan query origin located == .lt :=
  rfl

/-- The scan of a shard finds the first records of the day after the origin. -/
theorem queryShard_eq {rows : List SqliteRow} (found : store.shards day = some rows)
    (valid : ValidQuery query)
    (origin_lt : ∀ located ∈ origin, located.primary query.sort < i64Bound) (limit : Nat) :
    queryShard primitives ⟨rows, .ok (), .ok ()⟩ day query
        (origin.map fun located => located.anchor query.sort) limit =
      .ok ((sortBy (compareScan query)
        ((store.located query.filter day).filter (afterOrigin query origin))).take limit) := by
  obtain ⟨mapping, mapped⟩ := store.exists_mapping day
  have rows_eq : store.rows day = rows := by simp [FixedStore.rows, found]
  rw [rows_eq] at mapped
  have from_lt := valid.from_lt_to
  have to_lt := valid.to_lt
  -- The statement selects the rows whose records are selected and come after the origin.
  have selected : (store.located query.filter day).filter (afterOrigin query origin) =
      (rows.filter fun row => query.filter.selects row &&
        (origin.map fun located => located.anchor query.sort).all
          (anchorCondition query day row)).map mapping := by
    have located_eq : store.located query.filter day =
        (rows.filter query.filter.selects).map mapping := by
      rw [FixedStore.located, rows_eq, ← filterMap_eq_map]
      refine filterMap_congr fun row mem => ?_
      rw [mapped row (mem_of_mem_filter mem)]
      rfl
    rw [located_eq, filter_map, filter_filter]
    congr 1
    refine filter_congr fun row mem => ?_
    rw [Bool.and_comm]
    congr 1
    cases origin with
    | none => rfl
    | some origin => exact (anchorCondition_eq origin (mapped_of_mapRow (mapped row mem))).symm
  set matching := rows.filter fun row => query.filter.selects row &&
    (origin.map fun located => located.anchor query.sort).all (anchorCondition query day row)
    with matching_eq
  have matching_mapped : ∀ row ∈ matching, mapRow primitives row day = .ok (mapping row) :=
    fun row mem => mapped row (mem_of_mem_filter mem)
  have sorted : (sortBy (compareRows query) matching).map mapping =
      sortBy (compareScan query) (matching.map mapping) := by
    refine map_insertionSort _ _ mapping matching fun left left_member right right_member => ?_
    rw [compareRows_eq (mapped_of_mapRow (matching_mapped left left_member))
      (mapped_of_mapRow (matching_mapped right right_member))]
  have taken : ((sortBy (compareRows query) matching).take limit).mapM
      (mapRow primitives · day) =
        .ok (((sortBy (compareRows query) matching).take limit).map mapping) :=
    mapM_eq_ok_map fun row mem =>
      matching_mapped row ((mem_sortBy _).mp (mem_of_mem_take mem))
  rw [selected, ← sorted, ← map_take, ← taken]
  have anchor_accepted : ((origin.map fun located => located.anchor query.sort).any
      fun anchor => decide (i64Bound ≤ anchor.primary)) = false := by
    cases origin with
    | none => rfl
    | some origin =>
      have bound := origin_lt origin rfl
      simpa [LocatedRecord.anchor] using bound
  have from_accepted : decide (i64Bound ≤ query.filter.fromUtcMillis) = false := by
    simp only [decide_eq_false_iff_not]
    omega
  have to_accepted : decide (i64Bound ≤ query.filter.toUtcMillis) = false := by
    simp only [decide_eq_false_iff_not]
    omega
  rw [queryShard, from_accepted, to_accepted, anchor_accepted]
  rfl

def spannedDays (filter : DetailQueryFilter) : List Int :=
  dayRange (filter.fromUtcMillis / dayMillis : Nat) ((filter.toUtcMillis - 1) / dayMillis : Nat)

def FixedStore.matching (store : FixedStore primitives) (filter : DetailQueryFilter) :
    List (LocatedRecord Trace) :=
  (spannedDays filter).flatMap (store.located filter)

theorem mem_dayRange {first last day : Int} :
    day ∈ dayRange first last ↔ first ≤ day ∧ day ≤ last := by
  simp only [dayRange, mem_map, mem_range]
  constructor
  · omega
  · rintro ⟨lower, upper⟩
    exact ⟨(day - first).toNat, by omega, by omega⟩

theorem nodup_dayRange (first last : Int) : (dayRange first last).Nodup :=
  nodup_range.map fun left right equal => by simpa using equal

variable (valid : ValidQuery query)

include valid

variable (origin_lt : ∀ located ∈ origin, located.primary query.sort < i64Bound)

include origin_lt

theorem scanDay_eq (limit : Nat) (candidates : List (LocatedRecord Trace)) (day : Int) :
    scanDay primitives store.reads query
        (origin.map fun located => located.anchor query.sort) limit candidates day =
      .ok (((sortBy (compareScan query)
        ((store.located query.filter day).filter (afterOrigin query origin))).take limit).foldl
          (insertBounded query limit) candidates) := by
  cases found : store.shards day with
  | none =>
    have empty : store.located query.filter day = [] := by
      simp [FixedStore.located, FixedStore.rows, found]
    simp only [scanDay, FixedStore.reads, found, empty, sortBy, filter_nil,
      insertionSort_nil, take_nil, foldl_nil]
    rfl
  | some rows =>
    have scanned := queryShard_eq found valid origin_lt limit
    simp only [scanDay, FixedStore.reads, found]
    simp only [Option.map_some, reject, Bool.false_eq_true, if_false, bind, Except.bind, scanned]

theorem foldlM_scanDay (limit : Nat) (days : List Int) (candidates : List (LocatedRecord Trace)) :
    days.foldlM (scanDay primitives store.reads query
        (origin.map fun located => located.anchor query.sort) limit) candidates =
      .ok (days.foldl (fun buffer day =>
        ((sortBy (compareScan query)
          ((store.located query.filter day).filter (afterOrigin query origin))).take limit).foldl
            (Keyset.insertBounded (compareScan query) limit) buffer) candidates) := by
  induction days generalizing candidates with
  | nil => rfl
  | cons day days induction =>
    rw [foldlM_cons, scanDay_eq valid origin_lt]
    exact induction _

omit origin_lt

/-- The shard of a selected row is the day of a time inside the range of the filter. -/
theorem mem_spannedDays (selected : query.filter.selects row = true)
    (mapped_row : mapRow primitives row day = .ok located) : day ∈ spannedDays query.filter := by
  have mapped := mapped_of_mapRow mapped_row
  obtain ⟨day_eq, -⟩ := utcDay_eq_ok mapped.day_eq
  obtain ⟨lower, upper⟩ := DetailQueryFilter.time_of_selects selected
  rw [← mapped.occurredAt_eq] at lower upper
  have nonempty := valid.from_lt_to
  rw [spannedDays, mem_dayRange, day_eq]
  constructor
  · exact Int.ofNat_le.mpr (Nat.div_le_div_right (by omega))
  · exact Int.ofNat_le.mpr (Nat.div_le_div_right (by omega))

theorem FixedStore.mem_matching :
    located ∈ store.matching query.filter ↔ store.Matches query.filter located := by
  simp only [FixedStore.matching, FixedStore.Matches, mem_flatMap, FixedStore.mem_located]
  constructor
  · rintro ⟨day, -, row, mem⟩
    exact ⟨day, row, mem⟩
  · rintro ⟨day, row, mem, selected, mapped_row⟩
    exact ⟨day, mem_spannedDays valid selected mapped_row, row, mem, selected, mapped_row⟩

omit valid

theorem FixedStore.located_location (mem : located ∈ store.located filter day) :
    located.location.dayUtc = day := by
  obtain ⟨row, -, -, mapped⟩ := FixedStore.mem_located.mp mem
  rw [(mapped_of_mapRow mapped).location_eq]

variable (store : FixedStore primitives)

/-- Two records of the store differ in their location. -/
theorem FixedStore.distinct_matching (filter : DetailQueryFilter) (query : DetailQuery) :
    Distinct (compareScan query) (store.matching filter) := by
  refine pairwise_flatMap.mpr ⟨fun day _ => ?_, ?_⟩
  · -- Within a day the row ids differ.
    refine List.Pairwise.filterMap _ ?_ ((store.rows_distinct day).filter filter.selects)
    intro left right different leftLocated left_mapped rightLocated right_mapped equal
    have left_ok : mapRow primitives left day = .ok leftLocated := by
      revert left_mapped
      cases mapRow primitives left day <;> simp [Except.toOption]
    have right_ok : mapRow primitives right day = .ok rightLocated := by
      revert right_mapped
      cases mapRow primitives right day <;> simp [Except.toOption]
    have same := (compareScan_eq_iff.mp equal).2
    rw [(mapped_of_mapRow left_ok).location_eq, (mapped_of_mapRow right_ok).location_eq] at same
    exact different (congrArg RecordLocation.rowId same)
  · refine (nodup_dayRange _ _).imp ?_
    intro leftDay rightDay different left left_member right right_member equal
    apply different
    rw [← FixedStore.located_location left_member, ← FixedStore.located_location right_member,
      (compareScan_eq_iff.mp equal).2]

variable (query : DetailQuery)

/-- The list that the pages of a query are segments of. -/
def FixedStore.listing : List (LocatedRecord Trace) :=
  sortBy (compareScan query) (store.matching query.filter)

theorem FixedStore.ascending_listing : Ascending (compareScan query) (store.listing query) :=
  (store.distinct_matching query.filter query).ascending_sortBy

def FixedStore.scan (origin : Option (LocatedRecord Trace)) : List (LocatedRecord Trace) :=
  (store.listing query).filter (afterOrigin query origin)

/-- The page that shows the first records of a scan. -/
def FixedStore.pageOf (scan : List (LocatedRecord Trace)) : DetailQueryPage Trace :=
  let hasMore := decide (query.pageSize < scan.length)
  let candidates := if query.direction = .newer then (scan.take query.pageSize).reverse
    else scan.take query.pageSize
  { items := candidates.map (·.record)
    previousCursor := previousCursor primitives store.cursorKey query candidates hasMore
      (filterFingerprint primitives query) store.retentionRevision
    nextCursor := nextCursor primitives store.cursorKey query candidates hasMore
      (filterFingerprint primitives query) store.retentionRevision
    snapshotCursor := store.snapshotCursor
    retentionRevision := store.retentionRevision
    availableFromUtcMillis := store.availableFromUtcMillis }

variable {store} {query}

/-- A call shows the first records after its origin in the total order. -/
theorem queryDetails_eq (validated : validateQuery query = .ok ())
    (decoded : decodeAnchor primitives store.reads query =
      .ok (origin.map fun located => located.anchor query.sort))
    (origin_lt : ∀ located ∈ origin, located.primary query.sort < i64Bound)
    (directed : query.cursor.isNone = true → query.direction = .older) :
    queryDetails primitives store.reads query =
      .ok (store.pageOf query (store.scan query origin)) := by
  have valid := validQuery_of_validateQuery validated
  obtain ⟨fromDay, from_eq⟩ := valid.from_day
  obtain ⟨toDay, to_eq⟩ := valid.to_day
  have days : dayRange fromDay toDay = spannedDays query.filter := by
    rw [spannedDays, (utcDay_eq_ok from_eq).1, (utcDay_eq_ok to_eq).1]
  have distinct : Distinct (compareScan query) ((spannedDays query.filter).flatMap fun day =>
      (store.located query.filter day).filter (afterOrigin query origin)) := by
    rw [← filter_flatMap]
    exact (store.distinct_matching query.filter query).sublist filter_sublist
  have scanned : (dayRange fromDay toDay).foldlM (scanDay primitives store.reads query
      (origin.map fun located => located.anchor query.sort) (query.pageSize + 1)) [] =
        .ok ((store.scan query origin).take (query.pageSize + 1)) := by
    rw [foldlM_scanDay valid origin_lt, days]
    have merged := foldl_parts (query.pageSize + 1) [] _ distinct
    have whole : sortBy (compareScan query) ([] ++ (spannedDays query.filter).flatMap fun day =>
        (store.located query.filter day).filter (afterOrigin query origin)) =
          store.scan query origin := by
      rw [nil_append, ← filter_flatMap]
      exact (store.distinct_matching query.filter query).sortBy_filter _
    rw [whole] at merged
    simpa [sortBy] using merged
  have ascending : Ascending (compareScan query) (store.scan query origin) :=
    (store.ascending_listing query).sublist filter_sublist
  have sorted : sortBy (compareScan query) ((store.scan query origin).take (query.pageSize + 1)) =
      (store.scan query origin).take (query.pageSize + 1) :=
    Ascending.sortBy_eq_self (ascending.sublist (take_sublist _ _))
  have more : decide (query.pageSize <
      ((store.scan query origin).take (query.pageSize + 1)).length) =
        decide (query.pageSize < (store.scan query origin).length) := by
    rw [length_take, decide_eq_decide]
    omega
  have accepted : (query.cursor.isNone && query.direction == .newer) = false := by
    cases absent : query.cursor.isNone with
    | false => rfl
    | true => simp [directed absent]
  simp only [queryDetails, bind_eq_ok]
  refine ⟨(), validated, _, decoded, (), reject_eq_ok.mpr accepted, _, from_eq, _, to_eq, _,
    scanned, (), reject_eq_ok.mpr (by simp [FixedStore.reads]), _, rfl, ?_⟩
  rw [sorted, more, take_take, Nat.min_eq_left (Nat.le_succ _)]
  rfl

end FluxDns.Storage
