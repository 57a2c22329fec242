import Mathlib.Data.List.Destutter
import Mathlib.Data.List.Sort
import Mathlib.Data.String.Basic
import FluxDns.Library.ByteReader
import FluxDns.Ports
import FluxDns.Time

/-!
# Rows of the resolve log

A day shard stores one row per resolved query.  This module has the columns that a detail query
reads, the filter that is translated to SQL conditions, and the mapping of a row to the record that
is shown.
-/

namespace FluxDns.Storage

open ByteReader

variable (operation : String)

def invalid : PortError := .new .invalidInput operation

def invalidCursor (context : String) : PortError :=
  (PortError.new .invalidInput operation).withSafeContext context

def corrupt : PortError := .new .corruptData operation

def dayMillis : Nat := 86400000

/-- Whether `format_shard_file_name` gives the day a name: a date of the years -9999 to 9999. -/
def hasShardFileName (day : Int) : Bool := decide (-4371588 ≤ day) && decide (day ≤ 2932896)

/-- `utc_day`: the day of a time since the epoch. -/
def utcDay (millis : Nat) : Except PortError Int :=
  let day : Int := (millis / dayMillis : Nat)
  if hasShardFileName day then .ok day else .error (invalid "detail_query.range")

theorem utcDay_eq_ok {millis : Nat} {day : Int} (found : utcDay millis = .ok day) :
    day = (millis / dayMillis : Nat) ∧ hasShardFileName day = true := by
  simp only [utcDay] at found
  split at found <;> cases found
  next named => exact ⟨rfl, named⟩

inductive DetailPageDirection where
  | older
  | newer
  deriving DecidableEq

inductive DetailQuerySort where
  | occurredAt
  | duration
  deriving DecidableEq

inductive DetailSortOrder where
  | asc
  | desc
  deriving DecidableEq

inductive DetailQueryTransport where
  | udp
  | tcp
  | doh
  deriving DecidableEq

inductive DetailQuerySource where
  | cache
  | hosts
  | rule
  | upstream
  | synthetic
  deriving DecidableEq

inductive DetailQueryOutcome where
  | answered
  | negative
  | timeout
  | rejected
  | failed
  deriving DecidableEq

inductive DetailQueryCacheOutcome where
  | hit
  | stale
  | expired
  | miss
  | bypass
  deriving DecidableEq

inductive DetailQueryRcode where
  | noError
  | formErr
  | servFail
  | nxDomain
  | notImp
  | refused
  | other
  deriving DecidableEq

inductive ClientMatchSource where
  | id
  | ip

/-- A row of `resolve_log`.  Integer columns are `i64`; a text column that may be `NULL` is an
option, and `executionJson` is `none` in shards that predate the column. -/
structure SqliteRow where
  id : Int
  eventTimeUtcMillis : Int
  durationMillis : Int
  dnsCoreDurationMicros : Option Int
  listenerId : Option String
  clientId : Option String
  clientIp : Option String
  clientMatchSource : Option String
  matchedClientId : Option String
  canonicalQname : Option String
  qtype : Int
  transport : Option String
  rcode : Int
  source : Option String
  failureClass : Option String
  cacheStatus : Option String
  strategyId : Option String
  upstreamId : Option String
  upstreamUsedId : Option String
  answerCount : Option Int
  answersTruncated : Option Int
  answerSummaryJson : Option String
  executionJson : Option (Option String)
  id_lt : id < i64Bound
  eventTime_lt : eventTimeUtcMillis < i64Bound
  duration_lt : durationMillis < i64Bound

/-- An answer of a request. -/
structure ResolveAnswer where
  name : String
  recordType : String
  data : String
  ttl : UInt32

/-- The stable identifier of a record. -/
structure DetailRecordId where
  text : String

/-- A record as a query returns it. -/
structure DetailQueryRecord (Trace : Type) where
  listenerId : Option String
  execution : Option Trace
  id : DetailRecordId
  occurredAtMillis : Nat
  durationMillis : Nat
  dnsCoreDurationMicros : Option Nat
  clientId : Option String
  clientIp : Option String
  clientMatchSource : Option ClientMatchSource
  matchedClientId : Option String
  qname : String
  qtype : Nat
  transport : DetailQueryTransport
  rcode : Nat
  source : DetailQuerySource
  outcome : DetailQueryOutcome
  cache : DetailQueryCacheOutcome
  strategyId : Option String
  upstreamTargetId : Option String
  upstreamUsedId : Option String
  answers : List ResolveAnswer
  answerCount : Nat
  answersTruncated : Bool

/-- The shard and the row of a record. -/
@[ext]
structure RecordLocation where
  dayUtc : Int
  rowId : Int

/-- A record and the row it was read from. -/
structure LocatedRecord (Trace : Type) where
  record : DetailQueryRecord Trace
  location : RecordLocation

/-- `LocatedRecord::primary`: the value of the sort key. -/
def LocatedRecord.primary {Trace : Type} (located : LocatedRecord Trace) : DetailQuerySort → Nat
  | .occurredAt => located.record.occurredAtMillis
  | .duration => located.record.durationMillis

def SqliteRow.primaryColumn (row : SqliteRow) : DetailQuerySort → Int
  | .occurredAt => row.eventTimeUtcMillis
  | .duration => row.durationMillis

/-- The conditions of a detail query; client names are already resolved to identifiers. -/
structure DetailQueryFilter where
  fromUtcMillis : Nat
  toUtcMillis : Nat
  clientId : Option String
  clientIp : Option String
  qname : Option String
  transport : Option DetailQueryTransport
  matchedClientId : Option String
  matchedClientIds : List String
  requireMatchedClientIds : Bool
  qtype : Option UInt16
  rcode : Option DetailQueryRcode
  source : Option DetailQuerySource
  outcome : Option DetailQueryOutcome
  cache : Option DetailQueryCacheOutcome
  deriving DecidableEq

def transportName : DetailQueryTransport → String
  | .udp => "udp"
  | .tcp => "tcp"
  | .doh => "doh"

def sourceName : DetailQuerySource → String
  | .cache => "cache"
  | .hosts => "hosts"
  | .rule => "rule_set"
  | .upstream => "upstream"
  | .synthetic => "synthetic"

/-- `instr(column, value) > 0`; a `NULL` column satisfies no condition. -/
def columnContains (column : Option String) (value : String) : Bool :=
  column.any fun text => decide (value.toList <:+: text.toList)

/-- The condition on the response code. -/
def rcodeCondition (rcode : Int) : DetailQueryRcode → Bool
  | .noError => rcode == 0
  | .formErr => rcode == 1
  | .servFail => rcode == 2
  | .nxDomain => rcode == 3
  | .notImp => rcode == 4
  | .refused => rcode == 5
  | .other => !([0, 1, 2, 3, 4, 5] : List Int).contains rcode

/-- `push_outcome_filter`. -/
def outcomeCondition (failureClass : Option String) (rcode : Int) : DetailQueryOutcome → Bool
  | .answered => failureClass.isNone && !([1, 2, 3, 4, 5] : List Int).contains rcode
  | .negative => failureClass.isNone && rcode == 3
  | .timeout => failureClass == some "timeout"
  | .rejected => failureClass.isNone && ([1, 4, 5] : List Int).contains rcode
  | .failed => (failureClass.isSome && failureClass != some "timeout") ||
      (failureClass.isNone && rcode == 2)

/-- `push_cache_filter`. -/
def cacheCondition (cacheStatus : Option String) : DetailQueryCacheOutcome → Bool
  | .hit => cacheStatus == some "fresh"
  | .stale => cacheStatus == some "stale"
  | .expired => cacheStatus == some "expired"
  | .miss => cacheStatus == some "miss"
  | .bypass => cacheStatus.any fun status =>
    ["disabled", "store_unavailable", "write_rejected"].contains status

variable (filter : DetailQueryFilter)

/-- The condition on the matched client: an unconditional requirement with no candidates is
`1 = 0`, and without a requirement an empty list is no condition. -/
def matchedClientCondition (matchedClientId : Option String) : Bool :=
  if filter.requireMatchedClientIds && filter.matchedClientIds.isEmpty then false
  else if !filter.matchedClientIds.isEmpty then
    matchedClientId.any fun value => decide (value ∈ filter.matchedClientIds)
  else true

/-- The conditions of the filter that `query_shard` pushes into the statement. -/
def DetailQueryFilter.selects (row : SqliteRow) : Bool :=
  decide ((filter.fromUtcMillis : Int) ≤ row.eventTimeUtcMillis) &&
  decide (row.eventTimeUtcMillis < (filter.toUtcMillis : Int)) &&
  filter.clientId.all (fun value => row.clientId == some value) &&
  filter.clientIp.all (columnContains row.clientIp) &&
  filter.qname.all (columnContains row.canonicalQname) &&
  filter.transport.all (fun value => row.transport == some (transportName value)) &&
  filter.matchedClientId.all (fun value => row.matchedClientId == some value) &&
  matchedClientCondition filter row.matchedClientId &&
  filter.qtype.all (fun value => row.qtype == value.toNat) &&
  filter.rcode.all (rcodeCondition row.rcode) &&
  filter.source.all (fun value => row.source == some (sourceName value)) &&
  filter.outcome.all (outcomeCondition row.failureClass row.rcode) &&
  filter.cache.all (cacheCondition row.cacheStatus)

open DetailQueryFilter

theorem DetailQueryFilter.time_of_selects {filter : DetailQueryFilter} {row : SqliteRow}
    (selected : filter.selects row = true) :
    (filter.fromUtcMillis : Int) ≤ row.eventTimeUtcMillis ∧
      row.eventTimeUtcMillis < filter.toUtcMillis := by
  simp only [selects, Bool.and_eq_true, decide_eq_true_eq] at selected
  exact ⟨selected.1.1.1.1.1.1.1.1.1.1.1.1, selected.1.1.1.1.1.1.1.1.1.1.1.2⟩

/-- The filter with its client list sorted and without repetitions, as it is fingerprinted. -/
def DetailQueryFilter.canonical : DetailQueryFilter :=
  { filter with
    matchedClientIds := (filter.matchedClientIds.insertionSort (· ≤ ·)).destutter (· ≠ ·) }

theorem mem_destutter_ne {α : Type*} [DecidableEq α] {items : List α} {item : α} :
    item ∈ items.destutter (· ≠ ·) ↔ item ∈ items := by
  have tail_kept : ∀ (items : List α) (head : α),
      item ∈ items.destutter' (· ≠ ·) head ↔ item = head ∨ item ∈ items := by
    intro items
    induction items with
    | nil => simp
    | cons next rest induction =>
      intro head
      rw [List.destutter'_cons]
      split
      · simp [induction]
      · next equal =>
        obtain rfl : head = next := not_not.mp equal
        simp [induction]
  cases items with
  | nil => simp
  | cons head tail => simp [List.destutter_cons', tail_kept]

/-- Listing the clients of a filter in another way does not change the rows it selects. -/
theorem DetailQueryFilter.selects_canonical (row : SqliteRow) :
    filter.canonical.selects row = filter.selects row := by
  have same_members : ∀ value, value ∈ filter.canonical.matchedClientIds ↔
      value ∈ filter.matchedClientIds := by
    simp [canonical, mem_destutter_ne]
  have same_empty : filter.canonical.matchedClientIds.isEmpty =
      filter.matchedClientIds.isEmpty := by
    rw [Bool.eq_iff_iff, List.isEmpty_iff, List.isEmpty_iff, List.eq_nil_iff_forall_not_mem,
      List.eq_nil_iff_forall_not_mem]
    simp only [same_members]
  have same_condition : matchedClientCondition filter.canonical row.matchedClientId =
      matchedClientCondition filter row.matchedClientId := by
    simp only [matchedClientCondition, same_empty, same_members]
    rfl
  simp only [selects, same_condition]
  rfl

/-- The functions of other crates that detail queries call. -/
structure Primitives (Trace : Type) where
  sha256 : List UInt8 → Vector UInt8 32
  base64Encode : List UInt8 → String
  base64Decode : String → Option (List UInt8)
  /-- Parse an address and print it in its normal form. -/
  normalizeIp : String → Option String
  parseTrace : String → Option Trace
  parseAnswers : String → Option (List ResolveAnswer)
  /-- The JSON text of a filter, its sort key and its order. -/
  filterJson : DetailQueryFilter → DetailQuerySort → DetailSortOrder → List UInt8
  base64_decode_encode : ∀ bytes, base64Decode (base64Encode bytes) = some bytes

variable {Trace : Type} (primitives : Primitives Trace)

def recordIdDigest (payload : List UInt8) : List UInt8 :=
  (primitives.sha256 ("fluxdns.detail.record.v1".toUTF8.toList ++ payload)).toList.take 12

def DetailRecordId.fromLocation (location : RecordLocation) : DetailRecordId :=
  let payload := 1 :: bigEndian 4 (unsigned 32 location.dayUtc) ++
    bigEndian 8 (unsigned 64 location.rowId)
  ⟨"qry1_" ++ primitives.base64Encode (payload ++ recordIdDigest primitives payload)⟩

/-- `optional_text`: empty texts and the two redaction marks are refused. -/
def optionalText (column : Option String) (operation : String) : Except PortError (Option String) :=
  if column.any fun value => value == "" || value == "<present>" || value == "<absent>" then
    .error (corrupt operation)
  else .ok column

def requiredText (column : Option String) (operation : String) : Except PortError String := do
  match ← optionalText column operation with
  | some value => .ok value
  | none => .error (corrupt operation)

def positiveI64 (column : Int) (operation : String) : Except PortError Int :=
  if 0 < column then .ok column else .error (corrupt operation)

def nonnegativeU64 (column : Int) (operation : String) : Except PortError Nat :=
  if 0 ≤ column then .ok column.toNat else .error (corrupt operation)

/-- Apply a partial conversion to a value that may be absent. -/
def convertOptional {α β : Type} (value : Option α) (convert : α → Option β)
    (failure : PortError) : Except PortError (Option β) :=
  match value with
  | none => .ok none
  | some value =>
    match convert value with
    | some converted => .ok (some converted)
    | none => .error failure

/-- A value that must be present. -/
def required {α : Type} (value : Option α) (failure : PortError) : Except PortError α :=
  match value with
  | some value => .ok value
  | none => .error failure

theorem positiveI64_eq_ok {column value : Int} {operation : String} :
    positiveI64 column operation = .ok value ↔ 0 < column ∧ column = value := by
  unfold positiveI64
  split <;> simp_all

theorem nonnegativeU64_eq_ok {column : Int} {value : Nat} {operation : String} :
    nonnegativeU64 column operation = .ok value ↔ (value : Int) = column := by
  unfold nonnegativeU64
  split
  · simp only [Except.ok.injEq]
    omega
  · simp only [reduceCtorEq, false_iff]
    omega

def transportOfName : String → Option DetailQueryTransport
  | "udp" => some .udp
  | "tcp" => some .tcp
  | "doh" => some .doh
  | _ => none

def sourceOfName : String → Option DetailQuerySource
  | "cache" => some .cache
  | "hosts" => some .hosts
  | "rule_set" => some .rule
  | "upstream" => some .upstream
  | "synthetic" => some .synthetic
  | _ => none

def cacheOutcomeOfName : String → Option DetailQueryCacheOutcome
  | "fresh" => some .hit
  | "stale" => some .stale
  | "expired" => some .expired
  | "miss" => some .miss
  | "disabled" | "store_unavailable" | "write_rejected" => some .bypass
  | _ => none

def clientMatchSourceOfName : String → Option ClientMatchSource
  | "id" => some .id
  | "ip" => some .ip
  | _ => none

def outcomeFromRow : Option String → Nat → DetailQueryOutcome
  | some "timeout", _ => .timeout
  | some _, _ => .failed
  | none, 2 => .failed
  | none, 3 => .negative
  | none, 1 | none, 4 | none, 5 => .rejected
  | none, _ => .answered

def reject (condition : Bool) (failure : PortError) : Except PortError Unit :=
  if condition then .error failure else .ok ()

theorem reject_eq_ok {condition : Bool} {failure : PortError} {result : Unit} :
    reject condition failure = .ok result ↔ condition = false := by
  cases condition <;> simp [reject]

/-- The execution trace of a row; shards that predate the column have none. -/
def executionOf : Option (Option String) → String → Except PortError (Option Trace)
  | some (some json), operation =>
    if json.utf8ByteSize ≤ 4096 then
      some <$> required (primitives.parseTrace json) (corrupt operation)
    else .error (corrupt operation)
  | some none, _ | none, _ => .ok none

/-- The answers stored for a row, their total count and whether some were left out. -/
def answersOf (row : SqliteRow)
    (operation : String) : Except PortError (List ResolveAnswer × Nat × Bool) := do
  let answerCount ← nonnegativeU64 (← required row.answerCount (corrupt operation)) operation
  reject (decide (2 ^ 32 ≤ answerCount)) (corrupt operation)
  let answersTruncated ← required
    (match row.answersTruncated with | some 0 => some false | some 1 => some true | _ => none)
    (corrupt operation)
  let answerJson ← requiredText row.answerSummaryJson operation
  reject (decide (4096 < answerJson.utf8ByteSize)) (corrupt operation)
  let answers ← required (primitives.parseAnswers answerJson) (corrupt operation)
  reject (decide (16 < answers.length) || decide (answerCount < answers.length) ||
    (!answersTruncated && decide (answerCount ≠ answers.length))) (corrupt operation)
  return (answers, answerCount, answersTruncated)

/-- `map_row`: the record of a row, or the reason why the row is not one of this day. -/
def mapRow (row : SqliteRow) (dayUtc : Int) : Except PortError (LocatedRecord Trace) := do
  let operation := "detail_query.row"
  let execution ← executionOf primitives row.executionJson operation
  let listenerId ← optionalText row.listenerId operation
  let rowId ← positiveI64 row.id operation
  let occurredAtMillis ← nonnegativeU64 row.eventTimeUtcMillis operation
  let occurredDay ← utcDay occurredAtMillis
  reject (decide (occurredDay ≠ dayUtc)) (corrupt operation)
  let durationMillis ← nonnegativeU64 row.durationMillis operation
  let dnsCoreDurationMicros ← convertOptional row.dnsCoreDurationMicros
    (fun value => if 0 ≤ value then some value.toNat else none) (corrupt operation)
  let clientId ← optionalText row.clientId operation
  let clientIp ← convertOptional (← optionalText row.clientIp operation)
    primitives.normalizeIp (corrupt operation)
  let clientMatchSource ← convertOptional (← optionalText row.clientMatchSource operation)
    clientMatchSourceOfName (corrupt operation)
  let matchedClientId ← optionalText row.matchedClientId operation
  reject (clientMatchSource.isSome != matchedClientId.isSome) (corrupt operation)
  let qname ← requiredText row.canonicalQname operation
  let qtype ← nonnegativeU64 row.qtype operation
  reject (decide (65535 < qtype)) (corrupt operation)
  let transport ← required (transportOfName (← requiredText row.transport operation))
    (corrupt operation)
  let rcode ← nonnegativeU64 row.rcode operation
  reject (decide (15 < rcode)) (corrupt operation)
  let source ← required (sourceOfName (← requiredText row.source operation)) (corrupt operation)
  let failure ← optionalText row.failureClass operation
  let cache ← required (cacheOutcomeOfName (← requiredText row.cacheStatus operation))
    (corrupt operation)
  let strategyId ← optionalText row.strategyId operation
  let upstreamTargetId ← optionalText row.upstreamId operation
  let upstreamUsedId ← optionalText row.upstreamUsedId operation
  let (answers, answerCount, answersTruncated) ← answersOf primitives row operation
  let location := ⟨dayUtc, rowId⟩
  return {
    record := {
      listenerId, execution, id := .fromLocation primitives location, occurredAtMillis,
      durationMillis, dnsCoreDurationMicros, clientId, clientIp, clientMatchSource,
      matchedClientId, qname, qtype, transport, rcode, source,
      outcome := outcomeFromRow failure rcode, cache, strategyId, upstreamTargetId,
      upstreamUsedId, answers, answerCount, answersTruncated }
    location }

section MappedRows

variable {Trace : Type} {primitives : Primitives Trace} {row : SqliteRow} {dayUtc : Int}
  {located : LocatedRecord Trace}

/-- What a mapped record keeps of its row: the location and the columns it is sorted by. -/
structure Mapped (row : SqliteRow) (dayUtc : Int) (located : LocatedRecord Trace) : Prop where
  location_eq : located.location = ⟨dayUtc, row.id⟩
  rowId_pos : 0 < row.id
  occurredAt_eq : (located.record.occurredAtMillis : Int) = row.eventTimeUtcMillis
  duration_eq : (located.record.durationMillis : Int) = row.durationMillis
  day_eq : utcDay located.record.occurredAtMillis = .ok dayUtc

theorem mapRow_spec (mapped : mapRow primitives row dayUtc = .ok located) :
    Mapped row dayUtc located ∧ located.record.id = .fromLocation primitives located.location ∧
      requiredText row.canonicalQname "detail_query.row" = .ok located.record.qname := by
  simp only [mapRow, bind_eq_ok] at mapped
  obtain ⟨_, -, _, -, rowId, positive, occurred, occurred_eq, day, day_eq, _, same_day, duration,
    duration_eq, mapped⟩ := mapped
  obtain ⟨_, -, _, -, _, -, _, -, _, -, _, -, _, -, _, -, qname, qname_eq, mapped⟩ := mapped
  obtain ⟨_, -, _, -, _, -, _, -, _, -, _, -, _, -, _, -, _, -, _, -, _, -, _, -, _, -, _, -, _, -,
    mapped⟩ := mapped
  cases mapped
  obtain ⟨rowId_pos, rfl⟩ := positiveI64_eq_ok.mp positive
  obtain rfl : day = dayUtc := by simpa using reject_eq_ok.mp same_day
  exact ⟨⟨rfl, rowId_pos, nonnegativeU64_eq_ok.mp occurred_eq,
    nonnegativeU64_eq_ok.mp duration_eq, day_eq⟩, rfl, qname_eq⟩

theorem mapped_of_mapRow (mapped : mapRow primitives row dayUtc = .ok located) :
    Mapped row dayUtc located :=
  (mapRow_spec mapped).1

end MappedRows

end FluxDns.Storage
