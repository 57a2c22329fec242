import FluxDns.Storage.DetailPagination
import FluxDns.Storage.ResolveLog

/-!
# Agreement of the live and the stored read model

A record that was accepted for the log is read back from its row by `mapRow`.  The row differs from
the live projection in the printed client address and in durations beyond the range of a column.
-/

namespace FluxDns.Storage

open ByteReader DetailCommittedRecord ResolveDetailRecord DetailQueryFilter List

variable {Trace : Type} {value : String} {record : ResolveDetailRecord Trace}
  {filter : DetailQueryFilter} {texts : Texts Trace}

/-- A text that `optional_text` refuses. -/
def isMark (value : String) : Bool := value == "" || value == "<present>" || value == "<absent>"

theorem optionalText_of_unmarked (column : Option String) (unmarked : column.any isMark = false)
    (operation : String) : optionalText column operation = .ok column := by
  have condition : (column.any fun value =>
      value == "" || value == "<present>" || value == "<absent>") = false := unmarked
  simp [optionalText, condition]

theorem optionalText_of_mark (marked : isMark value = true) (operation : String) :
    optionalText (some value) operation = .error (corrupt operation) := by
  have condition : ((some value).any fun value =>
      value == "" || value == "<present>" || value == "<absent>") = true := marked
  simp only [optionalText, condition, if_true]

theorem requiredText_of_unmarked (unmarked : isMark value = false) (operation : String) :
    requiredText (some value) operation = .ok value := by
  unfold requiredText
  rw [optionalText_of_unmarked (some value) unmarked, ok_bind]

theorem requiredText_of_mark (marked : isMark value = true) (operation : String) :
    requiredText (some value) operation = .error (corrupt operation) := by
  unfold requiredText
  rw [optionalText_of_mark marked, error_bind]

/-- An identifier is no mark, because marks are empty or begin with a bracket. -/
theorem isMark_of_isBoundedId {allowed : Char → Bool} (bracket : allowed '<' = false)
    (valid : isBoundedId allowed value = true) : isMark value = false := by
  simp only [isBoundedId, Bool.and_eq_true, bne_iff_ne, ne_eq, all_eq_true] at valid
  obtain ⟨⟨nonempty, -⟩, allowed_all⟩ := valid
  have unbracketed : '<' ∉ value.toList := by
    intro mem
    rw [allowed_all '<' mem] at bracket
    cases bracket
  rw [isMark, Bool.or_eq_false_iff, Bool.or_eq_false_iff, beq_eq_false_iff_ne,
    beq_eq_false_iff_ne, beq_eq_false_iff_ne]
  refine ⟨⟨nonempty, ?_⟩, ?_⟩
  · rintro rfl
    exact unbracketed (by decide)
  · rintro rfl
    exact unbracketed (by decide)

theorem any_isMark_of_isBoundedId {allowed : Char → Bool} (bracket : allowed '<' = false)
    {value : Option String}
    (checked : (value.any fun value => !isBoundedId allowed value) = false) :
    value.any isMark = false := by
  cases value with
  | none => rfl
  | some value =>
    simp only [Option.any_some, Bool.not_eq_false'] at checked
    exact isMark_of_isBoundedId bracket checked

variable (texts)

/-- The outcome of collecting answers: bounded in number and size, and complete unless marked. -/
structure Collected (available : Nat) (marked : Bool) (result : List ResolveAnswer × Bool) :
    Prop where
  length_le : result.1.length ≤ available
  size_le : (texts.answersJson result.1).utf8ByteSize ≤ 4096
  complete : result.2 = false → marked = false ∧ result.1.length = available

theorem collected_collectAnswers (source answers : List ResolveAnswer) (truncated : Bool)
    (fits : (texts.answersJson answers).utf8ByteSize ≤ 4096) :
    Collected texts (answers.length + source.length) truncated
      (collectAnswers texts source answers truncated) := by
  induction source generalizing answers truncated with
  | nil => exact ⟨le_rfl, fits, fun unmarked => ⟨unmarked, rfl⟩⟩
  | cons answer source induction =>
    simp only [collectAnswers]
    split
    · exact ⟨Nat.le_add_right _ _, fits, nofun⟩
    · next small =>
      have rest := induction (answers ++ [(truncateAnswer answer).1])
        (truncated || (truncateAnswer answer).2) (Nat.le_of_not_lt small)
      rw [length_append, length_singleton, Nat.add_assoc, Nat.add_comm 1] at rest
      refine ⟨rest.length_le, rest.size_le, fun unmarked => ?_⟩
      obtain ⟨clean, length_eq⟩ := rest.complete unmarked
      exact ⟨(Bool.or_eq_false_iff.mp clean).1, length_eq⟩

/-- The facts about an accepted record on which its row relies. -/
structure Accepted (record : ResolveDetailRecord Trace) : Prop where
  execution : record.execution = none
  listenerId : isMark record.listenerId = false
  clientId : record.clientId.any isMark = false
  matchedClientId : record.matchedClientId.any isMark = false
  match_complete : (record.clientMatchSource.isSome != record.matchedClientId.isSome) = false
  strategyId : record.strategyId.any isMark = false
  upstreamId : record.upstreamId.any isMark = false
  upstreamUsedId : record.upstreamUsedId.any isMark = false
  rcode_le : record.rcode.toNat ≤ 15
  answers_length : record.answers.length ≤ 16
  answers_size : (texts.answersJson record.answers).utf8ByteSize ≤ 4096
  count_lt : record.answerCount < 2 ^ 32
  length_le_count : record.answers.length ≤ record.answerCount
  count_eq : record.answersTruncated = false → record.answerCount = record.answers.length

variable {texts}

theorem accepted_of_fromEvent {event : ResolveEvent} (empty_list : texts.answersJson [] = "[]")
    (built : fromEvent texts event = .ok record) : Accepted texts record := by
  unfold fromEvent at built
  simp only [bind_eq_ok, validateListenerId, validateOptionalClientId,
    validateOptionalConfiguredId, reject_eq_ok] at built
  obtain ⟨_, listener, _, client, _, matched, _, complete, _, -, _, strategy, _, upstream, _, -, _,
    used, _, -, _, rcode, built⟩ := built
  cases built
  have empty_fits : (texts.answersJson []).utf8ByteSize ≤ 4096 := by
    rw [empty_list]
    decide
  have collected := collected_collectAnswers texts (event.answers.take 16) []
    (decide (16 < event.answers.length)) empty_fits
  have taken : ([] : List ResolveAnswer).length + (event.answers.take 16).length =
      min 16 event.answers.length := by
    rw [length_nil, Nat.zero_add, length_take]
  rw [taken] at collected
  have listener_valid : isBoundedId isListenerIdChar event.listenerId = true := by
    simpa using listener
  have large : 16 < u32Size := by decide
  have length_le := collected.length_le
  exact {
    execution := rfl
    listenerId := isMark_of_isBoundedId (by decide) listener_valid
    clientId := any_isMark_of_isBoundedId (by decide) client
    matchedClientId := any_isMark_of_isBoundedId (by decide) matched
    match_complete := complete
    strategyId := any_isMark_of_isBoundedId (by decide) strategy
    upstreamId := any_isMark_of_isBoundedId (by decide) upstream
    upstreamUsedId := any_isMark_of_isBoundedId (by decide) used
    rcode_le := by
      have bounded : event.rcode ≤ 0x0f := by simpa using rcode
      exact UInt8.le_iff_toNat_le.mp bounded
    answers_length := length_le.trans (Nat.min_le_left _ _)
    answers_size := collected.size_le
    count_lt := by
      show min event.answers.length (u32Size - 1) < u32Size
      omega
    length_le_count := by
      show (boundedAnswers texts event.answers).1.length ≤ min event.answers.length (u32Size - 1)
      unfold boundedAnswers
      omega
    count_eq := fun unmarked => by
      obtain ⟨few, length_eq⟩ := collected.complete unmarked
      rw [decide_eq_false_iff_not] at few
      show min event.answers.length (u32Size - 1) = (boundedAnswers texts event.answers).1.length
      unfold boundedAnswers
      omega }

/-- What the functions of other crates satisfy for a record: texts that were printed can be parsed,
and a mark is neither an address nor JSON. -/
structure Texts.Lawful (texts : Texts Trace) (primitives : Primitives Trace)
    (record : ResolveDetailRecord Trace) : Prop where
  normalizeIp_eq : ∀ text, primitives.normalizeIp text = (texts.parseIp text).map texts.ipText
  parse_ip : ∀ address ∈ record.clientIp, texts.parseIp (texts.ipText address) = some address
  parse_normalIp : ∀ address ∈ record.clientIp,
    texts.parseIp (texts.ipText (normalizeIp address)) = some (normalizeIp address)
  parse_mark : ∀ value, isMark value = true → texts.parseIp value = none
  parse_answers : primitives.parseAnswers (texts.answersJson record.answers) = some record.answers
  answers_mark : ∀ value, isMark value = true → primitives.parseAnswers value = none
  empty_list : texts.answersJson [] = "[]"

/-- The record that is read back from the row: the live record with the printed address as it is
and the durations cut to the range of their columns. -/
def storedRecord (texts : Texts Trace) (record : ResolveDetailRecord Trace)
    (live : DetailQueryRecord Trace) : DetailQueryRecord Trace :=
  { live with
    durationMillis := min record.durationMillis.toNat (i64Bound - 1)
    dnsCoreDurationMicros := some (min record.dnsCoreDurationMicros.toNat (i64Bound - 1))
    clientIp := record.clientIp.map texts.ipText }

section Rows

variable {texts : Texts Trace} {primitives : Primitives Trace} {record : ResolveDetailRecord Trace}
  {row : ResolveLogRow} {id : Nat} {live : DetailQueryRecord Trace}

/-- The row is that of the record. -/
def Columns (texts : Texts Trace) (record : ResolveDetailRecord Trace) (id : Nat)
    (row : SqliteRow) : Prop :=
  ∃ (id_lt : (id : Int) < i64Bound)
    (time_lt : ((record.occurredAt.toNat / 1000000 : Nat) : Int) < i64Bound),
    row = (resolveLogColumns texts record id _ id_lt time_lt).toSqliteRow

/-- The columns that the two read models compare. -/
theorem Columns.read {row : SqliteRow} (columns : Columns texts record id row) :
    row.id = id ∧ row.eventTimeUtcMillis = (record.occurredAt.toNat / 1000000 : Nat) ∧
      row.canonicalQname = some record.qname ∧
      row.clientIp = record.clientIp.map texts.ipText ∧
      record.occurredAt.toNat / 1000000 < i64Bound := by
  obtain ⟨_, time_lt, rfl⟩ := columns
  exact ⟨rfl, rfl, rfl, rfl, Int.ofNat_lt.mp time_lt⟩

theorem columns_of_resolveLogRow (written : resolveLogRow texts record id = .ok row) :
    Columns texts record id row.toSqliteRow := by
  unfold resolveLogRow at written
  split at written
  · cases written
  · next millis event_time =>
    split at written <;> cases written
    obtain ⟨rfl, time_lt⟩ := systemTimeUtcMillis_eq_ok.mp event_time
    exact ⟨_, _, rfl⟩

/-- The two checks of the answer columns pass for the answers that were collected. -/
theorem answersOf_columns (lawful : texts.Lawful primitives record)
    (accepted : Accepted texts record) {row : SqliteRow} (columns : Columns texts record id row)
    (operation : String) :
    answersOf primitives row operation =
      .ok (record.answers, record.answerCount, record.answersTruncated) := by
  have count_nonneg : nonnegativeU64 record.answerCount operation = .ok record.answerCount :=
    nonnegativeU64_eq_ok.mpr rfl
  have count_small : reject (decide (2 ^ 32 ≤ record.answerCount)) (corrupt operation) = .ok () :=
    reject_eq_ok.mpr (decide_eq_false (Nat.not_le.mpr accepted.count_lt))
  have unmarked : isMark (texts.answersJson record.answers) = false := by
    cases marked : isMark (texts.answersJson record.answers) with
    | false => rfl
    | true => simpa [lawful.answers_mark _ marked] using lawful.parse_answers
  have size_small : reject (decide (4096 < (texts.answersJson record.answers).utf8ByteSize))
      (corrupt operation) = .ok () :=
    reject_eq_ok.mpr (decide_eq_false (Nat.not_lt.mpr accepted.answers_size))
  have consistent : reject (decide (16 < record.answers.length) ||
      decide (record.answerCount < record.answers.length) ||
      (!record.answersTruncated && decide (record.answerCount ≠ record.answers.length)))
      (corrupt operation) = .ok () := by
    rw [reject_eq_ok, Bool.or_eq_false_iff, Bool.or_eq_false_iff, decide_eq_false_iff_not,
      decide_eq_false_iff_not]
    refine ⟨⟨Nat.not_lt.mpr accepted.answers_length, Nat.not_lt.mpr accepted.length_le_count⟩, ?_⟩
    cases truncated : record.answersTruncated with
    | true => rfl
    | false => simpa using accepted.count_eq truncated
  obtain ⟨_, _, rfl⟩ := columns
  unfold answersOf
  simp only [resolveLogColumns, required, ok_bind, count_nonneg, count_small,
    requiredText_of_unmarked unmarked, size_small, lawful.parse_answers]
  cases truncated : record.answersTruncated with
  | false =>
    rw [truncated] at consistent
    simp only [Bool.false_eq_true, if_false, ok_bind, consistent]
    rfl
  | true =>
    rw [truncated] at consistent
    simp only [if_true, ok_bind, consistent]
    rfl

theorem nonnegativeU64_saturatingI64 (value : UInt64) (operation : String) :
    nonnegativeU64 (saturatingI64 value) operation = .ok (min value.toNat (i64Bound - 1)) :=
  nonnegativeU64_eq_ok.mpr rfl

theorem convert_saturatingI64 (value : UInt64) (failure : PortError) :
    convertOptional (some (saturatingI64 value))
        (fun value => if 0 ≤ value then some value.toNat else none) failure =
      .ok (some (min value.toNat (i64Bound - 1))) := by
  rfl

theorem clientIp_columns (lawful : texts.Lawful primitives record) (operation : String) :
    optionalText (record.clientIp.map texts.ipText) operation =
      .ok (record.clientIp.map texts.ipText) ∧
    convertOptional (record.clientIp.map texts.ipText) primitives.normalizeIp (corrupt operation) =
      .ok (record.clientIp.map texts.ipText) := by
  cases found : record.clientIp with
  | none => exact ⟨rfl, rfl⟩
  | some address =>
    have parsed := lawful.parse_ip address (by simp [found])
    constructor
    · apply optionalText_of_unmarked
      cases marked : isMark (texts.ipText address) with
      | false => exact marked
      | true => simp [lawful.parse_mark _ marked] at parsed
    · simp [convertOptional, lawful.normalizeIp_eq, parsed]

/-! The names of the enumerations are no marks, and are read back as what the live stream shows. -/

theorem read_clientMatchSourceName (source : Option ClientMatchSource) :
    (source.map clientMatchSourceName).any isMark = false ∧ ∀ failure : PortError,
      convertOptional (source.map clientMatchSourceName) clientMatchSourceOfName failure =
        .ok source := by
  rcases source with _ | _ | _ <;> exact ⟨by decide, fun _ => rfl⟩

theorem read_transportClassName (transport : TransportClass) :
    isMark (transportClassName transport) = false ∧
      transportOfName (transportClassName transport) = some (queryTransport transport) := by
  cases transport <;> decide

theorem read_statsSourceName (source : StatsSource) : isMark (statsSourceName source) = false ∧
    sourceOfName (statsSourceName source) = some (querySource source) := by
  cases source <;> decide

theorem read_cacheStatusName (status : CacheStatus) : isMark (cacheStatusName status) = false ∧
    cacheOutcomeOfName (cacheStatusName status) = some (queryCache status) := by
  cases status <;> decide

theorem read_failureClassName (outcome : OutcomeClass) :
    (failureClassName outcome).any isMark = false ∧ ∀ rcode : Nat,
      outcomeFromRow (failureClassName outcome) rcode = queryOutcome outcome rcode := by
  cases outcome <;> exact ⟨by decide, fun _ => rfl⟩

/-- The values that a row represents exactly and that may be shown. -/
structure Representable (record : ResolveDetailRecord Trace) : Prop where
  address_normal : ∀ address ∈ record.clientIp, normalizeIp address = address
  duration_lt : record.durationMillis.toNat < i64Bound
  dnsCoreDuration_lt : record.dnsCoreDurationMicros.toNat < i64Bound
  qname_shown : isMark record.qname = false

variable (lawful : texts.Lawful primitives record)

include lawful

/-- The row of a record is read back, unless its name is a mark. -/
theorem mapRow_columns (accepted : Accepted texts record) {row : SqliteRow}
    (columns : Columns texts record id row) (id_pos : 0 < id) {day : Int}
    (projected : toQueryRecord texts ⟨.fromLocation primitives ⟨day, id⟩, record⟩ = .ok live)
    (own_day : utcDay live.occurredAtMillis = .ok day) (shown : isMark record.qname = false) :
    mapRow primitives row day = .ok ⟨storedRecord texts record live, ⟨day, id⟩⟩ := by
  simp only [toQueryRecord, bind_eq_ok, reject_eq_ok] at projected
  obtain ⟨_, -, projected⟩ := projected
  cases projected
  have row_id : positiveI64 (id : Int) "detail_query.row" = .ok id :=
    positiveI64_eq_ok.mpr ⟨Int.natCast_pos.mpr id_pos, rfl⟩
  have number (value : Nat) : nonnegativeU64 value "detail_query.row" = .ok value :=
    nonnegativeU64_eq_ok.mpr rfl
  have qtype_le : ¬ 65535 < record.qtype.toNat := by
    have := record.qtype.toNat_lt
    omega
  have rcode_le : ¬ 15 < record.rcode.toNat := Nat.not_lt.mpr accepted.rcode_le
  have answers := answersOf_columns lawful accepted columns
  obtain ⟨_, _, rfl⟩ := columns
  unfold mapRow
  simp only [answers]
  simp only [resolveLogColumns, accepted.execution, Option.map_none, executionOf, ok_bind, row_id]
  simp only [number, own_day, optionalText_of_unmarked, Option.any_some, accepted.listenerId,
    accepted.clientId, clientIp_columns lawful, read_clientMatchSourceName,
    accepted.matchedClientId, accepted.match_complete, ok_bind, reject, ne_eq, not_true_eq_false,
    decide_false, Bool.false_eq_true, if_false, qtype_le, rcode_le, requiredText_of_unmarked, shown,
    required, read_transportClassName, read_statsSourceName, read_failureClassName,
    read_cacheStatusName, accepted.strategyId, accepted.upstreamId, accepted.upstreamUsedId,
    nonnegativeU64_saturatingI64, convert_saturatingI64]
  rfl

theorem ipText_normalizeIp_eq_iff :
    record.clientIp.map (fun address => texts.ipText (normalizeIp address)) =
        record.clientIp.map texts.ipText ↔
      ∀ address ∈ record.clientIp, normalizeIp address = address := by
  cases found : record.clientIp with
  | none => simp
  | some address =>
    have mem : address ∈ record.clientIp := by simp [found]
    have printed := lawful.parse_ip address mem
    have printed_normal := lawful.parse_normalIp address mem
    simp only [Option.map_some, Option.some.injEq, Option.mem_def, forall_eq']
    constructor
    · intro same_text
      rw [same_text, printed, Option.some.injEq] at printed_normal
      exact printed_normal.symm
    · intro normal
      rw [normal]

theorem storedRecord_eq_iff (shown : isMark record.qname = false) {recordId : DetailRecordId}
    (projected : toQueryRecord texts ⟨recordId, record⟩ = .ok live) :
    storedRecord texts record live = live ↔ Representable record := by
  simp only [toQueryRecord, bind_eq_ok, reject_eq_ok] at projected
  obtain ⟨_, -, projected⟩ := projected
  cases projected
  have bound_pos : 0 < i64Bound := by decide
  have address := ipText_normalizeIp_eq_iff lawful
  constructor
  · intro equal
    have durations := congrArg DetailQueryRecord.durationMillis equal
    have cores := congrArg DetailQueryRecord.dnsCoreDurationMicros equal
    have addresses := congrArg DetailQueryRecord.clientIp equal
    simp only [storedRecord, Option.some.injEq] at durations cores addresses
    exact ⟨address.mp addresses.symm, by omega, by omega, shown⟩
  · intro representable
    have duration_lt := representable.duration_lt
    have core_lt := representable.dnsCoreDuration_lt
    simp only [storedRecord, ← address.mpr representable.address_normal]
    congr
    · omega
    · omega

end Rows

/-- A filter for which the statement is generated and whose client identifiers are used only
together with the requirement. -/
structure DetailQueryFilter.Regular (filter : DetailQueryFilter) : Prop where
  from_lt : filter.fromUtcMillis < i64Bound
  to_lt : filter.toUtcMillis < i64Bound
  ids_required : filter.requireMatchedClientIds = true ∨ filter.matchedClientIds = []

theorem rcodeMatches_eq_rcodeCondition (expected : DetailQueryRcode) (rcode : Nat) :
    rcodeMatches expected rcode = rcodeCondition rcode expected := by
  cases expected <;> simp [rcodeMatches, rcodeCondition] <;> grind

theorem outcome_eq_outcomeCondition (outcome : OutcomeClass) (rcode : Nat)
    (expected : DetailQueryOutcome) :
    (queryOutcome outcome rcode == expected) =
      outcomeCondition (failureClassName outcome) rcode expected := by
  match rcode with
  | 0 | 1 | 2 | 3 | 4 | 5 => cases outcome <;> cases expected <;> rfl
  | more + 6 =>
    have answered : queryOutcome outcome (more + 6) = queryOutcome outcome 0 := by
      cases outcome <;> rfl
    have large : (6 : Int) ≤ (more + 6 : Nat) := by omega
    generalize ((more + 6 : Nat) : Int) = code at large
    have two : (code == 2) = false := beq_eq_false_iff_ne.mpr (by omega)
    have three : (code == 3) = false := beq_eq_false_iff_ne.mpr (by omega)
    have failing : ([1, 2, 3, 4, 5] : List Int).contains code = false := by
      simp only [contains_eq_mem, decide_eq_false_iff_not, mem_cons, not_mem_nil,
        or_false]
      omega
    have rejecting : ([1, 4, 5] : List Int).contains code = false := by
      simp only [contains_eq_mem, decide_eq_false_iff_not, mem_cons, not_mem_nil,
        or_false]
      omega
    cases outcome <;> cases expected <;>
      simp only [outcomeCondition, two, three, failing, rejecting] <;> rfl

theorem cache_eq_cacheCondition (status : CacheStatus) (expected : DetailQueryCacheOutcome) :
    (queryCache status == expected) = cacheCondition (some (cacheStatusName status)) expected := by
  cases status <;> cases expected <;> rfl

theorem source_eq_name (source : StatsSource) (expected : DetailQuerySource) :
    (querySource source == expected) =
      (some (statsSourceName source) == some (sourceName expected)) := by
  cases source <;> cases expected <;> rfl

theorem transport_eq_name (transport : TransportClass) (expected : DetailQueryTransport) :
    (queryTransport transport == expected) =
      (some (transportClassName transport) == some (transportName expected)) := by
  cases transport <;> cases expected <;> rfl

theorem matchedClientCondition_of_required
    (ids_required : filter.requireMatchedClientIds = true ∨ filter.matchedClientIds = [])
    (matchedClientId : Option String) :
    matchedClientCondition filter matchedClientId =
      (!filter.requireMatchedClientIds ||
        filter.matchedClientIds.any fun value => matchedClientId == some value) := by
  have listed : (matchedClientId.any fun value => decide (value ∈ filter.matchedClientIds)) =
      filter.matchedClientIds.any fun value => matchedClientId == some value := by
    cases matchedClientId with
    | none => simp
    | some found => simp [any_beq]
  cases ids_required with
  | inl required =>
    rw [matchedClientCondition, required, listed]
    cases filter.matchedClientIds <;> rfl
  | inr unused =>
    rw [matchedClientCondition, unused]
    cases filter.requireMatchedClientIds <;> rfl

section Filters

variable {texts : Texts Trace} {record : ResolveDetailRecord Trace} {id : Nat} {row : SqliteRow}
  {recordId : DetailRecordId} {live : DetailQueryRecord Trace}

/-- The two predicates differ at most in the address that they search. -/
theorem matchesRecord_eq_selects_of_address (columns : Columns texts record id row)
    (projected : toQueryRecord texts ⟨recordId, record⟩ = .ok live) (regular : filter.Regular)
    (address : live.clientIp = row.clientIp) : filter.matchesRecord live = filter.selects row := by
  have same_matched := matchedClientCondition_of_required regular.ids_required
    record.matchedClientId
  simp only [toQueryRecord, bind_eq_ok, reject_eq_ok] at projected
  obtain ⟨_, -, projected⟩ := projected
  cases projected
  have qtype_eq (value : UInt16) :
      ((record.qtype.toNat : Int) == value.toNat) = (record.qtype.toNat == value.toNat) := by
    simp
  obtain ⟨_, _, rfl⟩ := columns
  simp only [resolveLogColumns] at address
  simp only [matchesRecord, selects, resolveLogColumns, ← address, same_matched, Int.ofNat_le,
    Int.ofNat_lt, transport_eq_name, source_eq_name, outcome_eq_outcomeCondition,
    cache_eq_cacheCondition, rcodeMatches_eq_rcodeCondition, qtype_eq]
  rfl

def addressFilter (millis : Nat) (text : String) : DetailQueryFilter :=
  ⟨millis, millis + 1, none, some text, none, none, none, [], false, none, none, none, none, none⟩

theorem matchesRecord_addressFilter (record : DetailQueryRecord Trace) (text : String) :
    (addressFilter record.occurredAtMillis text).matchesRecord record =
      columnContains record.clientIp text := by
  simp [matchesRecord, addressFilter, columnContains]

theorem selects_addressFilter {millis : Nat} (time : row.eventTimeUtcMillis = millis)
    (text : String) :
    (addressFilter millis text).selects row = columnContains row.clientIp text := by
  simp [selects, addressFilter, matchedClientCondition, time]

theorem eq_of_columnContains_eq {left right : Option String} (present : left.isSome = right.isSome)
    (same : ∀ text, columnContains left text = columnContains right text) : left = right := by
  cases left with
  | none =>
    cases right with
    | none => rfl
    | some text => cases present
  | some left =>
    cases right with
    | none => cases present
    | some right =>
      have left_contained : left.toList <:+: right.toList := by
        simpa [columnContains] using (same left).symm
      have right_contained : right.toList <:+: left.toList := by
        simpa [columnContains] using same right
      have lists : left.toList = right.toList := infix_antisymm left_contained right_contained
      rw [String.toList_inj.mp lists]

end Filters

theorem exists_resolveLogRow_of_mem_zip {lastId : Nat} {records : List (ResolveDetailRecord Trace)}
    {rows : List ResolveLogRow} (written : applyResolveRecords texts lastId records = .ok rows)
    {row : ResolveLogRow} (stored : (record, row) ∈ records.zip rows) :
    ∃ id, 0 < id ∧ resolveLogRow texts record id = .ok row := by
  induction records generalizing lastId rows with
  | nil => simp at stored
  | cons first records induction =>
    simp only [applyResolveRecords, bind_eq_ok] at written
    obtain ⟨first_row, first_written, rest, rest_written, returned⟩ := written
    cases returned
    rw [zip_cons_cons, mem_cons] at stored
    rcases stored with same | later
    · cases same
      exact ⟨lastId + 1, Nat.succ_pos _, first_written⟩
    · exact induction rest_written later

theorem exists_toQueryRecord (texts : Texts Trace) (since_epoch : 0 ≤ record.occurredAt)
    (time_lt : record.occurredAt.toNat / 1000000 < i64Bound) (recordId : DetailRecordId) :
    ∃ live, toQueryRecord texts ⟨recordId, record⟩ = .ok live ∧
      live.occurredAtMillis = record.occurredAt.toNat / 1000000 ∧
      live.clientIp = record.clientIp.map fun address => texts.ipText (normalizeIp address) := by
  have in_range : reject (decide (record.occurredAt < 0) ||
      decide (u64Size ≤ record.occurredAt.toNat / 1000000))
      (corrupt "detail_query.committed_record") = .ok () := by
    have bound_le : i64Bound ≤ u64Size := by decide
    rw [reject_eq_ok, Bool.or_eq_false_iff, decide_eq_false_iff_not, decide_eq_false_iff_not]
    omega
  unfold toQueryRecord
  simp only [in_range, ok_bind]
  exact ⟨_, rfl, rfl, rfl⟩

theorem lt_i64Bound_of_utcDay {millis : Nat} {day : Int} (found : utcDay millis = .ok day) :
    millis + 1 < i64Bound := by
  obtain ⟨rfl, named⟩ := utcDay_eq_ok found
  rw [hasShardFileName, Bool.and_eq_true, decide_eq_true_iff, decide_eq_true_iff] at named
  unfold dayMillis at named
  unfold i64Bound
  omega

/-- The row of an accepted record is read back as its live projection exactly when the record is
representable, and searching agrees exactly when its address is not an IPv4 address mapped to
IPv6. -/
theorem read_models_agree_iff {texts : Texts Trace} {primitives : Primitives Trace}
    {event : ResolveEvent} {record : ResolveDetailRecord Trace}
    {records : List (ResolveDetailRecord Trace)} {rows : List ResolveLogRow} {lastId : Nat}
    {row : ResolveLogRow} {day : Int} (lawful : texts.Lawful primitives record)
    (built : fromEvent texts event = .ok record) (since_epoch : 0 ≤ record.occurredAt)
    (written : applyResolveRecords texts lastId records = .ok rows)
    (stored : (record, row) ∈ records.zip rows)
    (own_day : utcDay (record.occurredAt.toNat / 1000000) = .ok day) :
    ∃ live, toQueryRecord texts
        ⟨.fromLocation primitives ⟨day, row.id⟩, record⟩ = .ok live ∧
      (mapRow primitives row.toSqliteRow day = .ok ⟨live, ⟨day, row.id⟩⟩ ↔
        Representable record) ∧
      ((∀ filter : DetailQueryFilter, filter.Regular →
          filter.matchesRecord live = filter.selects row.toSqliteRow) ↔
        ∀ address ∈ record.clientIp, normalizeIp address = address) := by
  have accepted := accepted_of_fromEvent lawful.empty_list built
  obtain ⟨id, id_pos, row_written⟩ := exists_resolveLogRow_of_mem_zip written stored
  have columns := columns_of_resolveLogRow row_written
  obtain ⟨id_eq, event_time, qname, client_ip, time_lt⟩ := columns.read
  obtain ⟨live, projected, time, address⟩ := exists_toQueryRecord texts since_epoch time_lt
    (.fromLocation primitives ⟨day, row.id⟩)
  rw [id_eq] at projected ⊢
  refine ⟨live, projected, ⟨fun mapped => ?_, fun representable => ?_⟩, ⟨fun agree => ?_, ?_⟩⟩
  · have shown : isMark record.qname = false := by
      have read := (mapRow_spec mapped).2.2
      rw [qname] at read
      cases marked : isMark record.qname with
      | false => rfl
      | true => simp [requiredText_of_mark marked] at read
    rw [mapRow_columns lawful accepted columns id_pos projected (time ▸ own_day) shown,
      Except.ok.injEq, LocatedRecord.mk.injEq] at mapped
    exact (storedRecord_eq_iff lawful shown projected).mp mapped.1
  · have shown := representable.qname_shown
    rw [mapRow_columns lawful accepted columns id_pos projected (time ▸ own_day) shown,
      (storedRecord_eq_iff lawful shown projected).mpr representable]
  · have day_lt := lt_i64Bound_of_utcDay own_day
    have regular (text : String) : (addressFilter live.occurredAtMillis text).Regular :=
      ⟨by simp only [addressFilter]; omega, by simp only [addressFilter]; omega, .inr rfl⟩
    apply (ipText_normalizeIp_eq_iff lawful).mp
    rw [← address, ← client_ip]
    apply eq_of_columnContains_eq
    · rw [address, client_ip, Option.isSome_map, Option.isSome_map]
    · intro text
      rw [← matchesRecord_addressFilter, agree _ (regular text), selects_addressFilter]
      rw [event_time, time]
  · intro normal filter regular
    apply matchesRecord_eq_selects_of_address columns projected regular
    rw [address, client_ip]
    exact (ipText_normalizeIp_eq_iff lawful).mpr normal

/-- Texts for the two forms of one address and for no answers. -/
def sampleTexts : Texts Unit where
  ipText
    | .v4 _ => "192.0.2.10"
    | .v6 _ => "::ffff:192.0.2.10"
  parseIp
    | "192.0.2.10" => some (.v4 0xc000020a#32)
    | "::ffff:192.0.2.10" => some (.v6 0xffffc000020a#128)
    | _ => none
  answersJson := fun _ => "[]"
  traceJson := fun _ => "null"

def readingPrimitives : Primitives Unit :=
  { samplePrimitives with
    normalizeIp := fun text => (sampleTexts.parseIp text).map sampleTexts.ipText
    parseAnswers := fun text => if text = "[]" then some [] else none }

variable (clientIp : IpAddr)

def sampleEvent : ResolveEvent where
  occurredAt := 0
  durationMillis := 8
  dnsCoreDurationMicros := 250
  requestDigest := ""
  listenerId := "listener"
  routeId := none
  clientId := none
  clientIp := some clientIp
  clientMatchSource := none
  matchedClientId := none
  clientBucket := none
  strategyId := none
  upstreamId := none
  upstreamMemberId := none
  upstreamUsedId := none
  matchedRuleSource := none
  matchedResourceId := none
  matchedRuleOrdinal := none
  resourceVersion := none
  transport := .datagram
  qname := "example.com."
  qtype := 1
  qclass := 1
  answers := []
  rcode := 0
  cancellationReason := none
  outcome := .success
  source := .upstream
  cacheStatus := .miss
  runtimeRevision := 1

def sampleDetailRecord : ResolveDetailRecord Unit :=
  ⟨none, 0, 8, 250, "listener", false, none, some clientIp, none, none, none, none, none, none,
    none, none, false, none, none, false, .datagram, "example.com.", 1, 1, [], 0, false, 0, none,
    .success, .upstream, .miss, 1⟩

theorem reject_false (failure : PortError) : reject false failure = .ok () := rfl

theorem fromEvent_sampleEvent :
    fromEvent sampleTexts (sampleEvent clientIp) =
      .ok (sampleDetailRecord clientIp) := by
  have listener : isBoundedId isListenerIdChar "listener" = true := by decide +kernel
  simp only [fromEvent, sampleEvent, validateListenerId, listener,
    validateOptionalClientId, validateOptionalConfiguredId, Option.any_none, Bool.not_true,
    reject_false, ok_bind]
  rfl

theorem lawful_sampleTexts {clientIp : IpAddr}
    (known : clientIp = .v4 0xc000020a#32 ∨ clientIp = .v6 0xffffc000020a#128) :
    sampleTexts.Lawful readingPrimitives (sampleDetailRecord clientIp) := by
  have unparsed : ∀ value, isMark value = true → sampleTexts.parseIp value = none ∧
      readingPrimitives.parseAnswers value = none := by
    intro value marked
    simp only [isMark, Bool.or_eq_true, beq_iff_eq] at marked
    rcases marked with (rfl | rfl) | rfl <;> exact ⟨rfl, rfl⟩
  have own {address : IpAddr} (mem : address ∈ (sampleDetailRecord clientIp).clientIp) :
      address = clientIp :=
    (Option.some.inj mem).symm
  refine ⟨fun _ => rfl, ?_, ?_, fun value marked => (unparsed value marked).1, rfl,
    fun value marked => (unparsed value marked).2, rfl⟩
  · intro address mem
    obtain rfl := own mem
    rcases known with rfl | rfl <;> rfl
  · intro address mem
    obtain rfl := own mem
    rcases known with rfl | rfl <;> decide +kernel

theorem read_models_agree_iff_sampleEvent : ∃ row live,
      applyResolveRecords sampleTexts 0 [sampleDetailRecord (.v4 0xc000020a#32)] = .ok [row] ∧
      mapRow readingPrimitives row.toSqliteRow 0 = .ok ⟨live, ⟨0, row.id⟩⟩ ∧
      ∀ filter : DetailQueryFilter, filter.Regular →
        filter.matchesRecord live = filter.selects row.toSqliteRow := by
  obtain ⟨row, written⟩ : ∃ row,
      applyResolveRecords sampleTexts 0 [sampleDetailRecord (.v4 0xc000020a#32)] = .ok [row] :=
    ⟨_, rfl⟩
  have own_day : utcDay ((sampleDetailRecord (.v4 0xc000020a#32)).occurredAt.toNat / 1000000) =
      .ok 0 := rfl
  obtain ⟨live, -, read_back, filters⟩ := read_models_agree_iff (lawful_sampleTexts (.inl rfl))
    (fromEvent_sampleEvent (.v4 0xc000020a#32)) (by decide) written (mem_singleton.mpr rfl)
    own_day
  have address_normal : ∀ address ∈ (sampleDetailRecord (.v4 0xc000020a#32)).clientIp,
      normalizeIp address = address := by
    rintro address ⟨⟩
    rfl
  exact ⟨row, live, written,
    read_back.mpr ⟨address_normal, by decide, by decide, by decide⟩, filters.mpr address_normal⟩

theorem mapped_address_differs : ∃ row live located,
      fromEvent sampleTexts (sampleEvent (.v6 0xffffc000020a#128)) =
        .ok (sampleDetailRecord (.v6 0xffffc000020a#128)) ∧
      applyResolveRecords sampleTexts 0 [sampleDetailRecord (.v6 0xffffc000020a#128)] = .ok [row] ∧
      toQueryRecord sampleTexts
        ⟨.fromLocation readingPrimitives ⟨0, 1⟩, sampleDetailRecord (.v6 0xffffc000020a#128)⟩ =
          .ok live ∧
      mapRow readingPrimitives row.toSqliteRow 0 = .ok located ∧
      live.clientIp = some "192.0.2.10" ∧
      located.record.clientIp = some "::ffff:192.0.2.10" ∧
      (addressFilter 0 "ffff").selects row.toSqliteRow = true ∧
      (addressFilter 0 "ffff").matchesRecord live = false := by
  refine ⟨_, _, _, fromEvent_sampleEvent _, rfl, rfl, rfl, ?_, ?_, ?_, ?_⟩ <;> decide +kernel

end FluxDns.Storage
