import FluxDns.Resource.Indexes
import FluxDns.Storage.DetailRecord
import FluxDns.Storage.Statistics

/-!
# Records of the resolve log

A finished request becomes a detail record.  The record is written to the shard of its day and,
after the commit, shown on the live stream without reading the row back: `toQueryRecord` projects
the record itself, and `matchesRecord` replaces the conditions of the SQL statement.
-/

namespace FluxDns.Storage

inductive ResolveRuleSource where
  | listenerHosts
  | strategyHosts
  | ruleSet

/-- A finished request.  Its time is counted in nanoseconds from the Unix epoch. -/
structure ResolveEvent where
  occurredAt : Int
  durationMillis : UInt64
  dnsCoreDurationMicros : UInt64
  requestDigest : String
  listenerId : String
  routeId : Option String
  clientId : Option String
  clientIp : Option IpAddr
  clientMatchSource : Option ClientMatchSource
  matchedClientId : Option String
  clientBucket : Option String
  strategyId : Option String
  upstreamId : Option String
  upstreamMemberId : Option String
  upstreamUsedId : Option String
  matchedRuleSource : Option ResolveRuleSource
  matchedResourceId : Option String
  matchedRuleOrdinal : Option UInt64
  resourceVersion : Option Resource.ResourceVersion
  transport : TransportClass
  qname : String
  qtype : UInt16
  qclass : UInt16
  answers : List ResolveAnswer
  rcode : UInt8
  cancellationReason : Option CancelReason
  outcome : OutcomeClass
  source : StatsSource
  cacheStatus : CacheStatus
  runtimeRevision : UInt64

/-- What is kept of a request. -/
structure ResolveDetailRecord (Trace : Type) where
  execution : Option Trace
  occurredAt : Int
  durationMillis : UInt64
  dnsCoreDurationMicros : UInt64
  listenerId : String
  hasRoute : Bool
  clientId : Option String
  clientIp : Option IpAddr
  clientMatchSource : Option ClientMatchSource
  matchedClientId : Option String
  clientBucket : Option String
  strategyId : Option String
  upstreamId : Option String
  upstreamMemberId : Option String
  upstreamUsedId : Option String
  matchedRuleSource : Option ResolveRuleSource
  hasMatchedResource : Bool
  matchedRuleOrdinal : Option UInt64
  resourceVersion : Option Resource.ResourceVersion
  hasRequestDigest : Bool
  transport : TransportClass
  qname : String
  qtype : UInt16
  qclass : UInt16
  answers : List ResolveAnswer
  answerCount : Nat
  answersTruncated : Bool
  rcode : UInt8
  cancellationReason : Option CancelReason
  outcome : OutcomeClass
  source : StatsSource
  cacheStatus : CacheStatus
  runtimeRevision : UInt64

/-- The texts that other crates print and parse. -/
structure Texts (Trace : Type) where
  /-- `IpAddr::to_string`. -/
  ipText : IpAddr → String
  /-- `str::parse` to an address. -/
  parseIp : String → Option IpAddr
  answersJson : List ResolveAnswer → String
  traceJson : Trace → String

variable {Trace : Type}

/-- An error of the detail writer about the named field. -/
def writerError (context : String) : PortError :=
  (PortError.new .invalidInput "resolve detail writer").withSafeContext context

/-- A text of 1 to 128 bytes all of whose characters are allowed; the allowed characters are
ASCII, so that a character is a byte. -/
def isBoundedId (allowed : Char → Bool) (value : String) : Bool :=
  value != "" && decide (value.utf8ByteSize ≤ 128) && value.toList.all allowed

def isListenerIdChar (char : Char) : Bool :=
  char.isAlphanum || char == '.' || char == '-' || char == '_'

def isConfiguredIdChar (char : Char) : Bool :=
  char.isAlphanum || char == '.' || char == '-' || char == '_' || char == '!'

def isClientIdChar (char : Char) : Bool :=
  char.isAlphanum || char == '-' || char == '.' || char == '_' || char == '~'

def validateListenerId (listenerId : String) : Except PortError Unit :=
  reject (!isBoundedId isListenerIdChar listenerId) (writerError "invalid listener id")

def validClientId (value : String) : Bool := isBoundedId isClientIdChar value

def validateOptionalClientId (value : Option String) (field : String) : Except PortError Unit :=
  reject (value.any fun value => !validClientId value) (writerError field)

def validateOptionalConfiguredId (value : Option String) (field : String) : Except PortError Unit :=
  reject (value.any fun value => !isBoundedId isConfiguredIdChar value) (writerError field)

def leadingChars : List Char → Nat → List Char
  | [], _ => []
  | char :: rest, bytes =>
    if char.utf8Size ≤ bytes then char :: leadingChars rest (bytes - char.utf8Size) else []

/-- `truncate_utf8`: the text cut at a character boundary, and whether it was cut. -/
def truncateUtf8 (value : String) (maxBytes : Nat) : String × Bool :=
  if value.utf8ByteSize ≤ maxBytes then (value, false)
  else (String.ofList (leadingChars value.toList maxBytes), true)

/-- An answer with its texts cut to their limits. -/
def truncateAnswer (answer : ResolveAnswer) : ResolveAnswer × Bool :=
  let (name, nameCut) := truncateUtf8 answer.name 1024
  let (recordType, typeCut) := truncateUtf8 answer.recordType 32
  let (data, dataCut) := truncateUtf8 answer.data 512
  (⟨name, recordType, data, answer.ttl⟩, nameCut || typeCut || dataCut)

/-- The loop of `bounded_answers`: it ends at the first answer with which the JSON text of the list
exceeds 4096 bytes. -/
def collectAnswers (texts : Texts Trace) :
    List ResolveAnswer → List ResolveAnswer → Bool → List ResolveAnswer × Bool
  | [], answers, truncated => (answers, truncated)
  | answer :: source, answers, truncated =>
    let (answer, cut) := truncateAnswer answer
    if 4096 < (texts.answersJson (answers ++ [answer])).utf8ByteSize then (answers, true)
    else collectAnswers texts source (answers ++ [answer]) (truncated || cut)

variable (texts : Texts Trace)

def boundedAnswers (source : List ResolveAnswer) : List ResolveAnswer × Bool :=
  collectAnswers texts (source.take 16) [] (decide (16 < source.length))

def ResolveDetailRecord.fromEvent (event : ResolveEvent) :
    Except PortError (ResolveDetailRecord Trace) := do
  validateListenerId event.listenerId
  validateOptionalClientId event.clientId "client id"
  validateOptionalClientId event.matchedClientId "matched client id"
  reject (event.clientMatchSource.isSome != event.matchedClientId.isSome)
    (writerError "incomplete client match fact")
  validateOptionalConfiguredId event.clientBucket "client bucket"
  validateOptionalConfiguredId event.strategyId "strategy id"
  validateOptionalConfiguredId event.upstreamId "upstream id"
  validateOptionalConfiguredId event.upstreamMemberId "upstream member id"
  validateOptionalConfiguredId event.upstreamUsedId "upstream used id"
  reject (event.qname == "" || decide (1024 < event.qname.utf8ByteSize))
    (writerError "invalid canonical qname")
  reject (decide (0x0f < event.rcode)) (writerError "invalid DNS header RCODE")
  let (answers, answersTruncated) := boundedAnswers texts event.answers
  return {
    execution := none
    occurredAt := event.occurredAt
    durationMillis := event.durationMillis
    dnsCoreDurationMicros := event.dnsCoreDurationMicros
    listenerId := event.listenerId
    hasRoute := event.routeId.isSome
    clientId := event.clientId
    clientIp := event.clientIp
    clientMatchSource := event.clientMatchSource
    matchedClientId := event.matchedClientId
    clientBucket := event.clientBucket
    strategyId := event.strategyId
    upstreamId := event.upstreamId
    upstreamMemberId := event.upstreamMemberId
    upstreamUsedId := event.upstreamUsedId
    matchedRuleSource := event.matchedRuleSource
    hasMatchedResource := event.matchedResourceId.isSome
    matchedRuleOrdinal := event.matchedRuleOrdinal
    resourceVersion := event.resourceVersion
    hasRequestDigest := event.requestDigest != ""
    transport := event.transport
    qname := event.qname
    qtype := event.qtype
    qclass := event.qclass
    answers
    answerCount := min event.answers.length (u32Size - 1)
    answersTruncated
    rcode := event.rcode
    cancellationReason := event.cancellationReason
    outcome := event.outcome
    source := event.source
    cacheStatus := event.cacheStatus
    runtimeRevision := event.runtimeRevision }

/-- A row of `resolve_log` with the columns that no detail query reads. -/
structure ResolveLogRow extends SqliteRow where
  requestIdDigest : String
  routeId : Option String
  clientBucket : Option String
  qclass : Int
  upstreamMemberId : Option String
  matchedRuleSource : Option String
  matchedResourceId : Option String
  matchedRuleOrdinal : Option Int
  cancellationReason : Option String
  runtimeRevision : Int
  resourceRevision : Option String

def cacheStatusName : CacheStatus → String
  | .disabled => "disabled"
  | .miss => "miss"
  | .fresh => "fresh"
  | .stale => "stale"
  | .expired => "expired"
  | .storeUnavailable => "store_unavailable"
  | .writeRejected => "write_rejected"

def statsSourceName : StatsSource → String
  | .cache => "cache"
  | .hosts => "hosts"
  | .ruleSet => "rule_set"
  | .upstream => "upstream"

def transportClassName : TransportClass → String
  | .datagram => "udp"
  | .stream => "tcp"
  | .multiplexed => "doh"

def clientMatchSourceName : ClientMatchSource → String
  | .id => "id"
  | .ip => "ip"

def resolveRuleSourceName : ResolveRuleSource → String
  | .listenerHosts => "listener_hosts"
  | .strategyHosts => "strategy_hosts"
  | .ruleSet => "rule_set"

def failureClassName : OutcomeClass → Option String
  | .success | .rejected => none
  | .failure => some "failure"
  | .timeout => some "timeout"
  | .cancelled => some "cancelled"
  | .dropped => some "dropped"

def cancellationReasonName : CancelReason → String
  | .clientDisconnected => "client_disconnected"
  | .deadlineExceeded => "deadline_exceeded"
  | .shutdown => "shutdown"
  | .groupPolicy => "group_policy"
  | .upstreamCancelled => "upstream_cancelled"

/-- `i64::try_from(value).unwrap_or(i64::MAX)`. -/
def saturatingI64 (value : UInt64) : Int := (min value.toNat (i64Bound - 1) : Nat)

theorem saturatingI64_lt (value : UInt64) : saturatingI64 value < i64Bound := by
  have : 0 < i64Bound := by decide
  unfold saturatingI64
  omega

/-- `system_time_utc_millis`: times before the epoch count as the epoch. -/
def systemTimeUtcMillis (time : Int) (operation : String) : Except PortError Nat :=
  let millis := time.toNat / 1000000
  if millis < i64Bound then .ok millis
  else .error ((PortError.new .invalidInput operation).withSafeContext
    "UTC millisecond timestamp exceeds signed 64-bit storage")

theorem systemTimeUtcMillis_eq_ok {time : Int} {operation : String} {millis : Nat} :
    systemTimeUtcMillis time operation = .ok millis ↔
      millis = time.toNat / 1000000 ∧ millis < i64Bound := by
  unfold systemTimeUtcMillis
  dsimp only
  split
  · next fits =>
    rw [Except.ok.injEq]
    exact ⟨fun equal => ⟨equal.symm, equal ▸ fits⟩, fun found => found.1.symm⟩
  · next large =>
    simp only [reduceCtorEq, false_iff, not_and]
    rintro rfl
    exact large

/-- The columns of a record. -/
def resolveLogColumns (record : ResolveDetailRecord Trace) (id millis : Nat)
    (id_lt : (id : Int) < i64Bound) (time_lt : (millis : Int) < i64Bound) : ResolveLogRow where
  id := id
  eventTimeUtcMillis := millis
  durationMillis := saturatingI64 record.durationMillis
  dnsCoreDurationMicros := some (saturatingI64 record.dnsCoreDurationMicros)
  requestIdDigest := if record.hasRequestDigest then "<present>" else "<absent>"
  listenerId := some record.listenerId
  routeId := if record.hasRoute then some "<present>" else none
  clientBucket := record.clientBucket
  strategyId := record.strategyId
  canonicalQname := some record.qname
  qtype := record.qtype.toNat
  qclass := record.qclass.toNat
  source := some (statsSourceName record.source)
  upstreamId := record.upstreamId
  upstreamMemberId := record.upstreamMemberId
  matchedRuleSource := record.matchedRuleSource.map resolveRuleSourceName
  matchedResourceId := if record.hasMatchedResource then some "<present>" else none
  matchedRuleOrdinal := record.matchedRuleOrdinal.map saturatingI64
  rcode := record.rcode.toNat
  cacheStatus := some (cacheStatusName record.cacheStatus)
  failureClass := failureClassName record.outcome
  cancellationReason := record.cancellationReason.map cancellationReasonName
  runtimeRevision := saturatingI64 record.runtimeRevision
  resourceRevision := record.resourceVersion.map fun version =>
    toString version.epoch ++ ":" ++ toString version.revision
  transport := some (transportClassName record.transport)
  clientIp := record.clientIp.map texts.ipText
  upstreamUsedId := record.upstreamUsedId
  answerCount := some record.answerCount
  answersTruncated := some (if record.answersTruncated then 1 else 0)
  answerSummaryJson := some (texts.answersJson record.answers)
  clientId := record.clientId
  clientMatchSource := record.clientMatchSource.map clientMatchSourceName
  matchedClientId := record.matchedClientId
  executionJson := some (record.execution.map texts.traceJson)
  id_lt := id_lt
  eventTime_lt := time_lt
  duration_lt := saturatingI64_lt _

/-- The row of one record under the identifier that SQLite assigns; SQLite refuses an insertion
once the identifiers are used up. -/
def resolveLogRow (record : ResolveDetailRecord Trace) (id : Nat) :
    Except PortError ResolveLogRow :=
  match event_time : systemTimeUtcMillis record.occurredAt "sqlite_storage.resolve_batch" with
  | .error error => .error error
  | .ok millis =>
    if id_lt : (id : Int) < i64Bound then
      .ok (resolveLogColumns texts record id millis id_lt
        (Int.ofNat_lt.mpr (systemTimeUtcMillis_eq_ok.mp event_time).2))
    else .error (.new .unavailable "sqlite_storage.resolve_batch")

/-- `apply_resolve_records`: the rows that a batch adds after the last identifier of the table. -/
def applyResolveRecords (texts : Texts Trace) :
    Nat → List (ResolveDetailRecord Trace) → Except PortError (List ResolveLogRow)
  | _, [] => .ok []
  | lastId, record :: records => do
      let row ← resolveLogRow texts record (lastId + 1)
      let rows ← applyResolveRecords texts (lastId + 1) records
      return row :: rows

/-- A record that was committed as the row with this identifier. -/
structure DetailCommittedRecord (Trace : Type) where
  id : DetailRecordId
  record : ResolveDetailRecord Trace

/-- `normalize_ip`: an IPv4 address in place of the IPv6 address that it is mapped to. -/
def normalizeIp : IpAddr → IpAddr
  | .v6 bits => match toIpv4Mapped bits with
      | some mapped => .v4 mapped
      | none => .v6 bits
  | .v4 bits => .v4 bits

def querySource : StatsSource → DetailQuerySource
  | .cache => .cache
  | .hosts => .hosts
  | .ruleSet => .rule
  | .upstream => .upstream

def queryOutcome (outcome : OutcomeClass) (rcode : Nat) : DetailQueryOutcome :=
  match outcome with
  | .timeout => .timeout
  | .failure | .cancelled | .dropped => .failed
  | .success | .rejected => outcomeFromRow none rcode

def queryCache : CacheStatus → DetailQueryCacheOutcome
  | .fresh => .hit
  | .stale => .stale
  | .expired => .expired
  | .miss => .miss
  | .disabled | .storeUnavailable | .writeRejected => .bypass

def queryTransport : TransportClass → DetailQueryTransport
  | .datagram => .udp
  | .stream => .tcp
  | .multiplexed => .doh

variable (committed : DetailCommittedRecord Trace)

def DetailCommittedRecord.toQueryRecord : Except PortError (DetailQueryRecord Trace) := do
  let record := committed.record
  let millis := record.occurredAt.toNat / 1000000
  reject (decide (record.occurredAt < 0) || decide (u64Size ≤ millis))
    (corrupt "detail_query.committed_record")
  return {
    listenerId := some record.listenerId
    execution := record.execution
    id := committed.id
    occurredAtMillis := millis
    durationMillis := record.durationMillis.toNat
    dnsCoreDurationMicros := some record.dnsCoreDurationMicros.toNat
    clientId := record.clientId
    clientIp := record.clientIp.map fun address => texts.ipText (normalizeIp address)
    clientMatchSource := record.clientMatchSource
    matchedClientId := record.matchedClientId
    qname := record.qname
    qtype := record.qtype.toNat
    transport := queryTransport record.transport
    rcode := record.rcode.toNat
    source := querySource record.source
    outcome := queryOutcome record.outcome record.rcode.toNat
    cache := queryCache record.cacheStatus
    strategyId := record.strategyId
    upstreamTargetId := record.upstreamId
    upstreamUsedId := record.upstreamUsedId
    answers := record.answers
    answerCount := record.answerCount
    answersTruncated := record.answersTruncated }

/-- `json_string_budget`: a control character takes six bytes in JSON. -/
def jsonStringBudget (value : String) : Nat := value.utf8ByteSize * 6

def DetailCommittedRecord.estimatedReplayBytes : Nat :=
  let record := committed.record
  let optional := ([record.clientId, record.matchedClientId, record.strategyId, record.upstreamId,
    record.upstreamUsedId].reduceOption).map jsonStringBudget
  512 + jsonStringBudget record.listenerId + (if record.execution.isSome then 4096 else 0) +
    jsonStringBudget committed.id.text + jsonStringBudget record.qname + optional.sum +
    (record.answers.map fun answer => jsonStringBudget answer.name +
      jsonStringBudget answer.recordType + jsonStringBudget answer.data + 64).sum

def rcodeMatches (expected : DetailQueryRcode) (value : Nat) : Bool :=
  match expected with
  | .noError => value == 0
  | .formErr => value == 1
  | .servFail => value == 2
  | .nxDomain => value == 3
  | .notImp => value == 4
  | .refused => value == 5
  | .other => decide (5 < value)

def DetailQueryFilter.matchesRecord (filter : DetailQueryFilter)
    (record : DetailQueryRecord Trace) : Bool :=
  decide (filter.fromUtcMillis ≤ record.occurredAtMillis) &&
  decide (record.occurredAtMillis < filter.toUtcMillis) &&
  filter.clientId.all (fun value => record.clientId == some value) &&
  filter.clientIp.all (fun value =>
    record.clientIp.any fun clientIp => decide (value.toList <:+: clientIp.toList)) &&
  filter.qname.all (fun value => decide (value.toList <:+: record.qname.toList)) &&
  filter.transport.all (fun value => record.transport == value) &&
  filter.matchedClientId.all (fun value => record.matchedClientId == some value) &&
  (!filter.requireMatchedClientIds ||
    filter.matchedClientIds.any fun value => record.matchedClientId == some value) &&
  filter.qtype.all (fun value => record.qtype == value.toNat) &&
  filter.rcode.all (fun value => rcodeMatches value record.rcode) &&
  filter.source.all (fun value => record.source == value) &&
  filter.outcome.all (fun value => record.outcome == value) &&
  filter.cache.all (fun value => record.cache == value)

end FluxDns.Storage
