import Mathlib.Data.List.Basic
import FluxDns.Time

/-!
# Canonical DNS messages

The parts of the wire library's `Message` that the canonical layer reads or copies, the canonical
query and response built from it, and the TTL rewriting of a canonical response.
-/

namespace FluxDns

/-- A domain name as its labels, from the leftmost one. -/
structure Name where
  labels : List (List UInt8)
  isFqdn : Bool
  deriving DecidableEq

/-- ASCII lower case of one label byte. -/
def lowercaseByte (byte : UInt8) : UInt8 := if 65 ≤ byte ∧ byte ≤ 90 then byte + 32 else byte

def Name.toLowercase (name : Name) : Name :=
  { name with labels := name.labels.map (·.map lowercaseByte) }

inductive MessageType where
  | query
  | response
  deriving DecidableEq

/-- Operation codes; the canonical layer only accepts the first. -/
inductive OpCode where
  | query
  | other (code : UInt8)
  deriving DecidableEq

/-- Response codes with a case of their own in the canonical layer, and all others. -/
inductive ResponseCode where
  | noError
  | servFail
  | nxDomain
  | refused
  | other (code : UInt16)
  deriving DecidableEq

/-- The header of a message. -/
structure Metadata where
  id : UInt16
  messageType : MessageType
  opCode : OpCode
  authoritative : Bool
  truncation : Bool
  recursionDesired : Bool
  recursionAvailable : Bool
  authenticData : Bool
  checkingDisabled : Bool
  responseCode : ResponseCode
  deriving DecidableEq

/-- One entry of the question section. -/
structure Query where
  name : Name
  queryType : UInt16
  queryClass : UInt16
  deriving DecidableEq

/-- Record data: a start of authority by its minimum field, any other by type and octets. -/
inductive RData where
  | soa (minimum : UInt32) (rest : List UInt8)
  | other (recordType : UInt16) (octets : List UInt8)
  deriving DecidableEq

/-- A resource record. -/
structure Record where
  name : Name
  dnsClass : UInt16
  ttl : UInt32
  data : RData
  deriving DecidableEq

inductive IpAddr where
  | v4 (bits : BitVec 32)
  | v6 (bits : BitVec 128)
  deriving DecidableEq

def toIpv4Mapped (bits : BitVec 128) : Option (BitVec 32) :=
  if bits >>> 32 = 0xffff#128 then some (bits.truncate 32) else none

/-- The client subnet option of EDNS. -/
structure ClientSubnet where
  addr : IpAddr
  sourcePrefix : UInt8
  scopePrefix : UInt8
  deriving DecidableEq

inductive EdnsOption where
  | subnet (subnet : ClientSubnet)
  | other (code : UInt16) (payload : List UInt8)
  deriving DecidableEq

def EdnsOption.isSubnet : EdnsOption → Bool
  | .subnet _ => true
  | .other _ _ => false

/-- The EDNS envelope; its options keep their order of insertion. -/
structure Edns where
  rcodeHigh : UInt8
  version : UInt8
  dnssecOk : Bool
  flagsRest : UInt16
  maxPayload : UInt16
  options : List EdnsOption
  deriving DecidableEq

/-- A decoded DNS message. -/
structure Message where
  metadata : Metadata
  queries : List Query
  answers : List Record
  authorities : List Record
  additionals : List Record
  edns : Option Edns
  deriving DecidableEq

/-- The encoder and the decoder of the wire library. -/
structure WireCodec where
  toVec : Message → Option (List UInt8)
  fromVec : List UInt8 → Option Message

variable (message : Message)

def Message.records : List Record :=
  message.answers ++ message.authorities ++ message.additionals

variable (f : UInt32 → UInt32)

/-- Rewrite the TTL of every record of a message. -/
def Message.mapTtl (message : Message) : Message :=
  let rewrite (record : Record) : Record := { record with ttl := f record.ttl }
  { message with
    answers := message.answers.map rewrite
    authorities := message.authorities.map rewrite
    additionals := message.additionals.map rewrite }

theorem lowercaseByte_idem (byte : UInt8) :
    lowercaseByte (lowercaseByte byte) = lowercaseByte byte := by
  unfold lowercaseByte
  split
  · next upper =>
    rw [if_neg]
    simp only [UInt8.le_iff_toNat_le, UInt8.toNat_add, UInt8.reduceToNat] at *
    omega
  · rfl

@[simp]
theorem Name.toLowercase_idem (name : Name) : name.toLowercase.toLowercase = name.toLowercase := by
  simp [toLowercase, Function.comp_def, lowercaseByte_idem]

/-- A question with a lower-case, fully qualified name. -/
structure CanonicalQuestion where
  name : Name
  queryType : UInt16
  queryClass : UInt16
  lowercase : name.toLowercase = name
  fqdn : name.isFqdn = true
  deriving DecidableEq

def CanonicalQuestion.fromQuery (query : Query) : CanonicalQuestion where
  name := { query.name.toLowercase with isFqdn := true }
  queryType := query.queryType
  queryClass := query.queryClass
  lowercase := by
    have lowered := congrArg Name.labels query.name.toLowercase_idem
    simpa [Name.toLowercase] using lowered
  fqdn := rfl

def CanonicalQuestion.toQuery (question : CanonicalQuestion) : Query where
  name := question.name
  queryType := question.queryType
  queryClass := question.queryClass

@[simp]
theorem CanonicalQuestion.fromQuery_toQuery (question : CanonicalQuestion) :
    fromQuery question.toQuery = question := by
  obtain ⟨⟨labels, isFqdn⟩, queryType, queryClass, lowercase, fqdn⟩ := question
  simp only [fromQuery, toQuery, mk.injEq, and_self, and_true]
  dsimp only at fqdn
  rw [lowercase, fqdn]

inductive CanonicalMessageError where
  | unexpectedMessageType (expected actual : MessageType)
  | unsupportedOpCode (opCode : OpCode)
  | questionCount (count : Nat)
  | unsupportedEdnsVersion (version : UInt8)
  | messageIdMismatch (expected actual : UInt16)
  | questionMismatch

/-- What queries and responses are checked for. -/
structure CommonChecks (message : Message) (expectedType : MessageType) (query : Query) : Prop where
  messageType : message.metadata.messageType = expectedType
  opCode : message.metadata.opCode = .query
  queries : message.queries = [query]
  ednsVersion : ∀ edns, message.edns = some edns → edns.version = 0

/-- The checks shared by queries and responses; the single question is handed on. -/
def validateCommon (expectedType : MessageType) :
    Except CanonicalMessageError { query : Query // CommonChecks message expectedType query } :=
  if typed : message.metadata.messageType = expectedType then
    if coded : message.metadata.opCode = .query then
      match questions : message.queries with
      | [query] =>
        match extension : message.edns with
        | some edns =>
          if version : edns.version = 0 then
            .ok ⟨query, typed, coded, questions, by simp [extension, version]⟩
          else .error (.unsupportedEdnsVersion edns.version)
        | none => .ok ⟨query, typed, coded, questions, by simp [extension]⟩
      | queries => .error (.questionCount queries.length)
    else .error (.unsupportedOpCode message.metadata.opCode)
  else .error (.unexpectedMessageType expectedType message.metadata.messageType)

/-- The header of a fresh message of the wire library. -/
def Metadata.new (messageType : MessageType) : Metadata where
  id := 0
  messageType := messageType
  opCode := .query
  authoritative := false
  truncation := false
  recursionDesired := false
  recursionAvailable := false
  authenticData := false
  checkingDisabled := false
  responseCode := .noError

/-- The header of a query with the flags of another one. -/
abbrev Metadata.asking (metadata : Metadata) : Metadata :=
  { Metadata.new .query with
    recursionDesired := metadata.recursionDesired
    authenticData := metadata.authenticData
    checkingDisabled := metadata.checkingDisabled }

/-- A message with a single question and no records. -/
def Message.ask (metadata : Metadata) (query : Query) (edns : Option Edns) : Message where
  metadata := metadata
  queries := [query]
  answers := []
  authorities := []
  additionals := []
  edns := edns

/-- A query without transport envelope: of the received message only three header flags, the
question and the EDNS envelope are kept. -/
structure CanonicalQuery where
  message : Message
  question : CanonicalQuestion
  shape : message = .ask message.metadata.asking question.toQuery message.edns
  ednsVersion : ∀ edns, message.edns = some edns → edns.version = 0

open CanonicalQuestion Message CanonicalQuery

def CanonicalQuery.fromMessage : Except CanonicalMessageError CanonicalQuery :=
  match validateCommon message .query with
  | .error error => .error error
  | .ok checked =>
    .ok {
      message := .ask message.metadata.asking (fromQuery checked.1).toQuery message.edns
      question := fromQuery checked.1
      shape := rfl
      ednsVersion := checked.2.ednsVersion }

/-- The first client subnet that the query carries. -/
def CanonicalQuery.ednsClientSubnet (query : CanonicalQuery) : Option ClientSubnet :=
  query.message.edns.bind fun edns =>
    edns.options.findSome? fun
      | .subnet subnet => some subnet
      | .other _ _ => none

/-- The envelope that the wire library creates. -/
def Edns.new : Edns where
  rcodeHigh := 0
  version := 0
  dnssecOk := false
  flagsRest := 0
  maxPayload := 512
  options := []

def replaceClientSubnet (edns : Option Edns) (subnet : Option ClientSubnet) : Option Edns :=
  let cleared := edns.map fun edns => { edns with options := edns.options.filter (!·.isSubnet) }
  match subnet with
  | none => cleared
  | some subnet =>
    let envelope := cleared.getD Edns.new
    some { envelope with options := envelope.options ++ [.subnet subnet] }

theorem replaceClientSubnet_version {edns : Option Edns}
    (version : ∀ envelope, edns = some envelope → envelope.version = 0)
    {subnet : Option ClientSubnet} {replaced : Edns}
    (result : replaceClientSubnet edns subnet = some replaced) : replaced.version = 0 := by
  cases edns with
  | none =>
    cases subnet with
    | none => cases result
    | some _ =>
      cases result
      rfl
  | some envelope =>
    have supported := version envelope rfl
    cases subnet with
    | none | some _ =>
      cases result
      exact supported

def CanonicalQuery.withEdnsClientSubnet (query : CanonicalQuery) (subnet : Option ClientSubnet) :
    CanonicalQuery where
  message := { query.message with edns := replaceClientSubnet query.message.edns subnet }
  question := query.question
  shape := by
    conv_lhs => rw [query.shape]
    rfl
  ednsVersion _ replaced := replaceClientSubnet_version query.ednsVersion replaced

inductive ResponseClass where
  | positive
  | noData
  | nxDomain
  | refused
  | servFail
  | truncated
  | other (code : ResponseCode)
  deriving DecidableEq

/-- TTL facts derived from the records of a response. -/
structure TtlMetadata where
  minTtl : Option UInt32
  negativeTtl : Option UInt32
  deriving DecidableEq

def classifyResponse : ResponseClass :=
  if message.metadata.truncation then .truncated
  else
    match message.metadata.responseCode with
    | .noError => if message.answers.isEmpty then .noData else .positive
    | .nxDomain => .nxDomain
    | .refused => .refused
    | .servFail => .servFail
    | code => .other code

/-- The negative caching TTL of an authority record. -/
def soaTtl (record : Record) : Option UInt32 :=
  match record.data with
  | .soa minimum _ => some (min record.ttl minimum)
  | .other _ _ => none

def ResponseClass.isNegative : ResponseClass → Bool
  | .noData | .nxDomain => true
  | _ => false

def extractTtlMetadata (responseClass : ResponseClass) : TtlMetadata where
  minTtl := (message.records.map (·.ttl)).min?
  negativeTtl :=
    if responseClass.isNegative then (message.authorities.filterMap soaTtl).min? else none

/-- A validated response without an upstream message id, with its class and TTL facts. -/
structure CanonicalResponse where
  message : Message
  responseClass : ResponseClass
  ttl : TtlMetadata
  question : ∃ question : CanonicalQuestion, CommonChecks message .response question.toQuery
  id_eq : message.metadata.id = 0
  class_eq : responseClass = classifyResponse message
  ttl_eq : ttl = extractTtlMetadata message responseClass
  deriving DecidableEq

def CanonicalResponse.fromMessage (expectedQuery : CanonicalQuery)
    (expectedId : UInt16) : Except CanonicalMessageError CanonicalResponse :=
  match validateCommon message .response with
  | .error error => .error error
  | .ok checked =>
    let actualQuestion := fromQuery checked.1
    if message.metadata.id ≠ expectedId then
      .error (.messageIdMismatch expectedId message.metadata.id)
    else if actualQuestion ≠ expectedQuery.question then .error .questionMismatch
    else
      let canonical := { message with
        metadata := { message.metadata with id := 0 }
        queries := [actualQuestion.toQuery] }
      .ok {
        message := canonical
        responseClass := classifyResponse canonical
        ttl := extractTtlMetadata canonical (classifyResponse canonical)
        question := ⟨actualQuestion, checked.2.messageType, checked.2.opCode, rfl,
          checked.2.ednsVersion⟩
        id_eq := rfl
        class_eq := rfl
        ttl_eq := rfl }

/-- Seconds of a duration as a `u32`, its largest value when they do not fit. -/
def ttlSeconds (duration : Duration) : UInt32 :=
  UInt32.ofNat (min (Duration.asSecs duration) (u32Size - 1))

theorem toNat_ttlSeconds (duration : Duration) :
    (ttlSeconds duration).toNat = min (duration / second) (u32Size - 1) := by
  rw [ttlSeconds, UInt32.toNat_ofNat', Nat.mod_eq_of_lt]
  · rfl
  · simp only [u32Size]
    omega

variable (left right : UInt32)

theorem toNat_min : (min left right).toNat = min left.toNat right.toNat := by
  have unfolded : min left right = if left ≤ right then left else right := rfl
  rw [unfolded]
  simp only [UInt32.le_iff_toNat_le]
  split <;> omega

theorem toNat_max : (max left right).toNat = max left.toNat right.toNat := by
  have unfolded : max left right = if left ≤ right then right else left := rfl
  rw [unfolded]
  simp only [UInt32.le_iff_toNat_le]
  split <;> omega

theorem toNat_saturatingSub :
    (if right ≤ left then left - right else 0).toNat = left.toNat - right.toNat := by
  split
  · next le => exact UInt32.toNat_sub_of_le _ _ le
  · next lt =>
    rw [UInt32.le_iff_toNat_le] at lt
    have zero : (0 : UInt32).toNat = 0 := rfl
    omega

theorem records_mapTtl :
    (message.mapTtl f).records.map (·.ttl) = (message.records.map (·.ttl)).map f := by
  simp [mapTtl, records, Function.comp_def]

theorem classifyResponse_mapTtl :
    classifyResponse (message.mapTtl f) = classifyResponse message := by
  simp [classifyResponse, mapTtl]

variable (response : CanonicalResponse)

/-- Rewrite every record TTL and refresh the derived TTL facts. -/
def CanonicalResponse.rewriteTtl (f : UInt32 → UInt32) : CanonicalResponse where
  message := response.message.mapTtl f
  responseClass := response.responseClass
  ttl := extractTtlMetadata (response.message.mapTtl f) response.responseClass
  question := by
    obtain ⟨question, messageType, opCode, queries, ednsVersion⟩ := response.question
    exact ⟨question, messageType, opCode, queries, ednsVersion⟩
  id_eq := response.id_eq
  class_eq := by rw [classifyResponse_mapTtl, response.class_eq]
  ttl_eq := rfl

/-- Subtract the whole seconds spent in the cache from every record TTL. -/
def CanonicalResponse.ageTtl (elapsed : Duration) : CanonicalResponse :=
  response.rewriteTtl fun ttl => if ttlSeconds elapsed ≤ ttl then ttl - ttlSeconds elapsed else 0

def CanonicalResponse.isNegative (response : CanonicalResponse) : Bool :=
  response.responseClass.isNegative

/-- Bound every record TTL of a negative response; other responses are left alone. -/
def CanonicalResponse.capNegativeTtl (bound : Duration) : CanonicalResponse :=
  if response.isNegative then response.rewriteTtl fun ttl => min ttl (ttlSeconds bound)
  else response

/-- `ttl_bound_seconds`: a zero duration is no bound. -/
def ttlBoundSeconds (bound : Option Duration) : Option UInt32 :=
  (bound.filter (· ≠ 0)).map ttlSeconds

/-- The lower bound is applied first, so that the upper one prevails. -/
def clampSeconds (low high : Option UInt32) (ttl : UInt32) : UInt32 :=
  let raised := low.elim ttl (max ttl)
  high.elim raised (min raised)

def CanonicalResponse.clampTtl (low high : Option Duration) : CanonicalResponse :=
  response.rewriteTtl (clampSeconds (ttlBoundSeconds low) (ttlBoundSeconds high))

/-- The lifetime of a stale answer, for every record. -/
def CanonicalResponse.setTtl (ttl : Duration) : CanonicalResponse :=
  response.rewriteTtl fun _ => ttlSeconds ttl

inductive TtlCall where
  | clamp (low high : Option Duration)
  | age (elapsed : Duration)
  | set (ttl : Duration)
  | capNegative (bound : Duration)

def CanonicalResponse.rewrite : TtlCall → CanonicalResponse
  | .clamp low high => response.clampTtl low high
  | .age elapsed => response.ageTtl elapsed
  | .set ttl => response.setTtl ttl
  | .capNegative bound => response.capNegativeTtl bound

/-- What a message says apart from the lifetimes of its records. -/
def Message.withoutTtl (message : Message) : Message := message.mapTtl fun _ => 0

theorem mapTtl_mapTtl (message : Message) (f g : UInt32 → UInt32) :
    (message.mapTtl f).mapTtl g = message.mapTtl (g ∘ f) := by
  simp [mapTtl, Function.comp_def]

theorem CanonicalResponse.rewrite_kept (call : TtlCall) :
    (response.rewrite call).responseClass = response.responseClass ∧
      (response.rewrite call).message.withoutTtl = response.message.withoutTtl := by
  have kept (f : UInt32 → UInt32) : (response.rewriteTtl f).responseClass =
      response.responseClass ∧ (response.message.mapTtl f).withoutTtl =
        response.message.withoutTtl :=
    ⟨rfl, mapTtl_mapTtl response.message f _⟩
  cases call with
  | clamp low high => exact kept _
  | age elapsed => exact kept _
  | set ttl => exact kept _
  | capNegative bound =>
    rw [rewrite, capNegativeTtl]
    split
    · exact kept _
    · exact ⟨rfl, rfl⟩

theorem CanonicalResponse.ageTtl_ageTtl (first later : Nat) :
    (response.ageTtl (first * second)).ageTtl (later * second) =
      response.ageTtl ((first + later) * second) := by
  have whole (seconds : Nat) : (ttlSeconds (seconds * second)).toNat =
      min seconds (u32Size - 1) := by
    rw [toNat_ttlSeconds, Nat.mul_div_cancel seconds (by decide)]
  have twice (ttl : UInt32) :
      let aged := if ttlSeconds (first * second) ≤ ttl then ttl - ttlSeconds (first * second) else 0
      (if ttlSeconds (later * second) ≤ aged then aged - ttlSeconds (later * second) else 0) =
        if ttlSeconds ((first + later) * second) ≤ ttl then
          ttl - ttlSeconds ((first + later) * second) else 0 := by
    apply UInt32.toNat.inj
    have small := ttl.toNat_lt
    simp only [toNat_saturatingSub, whole, u32Size]
    omega
  simp only [ageTtl, rewriteTtl, mapTtl_mapTtl, Function.comp_def, twice]

open CanonicalResponse

/-- After any rewriting the lifetimes agree with the records, nothing else has changed, and ageing
twice is ageing once by the sum. -/
theorem ttl_rewriting_consistent (response : CanonicalResponse) (calls : List TtlCall) :
    let rewritten := calls.foldl rewrite response
    rewritten.ttl = extractTtlMetadata rewritten.message (classifyResponse rewritten.message) ∧
    rewritten.responseClass = response.responseClass ∧
    rewritten.message.withoutTtl = response.message.withoutTtl ∧
    ∀ first later, (rewritten.ageTtl (first * second)).ageTtl (later * second) =
      rewritten.ageTtl ((first + later) * second) := by
  intro rewritten
  have kept : rewritten.responseClass = response.responseClass ∧
      rewritten.message.withoutTtl = response.message.withoutTtl := by
    induction calls generalizing response with
    | nil => exact ⟨rfl, rfl⟩
    | cons call calls induction =>
      obtain ⟨same_class, same⟩ := response.rewrite_kept call
      exact (induction (response.rewrite call)).imp (·.trans same_class) (·.trans same)
  exact ⟨rewritten.class_eq ▸ rewritten.ttl_eq, kept.1, kept.2, rewritten.ageTtl_ageTtl⟩

theorem validateCommon_eq_ok {message : Message} {expectedType : MessageType} {query : Query}
    (checks : CommonChecks message expectedType query) :
    validateCommon message expectedType = .ok ⟨query, checks⟩ := by
  unfold validateCommon
  rw [dif_pos checks.messageType, dif_pos checks.opCode]
  split
  · next other questions =>
    cases checks.queries.symm.trans questions
    split
    · next edns extension => rw [dif_pos (checks.ednsVersion edns extension)]
    · rfl
  · next others => exact absurd checks.queries (others query)

theorem CanonicalQuery.fromMessage_ok {message : Message} {question : CanonicalQuestion}
    (checks : CommonChecks message .query question.toQuery) :
    ∃ query, fromMessage message = .ok query ∧ query.question = question := by
  simp only [fromMessage, validateCommon_eq_ok checks]
  exact ⟨_, rfl, fromQuery_toQuery question⟩

theorem CanonicalResponse.fromMessage_own {question : CanonicalQuestion}
    (checks : CommonChecks response.message .response question.toQuery) {query : CanonicalQuery}
    (same : query.question = question) : fromMessage response.message query 0 = .ok response := by
  simp only [fromMessage, validateCommon_eq_ok checks,
    fromQuery_toQuery, same, ne_eq, not_true_eq_false, if_false, response.id_eq]
  obtain ⟨message, responseClass, ttl, _, id_eq, class_eq, ttl_eq⟩ := response
  obtain ⟨metadata, queries, answers, authorities, additionals, edns⟩ := message
  obtain rfl : queries = [question.toQuery] := checks.queries
  obtain ⟨id, messageType, opCode, authoritative, truncation, recursionDesired, recursionAvailable,
    authenticData, checkingDisabled, responseCode⟩ := metadata
  obtain rfl : id = 0 := id_eq
  subst class_eq ttl_eq
  rfl

end FluxDns
