import Mathlib.Data.List.Dedup
import FluxDns.Storage.ShardName
import FluxDns.Storage.Statistics

/-!
# Retention plans and their tables

A plan says from which day on data is kept.  Publishing it moves the watermark forward in one
transaction and registers every shard before it in a manifest, where a shard stays until it is
reclaimed.
-/

namespace FluxDns.Storage.Retention

def maxRetentionDays : Nat := 3650

def maxRetentionReferenceSizeBytes : Nat := 2 ^ 40

/-- How long details are kept. -/
structure RetentionPolicy where
  days : Nat
  graceDays : Nat
  referenceSizeBytes : Nat
  deriving DecidableEq

inductive RetentionPolicyError where
  | invalid
  | dayOutOfRange
  | sampleTooLarge

def RetentionPolicy.new (days graceDays referenceSizeBytes : Nat) :
    Except RetentionPolicyError RetentionPolicy :=
  if days = 0 ∨ maxRetentionDays < days ∨ maxRetentionDays < days + graceDays ∨
      ¬(1 ≤ referenceSizeBytes ∧ referenceSizeBytes ≤ maxRetentionReferenceSizeBytes) then
    .error .invalid
  else .ok ⟨days, graceDays, referenceSizeBytes⟩

/-- The days that one run of the retention keeps. -/
structure RetentionPlan where
  policy : RetentionPolicy
  referenceDayUtc : Int
  sampledDetailBytes : Nat
  targetDays : Nat
  keepFromDayUtc : Int
  deriving DecidableEq

variable (calendar : Calendar)

def RetentionPlan.calculate (policy : RetentionPolicy) (referenceDayUtc : Int)
    (sampledDetailBytes : Nat) : Except RetentionPolicyError RetentionPlan :=
  match RetentionPolicy.new policy.days policy.graceDays policy.referenceSizeBytes with
  | .error error => .error error
  | .ok policy =>
    if i64Bound ≤ sampledDetailBytes then .error .sampleTooLarge
    else
      let targetDays :=
        if policy.referenceSizeBytes < sampledDetailBytes then policy.days
        else policy.days + policy.graceDays
      let keepFromDayUtc := referenceDayUtc - ((targetDays - 1 : Nat) : Int)
      if keepFromDayUtc < -i32Bound then .error .dayOutOfRange
      else if formatShardFileName calendar referenceDayUtc = none ∨
          formatShardFileName calendar keepFromDayUtc = none then .error .dayOutOfRange
      else .ok ⟨policy, referenceDayUtc, sampledDetailBytes, targetDays, keepFromDayUtc⟩

def RetentionPlan.isValid (plan : RetentionPlan) : Bool :=
  match calculate calendar plan.policy plan.referenceDayUtc plan.sampledDetailBytes with
  | .ok expected => expected = plan
  | .error _ => false

/-- The row of `retention_state`. -/
structure RetentionState where
  revision : Nat
  watermarkRevision : Nat
  retiredBeforeDayUtc : Int
  referenceDayUtc : Int
  targetDays : Nat
  sampledDetailBytes : Nat
  referenceSizeBytes : Nat
  replayFloorBatchId : Nat

inductive RetentionManifestState where
  | pending
  | reclaimed
  | failed
  deriving DecidableEq

/-- A row of `retention_detail_manifest`. -/
structure RetentionManifestEntry where
  retiredRevision : Nat
  state : RetentionManifestState
  attempts : Nat
  lastErrorCode : Option String

/-- The shard is still to be reclaimed. -/
def RetentionManifestEntry.open (entry : RetentionManifestEntry) : Bool :=
  entry.state = .pending ∨ entry.state = .failed

abbrev Manifest := Map Int RetentionManifestEntry

/-- The retention tables. -/
structure Database where
  retentionState : Option RetentionState
  manifest : Manifest

variable (database : Database)

def Database.watermark : Option Int :=
  database.retentionState.map (·.retiredBeforeDayUtc)

def Database.registers (dayUtc : Int) : Bool :=
  (database.manifest.lookup dayUtc).any (·.open)

/-- The row of a day after it is inserted or meets an older row. -/
def upsert (watermarkRevision : Nat) : Option RetentionManifestEntry → RetentionManifestEntry
  | none => ⟨watermarkRevision, .pending, 0, none⟩
  | some entry =>
    if entry.state = .reclaimed then ⟨watermarkRevision, .pending, 0, none⟩
    else { entry with retiredRevision := watermarkRevision }

def registerDays (calendar : Calendar) (watermarkRevision : Nat) :
    List Int → Manifest → Except PortError Manifest
  | [], manifest => .ok manifest
  | dayUtc :: rest, manifest =>
    if formatShardFileName calendar dayUtc = none then
      .error (.new .invalidInput "sqlite_storage.publish_retention")
    else
      registerDays calendar watermarkRevision rest
        (manifest.insert dayUtc (upsert watermarkRevision (manifest.lookup dayUtc)))

/-- The days before the watermark, each once and in order. -/
def retiredDays (manifestDays : List Int) (retiredBeforeDayUtc : Int) : List Int :=
  ((manifestDays.insertionSort (· ≤ ·)).dedup).filter (· < retiredBeforeDayUtc)

/-- The row that a publication writes over the current one. -/
def nextState (current : Option RetentionState) (plan : RetentionPlan) (replayFloorBatchId : Nat) :
    RetentionState :=
  let retiredBeforeDayUtc := current.elim plan.keepFromDayUtc fun state =>
    max state.retiredBeforeDayUtc plan.keepFromDayUtc
  { revision := current.elim 1 fun state => state.revision + 1
    watermarkRevision := current.elim 1 fun state =>
      if state.retiredBeforeDayUtc < retiredBeforeDayUtc then state.watermarkRevision + 1
      else state.watermarkRevision
    retiredBeforeDayUtc
    referenceDayUtc := plan.referenceDayUtc
    targetDays := plan.targetDays
    sampledDetailBytes := plan.sampledDetailBytes
    referenceSizeBytes := plan.policy.referenceSizeBytes
    replayFloorBatchId := current.elim replayFloorBatchId fun state =>
      max state.replayFloorBatchId replayFloorBatchId }

/-- `publish_retention` up to its commit: the tables that the transaction leaves. -/
def publishRetention (plan : RetentionPlan)
    (manifestDays : List Int) (replayFloorBatchId : Nat) : Except PortError Database :=
  let operation := "sqlite_storage.publish_retention"
  if replayFloorBatchId = 0 ∨ i64Bound ≤ replayFloorBatchId ∨ plan.isValid calendar = false then
    .error (.new .invalidInput operation)
  else
    let state := nextState database.retentionState plan replayFloorBatchId
    -- A checked addition that fails leaves the range of an `i64` first.
    if i64Bound ≤ state.revision ∨ i64Bound ≤ state.watermarkRevision then
      .error (.new .resourceExhausted operation)
    else
      match registerDays calendar state.watermarkRevision
          (retiredDays manifestDays state.retiredBeforeDayUtc) database.manifest with
      | .error error => .error error
      | .ok manifest => .ok ⟨some state, manifest⟩

/-- `pending_retention_reclaims`, in the order of the days. -/
def pendingRetentionReclaims : List Int :=
  (database.manifest.entries.filterMap fun entry =>
    if entry.2.open then some entry.1 else none).insertionSort (· ≤ ·)

/-- `retention_error_code_is_valid` -/
def errorCodeIsValid (code : Option String) : Bool :=
  code.all fun text => text.toList ≠ [] ∧ text.toList.length ≤ 64 ∧
    text.toList.all fun character => ('a' ≤ character ∧ character ≤ 'z') ∨ character = '_'

/-- `finish_retention_reclaim` up to its commit. -/
def finishRetentionReclaim (dayUtc : Int) (errorCode : Option String) : Except PortError Database :=
  let operation := "sqlite_storage.retention_manifest_finish"
  if formatShardFileName calendar dayUtc = none ∨ errorCodeIsValid errorCode = false then
    .error (.new .invalidInput operation)
  else
    match database.manifest.lookup dayUtc with
    | some entry =>
      if entry.open ∧ entry.attempts < u32Size - 1 then
        .ok { database with
          manifest := database.manifest.insert dayUtc
            { entry with
              state := if errorCode.isSome then .failed else .reclaimed
              attempts := entry.attempts + 1
              lastErrorCode := errorCode } }
      else .error (.new .corruptData operation)
    | none => .error (.new .corruptData operation)

def reclaimErrorCode (error : PortError) : String :=
  match error.operation with
  | "detail_shard.checkpoint" => "checkpoint"
  | "detail_shard.reclaim_close" => "close"
  | "detail_shard.reclaim_delete" => "delete"
  | "detail_shard.reclaim_open" => "open"
  | "detail_shard.path" | "detail_shard.initialize" => "path"
  | _ =>
    match error.errorClass with
    | .invalidInput => "invalid_input"
    | .timeout => "timeout"
    | .cancelled _ => "cancelled"
    | .unavailable => "unavailable"
    | .permissionDenied => "permission_denied"
    | .resourceExhausted => "resource_exhausted"
    | .protocolViolation => "protocol_violation"
    | .corruptData => "corrupt_data"
    | .internal => "internal"

section Transactions

variable {calendar : Calendar} {database next : Database} {dayUtc : Int} {manifestDays : List Int}
  {plan : RetentionPlan}

@[simp]
theorem upsert_open (watermarkRevision : Nat) (entry : Option RetentionManifestEntry) :
    (upsert watermarkRevision entry).open = true := by
  cases entry with
  | none => rfl
  | some entry =>
    obtain ⟨revision, state, attempts, code⟩ := entry
    cases state <;> rfl

theorem registerDays_open {watermarkRevision : Nat} {days : List Int} {manifest after : Manifest}
    (registered : registerDays calendar watermarkRevision days manifest = .ok after)
    (known : dayUtc ∈ days ∨ (manifest.lookup dayUtc).any (·.open) = true) :
    (after.lookup dayUtc).any (·.open) = true := by
  induction days generalizing manifest with
  | nil =>
    cases registered
    exact known.resolve_left (List.not_mem_nil)
  | cons first rest induction =>
    rw [registerDays] at registered
    split_ifs at registered
    refine induction registered ?_
    rw [AList.lookup_insert_eq_ite]
    split_ifs with same
    · exact .inr (by simp)
    · rw [List.mem_cons] at known
      exact known.imp_left fun listed => listed.resolve_left same

theorem mem_retiredDays {retiredBeforeDayUtc : Int} :
    dayUtc ∈ retiredDays manifestDays retiredBeforeDayUtc ↔
      dayUtc ∈ manifestDays ∧ dayUtc < retiredBeforeDayUtc := by
  simp [retiredDays, List.mem_insertionSort, List.mem_dedup]

/-- A publication: the watermark does not go back, what is registered stays so, and every listed day
before the new watermark is registered. -/
structure Published (database next : Database) (state : RetentionState)
    (manifestDays : List Int) : Prop where
  stored : next.watermark = some state.retiredBeforeDayUtc
  grows : ∀ old, database.watermark = some old → old ≤ state.retiredBeforeDayUtc
  keeps : ∀ dayUtc, database.registers dayUtc = true → next.registers dayUtc = true
  registers : ∀ dayUtc ∈ manifestDays, dayUtc < state.retiredBeforeDayUtc →
    next.registers dayUtc = true

theorem published_of_publishRetention {floor : Nat}
    (success : publishRetention calendar database plan manifestDays floor = .ok next) :
    Published database next (nextState database.retentionState plan floor) manifestDays := by
  unfold publishRetention at success
  dsimp only at success
  split_ifs at success
  split at success <;> cases success
  next manifest registered =>
  refine ⟨rfl, fun old stored => ?_, fun dayUtc known => ?_, fun dayUtc listed before => ?_⟩
  · obtain ⟨state, state_eq, rfl⟩ := Option.map_eq_some_iff.mp stored
    simp [nextState, state_eq]
  · exact registerDays_open registered (.inr known)
  · exact registerDays_open registered (.inl (mem_retiredDays.mpr ⟨listed, before⟩))

/-- Finishing a reclaim changes one row; a failure leaves it registered. -/
structure Finished (database next : Database) (dayUtc : Int) (failed : Bool) : Prop where
  watermark : next.watermark = database.watermark
  keeps : ∀ other, other ≠ dayUtc ∨ failed = true → database.registers other = true →
    next.registers other = true

theorem finished_of_finishRetentionReclaim {errorCode : Option String}
    (success : finishRetentionReclaim calendar database dayUtc errorCode = .ok next) :
    Finished database next dayUtc errorCode.isSome := by
  unfold finishRetentionReclaim at success
  split at success <;> try cases success
  split at success <;> try cases success
  split at success <;> cases success
  refine ⟨rfl, fun other kept known => ?_⟩
  simp only [Database.registers, AList.lookup_insert_eq_ite] at known ⊢
  split_ifs with same failed
  · simp [RetentionManifestEntry.open]
  · exact absurd same (kept.resolve_right failed)
  · exact known

theorem publishRetention_agrees {floor : Nat}
    (success : publishRetention calendar database plan manifestDays floor = .ok next)
    {stats : StatsDatabase}
    (same : stats.retentionState = database.retentionState.map fun state =>
      ⟨state.retiredBeforeDayUtc, state.replayFloorBatchId⟩) :
    ∃ after, Storage.publishRetention stats plan.keepFromDayUtc floor = .ok after ∧
      after.retentionState = next.retentionState.map fun state =>
        ⟨state.retiredBeforeDayUtc, state.replayFloorBatchId⟩ := by
  unfold publishRetention at success
  dsimp only at success
  split_ifs at success with invalid
  split at success <;> cases success
  obtain ⟨floor_pos, floor_small, -⟩ := not_or.mp invalid |>.imp_right not_or.mp
  rw [Storage.publishRetention, if_neg (not_or.mpr ⟨floor_pos, floor_small⟩)]
  refine ⟨_, rfl, ?_⟩
  rw [same]
  cases database.retentionState <;> rfl

end Transactions

end FluxDns.Storage.Retention
