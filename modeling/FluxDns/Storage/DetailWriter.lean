import Mathlib.Data.List.Nodup
import Mathlib.Data.List.TakeWhile
import FluxDns.Library.Execution
import FluxDns.Ports
import FluxDns.Time

/-!
# The day-sharded detail writer

Requests put their records into a bounded channel.  A single worker takes them over and writes,
flush by flush, the leading records of one day in a transaction of that day's shard.  A flush
removes its records from the queue only when every storage step has reported success.
-/

namespace FluxDns.Storage.DetailWriter

open Execution List PortError

/-- A record with its number among all accepted ones. -/
structure Accepted (Record : Type) where
  ticket : Nat
  record : Record
  deriving DecidableEq

/-- A row of a shard. -/
structure Row (Record : Type) where
  day : Int
  accepted : Accepted Record
  deriving DecidableEq

/-- What a flush reports. -/
structure FlushSummary where
  committed : Nat
  evicted : Nat
  dropped : Nat

/-- The capacities and the day of a record. -/
structure Setting (Record : Type) where
  capacity : Nat
  maxBatch : Nat
  /-- `record_day` -/
  day : Record → Except PortError Int

/-- What `acquire` returns for a write lease. -/
inductive Acquisition where
  | lease
  /-- The day is not visible; `retired` is the answer of `day_is_retired` afterwards. -/
  | hidden (retired : Bool)
  | failed (error : PortError)

/-- How the transaction ends.  An error is the one of the step or the timeout of the deadline. -/
inductive TransactionEnd where
  | beginFailed (error : PortError)
  /-- `apply_resolve_records` fails at a record. -/
  | insertFailed (position : Nat) (error : PortError)
  | commitFailed (error : PortError)
  /-- The commit took effect although its caller gets an error. -/
  | commitUnreported (error : PortError)
  | committed

/-- The outcomes of the steps of one flush. -/
structure StorageOutcome where
  acquisition : Acquisition
  transaction : TransactionEnd
  close : Except PortError Unit

/-- A transaction that took effect was reported, and its lease was closed in time. -/
def StorageOutcome.acknowledged (outcome : StorageOutcome) : Bool :=
  match outcome.acquisition, outcome.transaction with
  | .lease, .commitUnreported _ => false
  | .lease, .committed => outcome.close.isOk
  | _, _ => true

/-- The channel, the worker and the shards. -/
structure Worker (Record : Type) where
  channel : List (Accepted Record)
  /-- The receiver was closed. -/
  closed : Bool
  pending : List (Accepted Record)
  /-- The worker was dropped. -/
  ended : Bool
  /-- All records that were accepted, in their order. -/
  history : List Record
  /-- The rows of all shards in the order of their insertion. -/
  stored : List (Row Record)

def Worker.initial {Record : Type} : Worker Record := ⟨[], false, [], false, [], []⟩

section Functions

variable {Record : Type} (setting : Setting Record) (worker : Worker Record)

def tryWrite (record : Record) : Worker Record × Except PortError Unit :=
  if worker.closed ∨ worker.ended then
    (worker, .error ((new .unavailable "detail_shard.enqueue").withSafeContext
      "worker closed"))
  else if setting.capacity ≤ worker.channel.length then
    (worker, .error ((new .resourceExhausted "detail_shard.enqueue").withSafeContext
      "queue full"))
  else
    ({ worker with
        channel := worker.channel ++ [⟨worker.history.length, record⟩]
        history := worker.history ++ [record] }, .ok ())

/-- The rows that a transaction leaves in the shard, and what `deadline_future` returns for it. -/
def writeTransaction (day : Int) (records : List (Accepted Record)) :
    TransactionEnd → List (Row Record) × Except PortError FlushSummary
  | .beginFailed error | .insertFailed _ error | .commitFailed error => ([], .error error)
  | .commitUnreported error => (records.map (⟨day, ·⟩), .error error)
  | .committed => (records.map (⟨day, ·⟩), .ok ⟨records.length, 0, 0⟩)

def writeRecords (day : Int) (records : List (Accepted Record)) (outcome : StorageOutcome) :
    List (Row Record) × Except PortError FlushSummary :=
  if records = [] then ([], .ok ⟨0, 0, 0⟩)
  else
    match outcome.acquisition with
    | .failed error => ([], .error error)
    | .hidden true => ([], .ok ⟨0, 0, records.length⟩)
    | .hidden false => ([], .error (new .unavailable "detail_shard.write_lease"))
    | .lease =>
      let (rows, write) := writeTransaction day records outcome.transaction
      match write, outcome.close with
      | .ok summary, .ok () => (rows, .ok summary)
      | .error error, _ => (rows, .error error)
      | .ok _, .error error => (rows, .error error)

/-- The worker takes records from the channel until a batch is full. -/
def fill : Worker Record :=
  let room := setting.maxBatch - worker.pending.length
  { worker with
    pending := worker.pending ++ worker.channel.take room
    channel := worker.channel.drop room }

/-- The leading records of one day. -/
def batch (day : Int) (pending : List (Accepted Record)) : List (Accepted Record) :=
  (pending.take setting.maxBatch).takeWhile fun accepted =>
    match setting.day accepted.record with
    | .ok other => other == day
    | .error _ => false

/-- `flush` once the pending records are filled up. -/
def flushPending (outcome : StorageOutcome) : Worker Record × Except PortError FlushSummary :=
  match worker.pending with
  | [] => (worker, .ok ⟨0, 0, 0⟩)
  | first :: _ =>
    match setting.day first.record with
    | .error error => (worker, .error error)
    | .ok day =>
      let records := batch setting day worker.pending
      let (rows, result) := writeRecords day records outcome
      let written := { worker with stored := worker.stored ++ rows }
      match result with
      | .ok summary => ({ written with pending := worker.pending.drop records.length }, .ok summary)
      | .error error => (written, .error error)

def flush (outcome : StorageOutcome) : Worker Record × Except PortError FlushSummary :=
  flushPending setting (fill setting worker) outcome

/-- The arm of `run_until_stopped` that has received a record: it is taken over even when the batch
is full already. -/
def receive (first : Accepted Record) (rest : List (Accepted Record))
    (outcome : StorageOutcome) : Worker Record × Except PortError FlushSummary :=
  let taken := fill setting
    { worker with pending := worker.pending ++ [first], channel := rest }
  if setting.maxBatch ≤ taken.pending.length then flush setting taken outcome
  else (taken, .ok ⟨0, 0, 0⟩)

end Functions

inductive Action (Record : Type) where
  | enqueue (record : Record)
  | receive (outcome : StorageOutcome)
  | flush (outcome : StorageOutcome)
  /-- The receiver is closed, by the end of the loop or by `shutdown`. -/
  | close
  /-- The worker is dropped; `shutdown` does so after a failed flush or with nothing left. -/
  | drop

inductive Report where
  | enqueued (result : Except PortError Unit)
  | flushed (result : Except PortError FlushSummary)
  | done

def step {Record : Type} (setting : Setting Record) (worker : Worker Record) :
    Action Record → Option (Worker Record × Report)
  | .enqueue record =>
    let (next, result) := tryWrite setting worker record
    some (next, .enqueued result)
  | .receive outcome =>
    if worker.ended ∨ worker.closed then none
    else
      match worker.channel with
      | [] => none
      | first :: rest =>
        let (next, result) := receive setting worker first rest outcome
        some (next, .flushed result)
  | .flush outcome =>
    if worker.ended then none
    else
      let (next, result) := flush setting worker outcome
      some (next, .flushed result)
  | .close => if worker.ended then none else some ({ worker with closed := true }, .done)
  | .drop => if worker.ended then none else some ({ worker with ended := true }, .done)

def Action.outcome? {Record : Type} : Action Record → Option StorageOutcome
  | .receive outcome | .flush outcome => some outcome
  | .enqueue _ | .close | .drop => none

section Line

variable {Record : Type} {setting : Setting Record} {worker : Worker Record}
  {outcome : StorageOutcome} {next : Worker Record}

/-- The stored records and the waiting ones, from the first to the last. -/
def Worker.line (worker : Worker Record) : List (Accepted Record) :=
  worker.stored.map Row.accepted ++ worker.pending ++ worker.channel

theorem fill_line (worker : Worker Record) : (fill setting worker).line = worker.line := by
  simp [fill, Worker.line]

theorem batch_append_drop (day : Int) (pending : List (Accepted Record)) :
    batch setting day pending ++ pending.drop (batch setting day pending).length = pending := by
  have leading : batch setting day pending <+: pending := by
    apply IsPrefix.trans
    · exact takeWhile_prefix _
    · exact take_prefix _ _
  exact prefix_iff_eq_append.mp leading

theorem day_of_mem_batch {day : Int} {pending : List (Accepted Record)} {accepted : Accepted Record}
    (mem : accepted ∈ batch setting day pending) : setting.day accepted.record = .ok day := by
  have same := mem_takeWhile_imp mem
  split at same
  · next other day_eq => rw [day_eq, eq_of_beq same]
  · cases same

/-- What an acknowledged write leaves in the shard: nothing, or all records of a flush that then
succeeds. -/
theorem writeRecords_acknowledged (day : Int) (records : List (Accepted Record))
    (acknowledged : outcome.acknowledged = true) :
    (writeRecords day records outcome).1 = [] ∨
      (writeRecords day records outcome).1 = records.map (⟨day, ·⟩) ∧
        ∃ summary, (writeRecords day records outcome).2 = .ok summary := by
  obtain ⟨acquisition, transaction, close⟩ := outcome
  by_cases empty : records = []
  · left
    rw [writeRecords, if_pos empty]
  · simp only [writeRecords, if_neg empty]
    cases acquisition with
    | failed error => exact .inl rfl
    | hidden retired => cases retired <;> exact .inl rfl
    | lease =>
      cases transaction with
      | commitUnreported error => cases acknowledged
      | committed =>
        cases close with
        | ok closed => exact .inr ⟨rfl, _, rfl⟩
        | error error => cases acknowledged
      | _ => exact .inl rfl

/-- What a step of the worker keeps: the line may only lose records, and new rows are in the shard
of their day. -/
structure Kept (setting : Setting Record) (worker next : Worker Record) : Prop where
  line : next.line.Sublist worker.line
  history : next.history = worker.history
  days : ∀ row ∈ next.stored, row ∈ worker.stored ∨ setting.day row.accepted.record = .ok row.day

theorem Kept.trans {middle : Worker Record} (first : Kept setting worker middle)
    (second : Kept setting middle next) : Kept setting worker next := by
  refine ⟨second.line.trans first.line, second.history.trans first.history, fun row mem => ?_⟩
  rcases second.days row mem with earlier | day
  · exact first.days row earlier
  · exact .inr day

theorem Kept.of_line_eq (line : next.line = worker.line) (history : next.history = worker.history)
    (stored : next.stored = worker.stored) : Kept setting worker next :=
  ⟨by rw [line], history, fun row mem => .inl (stored ▸ mem)⟩

variable (worker)

theorem kept_fill : Kept setting worker (fill setting worker) :=
  .of_line_eq (fill_line worker) rfl rfl

theorem kept_flushPending (acknowledged : outcome.acknowledged = true) :
    Kept setting worker (flushPending setting worker outcome).1 := by
  unfold flushPending
  split
  · exact .of_line_eq rfl rfl rfl
  · split
    · exact .of_line_eq rfl rfl rfl
    · next day _ =>
      have split_pending := @batch_append_drop _ setting day worker.pending
      rcases writeRecords_acknowledged day (batch setting day worker.pending) acknowledged with
        unwritten | ⟨rows_eq, summary, result_eq⟩
      · dsimp only
        rw [unwritten]
        split
        · refine ⟨?_, rfl, fun row mem => .inl (by simpa using mem)⟩
          simp only [Worker.line, append_nil]
          exact ((drop_sublist _ _).append_left _).append_right _
        · exact .of_line_eq (by simp [Worker.line]) rfl (by simp)
      · dsimp only
        rw [rows_eq, result_eq]
        refine ⟨?_, rfl, fun row mem => ?_⟩
        · have line_eq : (worker.stored ++ (batch setting day worker.pending).map (Row.mk day)).map
              Row.accepted ++ worker.pending.drop (batch setting day worker.pending).length =
                worker.stored.map Row.accepted ++ worker.pending := by
            simp [Function.comp_def, split_pending]
          simp only [Worker.line]
          rw [line_eq]
        · rcases mem_append.mp mem with earlier | written
          · exact .inl earlier
          · obtain ⟨accepted, accepted_mem, rfl⟩ := mem_map.mp written
            exact .inr (day_of_mem_batch accepted_mem)

theorem kept_flush (acknowledged : outcome.acknowledged = true) :
    Kept setting worker (flush setting worker outcome).1 :=
  (kept_fill worker).trans (kept_flushPending _ acknowledged)

variable {worker}

theorem kept_receive {first : Accepted Record} {rest : List (Accepted Record)}
    (waiting : worker.channel = first :: rest) (acknowledged : outcome.acknowledged = true) :
    Kept setting worker (receive setting worker first rest outcome).1 := by
  have taken : Kept setting worker
      { worker with pending := worker.pending ++ [first], channel := rest } :=
    .of_line_eq (by simp [Worker.line, waiting]) rfl rfl
  unfold receive
  dsimp only
  split
  · exact (taken.trans (kept_fill _)).trans (kept_flush _ acknowledged)
  · exact taken.trans (kept_fill _)

end Line

section Order

variable {Record : Type} {setting : Setting Record} {worker : Worker Record}

/-- The line is in the order of acceptance, and every row is in the shard of its day. -/
structure Ordered (setting : Setting Record) (worker : Worker Record) : Prop where
  sorted : (worker.line.map Accepted.ticket).Pairwise (· < ·)
  known : ∀ accepted ∈ worker.line, worker.history[accepted.ticket]? = some accepted.record
  days : ∀ row ∈ worker.stored, setting.day row.accepted.record = .ok row.day

theorem ordered_initial : Ordered setting (.initial : Worker Record) :=
  ⟨.nil, by simp [Worker.initial, Worker.line], by simp [Worker.initial]⟩

theorem Ordered.kept {next : Worker Record} (ordered : Ordered setting worker)
    (kept : Kept setting worker next) : Ordered setting next := by
  refine ⟨ordered.sorted.sublist (kept.line.map _), fun accepted mem => ?_, fun row mem => ?_⟩
  · rw [kept.history]
    exact ordered.known accepted (kept.line.subset mem)
  · rcases kept.days row mem with earlier | day
    · exact ordered.days row earlier
    · exact day

theorem Ordered.tryWrite (ordered : Ordered setting worker) (record : Record) :
    Ordered setting (tryWrite setting worker record).1 := by
  unfold DetailWriter.tryWrite
  split_ifs
  · exact ordered
  · exact ordered
  · have line_eq (channel : List (Accepted Record)) :
        worker.stored.map Row.accepted ++ worker.pending ++ (worker.channel ++ channel) =
          worker.line ++ channel := by
      simp [Worker.line]
    have below : ∀ accepted ∈ worker.line, accepted.ticket < worker.history.length :=
      fun accepted mem => (List.getElem?_eq_some_iff.mp (ordered.known accepted mem)).1
    refine ⟨?_, ?_, ordered.days⟩
    · simp only [Worker.line] at line_eq ⊢
      rw [line_eq, map_append, pairwise_append]
      refine ⟨ordered.sorted, pairwise_singleton _ _, fun ticket ticket_mem last last_mem => ?_⟩
      obtain ⟨accepted, accepted_mem, rfl⟩ := mem_map.mp ticket_mem
      obtain rfl := mem_singleton.mp last_mem
      exact below accepted accepted_mem
    · simp only [Worker.line] at line_eq ⊢
      rw [line_eq]
      intro accepted mem
      rcases mem_append.mp mem with earlier | last
      · rw [getElem?_append_left (below accepted earlier)]
        exact ordered.known accepted earlier
      · obtain rfl := mem_singleton.mp last
        simp

/-- Every flush of the step was acknowledged. -/
def Acknowledged (transition : Execution.Transition (Worker Record) (Action Record) Report) :
    Prop :=
  ∀ outcome, transition.action.outcome? = some outcome → outcome.acknowledged = true

theorem Ordered.step (move : Execution.Transition (Worker Record) (Action Record) Report)
    (ordered : Ordered setting move.before)
    (taken : DetailWriter.step setting move.before move.action = some (move.after, move.output))
    (acknowledged : Acknowledged move) : Ordered setting move.after := by
  obtain ⟨worker, action, output, next⟩ := move
  cases action with simp only [DetailWriter.step] at taken
  | enqueue record =>
    obtain rfl := eq_fst_of_some taken
    exact ordered.tryWrite record
  | receive outcome =>
    split_ifs at taken
    split at taken
    · cases taken
    · next first rest waiting =>
      obtain rfl := eq_fst_of_some taken
      exact ordered.kept (kept_receive waiting (acknowledged outcome rfl))
  | flush outcome =>
    split_ifs at taken
    obtain rfl := eq_fst_of_some taken
    exact ordered.kept (kept_flush worker (acknowledged outcome rfl))
  | close | drop =>
    split_ifs at taken
    cases taken
    exact ordered.kept (.of_line_eq rfl rfl rfl)

theorem Ordered.stored_sorted (ordered : Ordered setting worker) :
    (worker.stored.map fun row => row.accepted.ticket).Pairwise (· < ·) := by
  have sorted := ordered.sorted
  rw [Worker.line, append_assoc, map_append, pairwise_append] at sorted
  simpa [Function.comp_def] using sorted.1

/-- In a run whose flushes are all acknowledged every accepted record is stored at most once, in the
shard of its day, and each shard has its records in the order of their acceptance. -/
theorem stored_once_in_order (setting : Setting Record) (actions : List (Action Record))
    (acknowledged : ∀ transition ∈ transitions (step setting) .initial actions,
      Acknowledged transition) :
    ∀ transition ∈ transitions (step setting) .initial actions,
      (∀ ticket, (transition.after.stored.map fun row => row.accepted.ticket).count ticket ≤ 1) ∧
      (∀ row ∈ transition.after.stored,
        transition.after.history[row.accepted.ticket]? = some row.accepted.record ∧
          setting.day row.accepted.record = .ok row.day) ∧
      ∀ day, ((transition.after.stored.filter (·.day = day)).map
        fun row => row.accepted.ticket).Pairwise (· < ·) := by
  intro transition member
  have ordered := forall_after_of_guarded (Ordered setting) Acknowledged
    (fun transition before taken guarded => before.step transition taken guarded) ordered_initial
    acknowledged transition member
  have sorted := ordered.stored_sorted
  refine ⟨fun ticket => ?_, fun row row_mem => ⟨?_, ordered.days row row_mem⟩, fun day => ?_⟩
  · exact nodup_iff_count_le_one.mp (sorted.imp Nat.ne_of_lt) ticket
  · apply ordered.known
    simp only [Worker.line, mem_append, mem_map]
    exact .inl (.inl ⟨row, row_mem, rfl⟩)
  · exact sorted.sublist (filter_sublist.map _)

end Order

/-- Every storage step succeeds. -/
def StorageOutcome.clean : StorageOutcome := ⟨.lease, .committed, .ok ()⟩

section Example

/-- Records are their own days. -/
def sampleSetting : Setting Int := ⟨8, 4, .ok⟩

def closeTimeout : StorageOutcome :=
  ⟨.lease, .committed, .error (new .timeout "detail_shard.close")⟩

def sampleActions : List (Action Int) :=
  [.enqueue 7, .enqueue 7, .enqueue 8, .flush .clean, .flush .clean]

theorem sample_acknowledged :
    ∀ move ∈ transitions (step sampleSetting) .initial sampleActions,
      Acknowledged move := by
  intro move mem outcome given
  have action_mem := action_mem_of_mem_transitions mem
  simp only [sampleActions, mem_cons, not_mem_nil, or_false] at action_mem
  rcases action_mem with same | same | same | same | same <;> rw [same] at given <;> cases given <;>
    rfl

/-- Three records of two days are stored by two clean flushes. -/
theorem sample_stored_once :
    ∃ transition ∈ transitions (step sampleSetting) .initial sampleActions,
      transition.after.stored = [⟨7, ⟨0, 7⟩⟩, ⟨7, ⟨1, 7⟩⟩, ⟨8, ⟨2, 8⟩⟩] ∧
      ∀ ticket, (transition.after.stored.map fun row => row.accepted.ticket).count ticket ≤ 1 := by
  have last : ∃ transition ∈ transitions (step sampleSetting) .initial sampleActions,
      transition.after.stored = [⟨7, ⟨0, 7⟩⟩, ⟨7, ⟨1, 7⟩⟩, ⟨8, ⟨2, 8⟩⟩] :=
    ⟨_, mem_cons_of_mem _ (mem_cons_of_mem _ (mem_cons_of_mem _
      (mem_cons_of_mem _ mem_cons_self))), rfl⟩
  obtain ⟨transition, member, stored_eq⟩ := last
  exact ⟨transition, member, stored_eq,
    (stored_once_in_order sampleSetting sampleActions sample_acknowledged transition member).1⟩

/-- The record is stored twice. -/
theorem stored_twice_after_close_timeout :
    (run (step sampleSetting) .initial [.enqueue 7, .flush closeTimeout, .flush .clean]).map
      (·.stored) = some [⟨7, ⟨0, 7⟩⟩, ⟨7, ⟨0, 7⟩⟩] := by
  decide

end Example

end FluxDns.Storage.DetailWriter
