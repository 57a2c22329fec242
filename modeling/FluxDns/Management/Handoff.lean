import FluxDns.Management.EventHubSafety
import FluxDns.Storage.DetailRescan
import FluxDns.Storage.LiveReadModel

/-!
# From pages to the stream

A client reads the pages of a query and continues with the commits after the cursor of the first
page.  Commits, their publications and the retirement of days interleave with the scans of the
calls.
-/

namespace FluxDns.Management.Handoff

open Storage ByteReader

variable {Trace : Type} {records : List (ResolveDetailRecord Trace)} {texts : Texts Trace}

/-- The rows of a batch: one for each record, numbered one after the other. -/
theorem applyResolveRecords_ids {lastId : Nat} {rows : List ResolveLogRow}
    (applied : applyResolveRecords texts lastId records = .ok rows) :
    rows.map (·.id) = (List.range' (lastId + 1) records.length).map Int.ofNat := by
  induction records generalizing lastId rows with
  | nil =>
    cases applied
    rfl
  | cons record records induction =>
    rw [applyResolveRecords, bind_eq_ok] at applied
    obtain ⟨row, row_eq, applied⟩ := applied
    rw [bind_eq_ok] at applied
    obtain ⟨rest, rest_eq, applied⟩ := applied
    cases applied
    rw [List.map_cons, induction rest_eq, (columns_of_resolveLogRow row_eq).read.1]
    rfl

theorem length_applyResolveRecords {lastId : Nat} {rows : List ResolveLogRow}
    (applied : applyResolveRecords texts lastId records = .ok rows) :
    records.length = rows.length := by
  have lengths := congrArg List.length (applyResolveRecords_ids applied)
  simpa using lengths.symm

/-- A transaction of `write_records` that has taken effect. -/
structure Write (Trace : Type) where
  dayUtc : Int
  records : List (ResolveDetailRecord Trace)
  rows : List ResolveLogRow
  /-- Every record is one row. -/
  length_eq : records.length = rows.length

/-- A transaction under the number that `publish_commit` has given to it. -/
structure Publication (Trace : Type) where
  cursor : DetailCommitCursor
  write : Write Trace

variable (primitives : Primitives Trace)

def Publication.notification (publication : Publication Trace) : DetailCommitNotification Trace :=
  .new primitives publication.cursor publication.write.dayUtc publication.write.records
    (publication.write.rows.map (·.id))

/-- What a call has read before its scans. -/
structure Opening where
  retentionRevision : UInt64
  snapshotCursor : DetailCommitCursor
  /-- The watermark when the revision was read; no step reads it. -/
  retiredBefore : Option Int
  /-- The rows when the cursor was read; no step reads them. -/
  rows : Int → List SqliteRow

/-- A running call of `query_details`. -/
structure Call where
  query : DetailQuery
  opening : Opening
  /-- The rows of each day at the time of its scan. -/
  scanned : Int → Option (List SqliteRow)
  remaining : List Int

inductive Phase where
  | idle
  /-- The retention revision was read, the cursor not yet. -/
  | begun (query : DetailQuery) (retentionRevision : UInt64) (retiredBefore : Option Int)
  | scanning (call : Call)

/-- A client that reads page after page. -/
structure Walk (Trace : Type) where
  query : DetailQuery
  pages : List (DetailQueryPage Trace)
  phase : Phase
  /-- The opening of the first call; no step reads it. -/
  first : Option Opening

abbrev Walk.add (walk : Walk Trace) (page : DetailQueryPage Trace) : Walk Trace :=
  { walk with pages := walk.pages ++ [page], phase := .idle }

/-- The store, its commit log and one walk. -/
structure World (Trace : Type) where
  cursorKey : List UInt8
  shards : Int → Option (List SqliteRow)
  clock : CommitClock
  retentionRevision : UInt64
  retiredBefore : Option Int
  retiringDays : List Int
  stopping : Bool
  /-- The transactions between their commit and `publish_commit`. -/
  unpublished : List (Write Trace)
  walk : Option (Walk Trace)
  /-- All publications in their order; no step reads it. -/
  log : List (Publication Trace)
  /-- The transactions whose call ended before `publish_commit`; no step reads it. -/
  abandoned : List (Write Trace)

/-- A store with the rows of earlier processes. -/
def World.initial (cursorKey epoch : List UInt8) (shards : Int → Option (List SqliteRow)) :
    World Trace where
  cursorKey
  shards
  clock := ⟨epoch, 0⟩
  retentionRevision := 0
  retiredBefore := none
  retiringDays := []
  stopping := false
  unpublished := []
  walk := none
  log := []
  abandoned := []

variable (world : World Trace) (dayUtc : Int)

def World.rows : List SqliteRow :=
  (world.shards dayUtc).getD []

/-- A day that is not below the watermark. -/
def unretired (retiredBefore : Option Int) (dayUtc : Int) : Bool :=
  retiredBefore.all fun retiredBefore => decide (retiredBefore ≤ dayUtc)

def World.dayIsVisible : Bool :=
  !world.stopping && unretired world.retiredBefore dayUtc && !world.retiringDays.contains dayUtc

/-- The rows that a call finds when it scans a day. -/
def World.acquireRead : Option (List SqliteRow) :=
  if world.dayIsVisible dayUtc then world.shards dayUtc else none

/-- A transaction takes effect. -/
def World.commit (write : Write Trace) : World Trace :=
  { world with
    shards := Function.update world.shards write.dayUtc
      (some (world.rows write.dayUtc ++ write.rows.map (·.toSqliteRow)))
    unpublished := world.unpublished ++ [write] }

/-- `publish_commit` numbers a transaction. -/
def World.publish (index : Nat) (write : Write Trace) : World Trace :=
  let clock := world.clock.advance primitives
  { world with
    clock
    unpublished := world.unpublished.eraseIdx index
    log := world.log ++ [⟨clock.cursor primitives, write⟩] }

/-- A transaction is never published. -/
def World.abandon (index : Nat) (write : Write Trace) : World Trace :=
  { world with
    unpublished := world.unpublished.eraseIdx index
    abandoned := world.abandoned ++ [write] }

def World.retire (dayUtc : Int) : World Trace :=
  { world with
    retiredBefore := some dayUtc
    retentionRevision := advanceRevision world.retentionRevision }

inductive Action (Trace : Type) where
  /-- A transaction of `write_records` takes effect; SQLite numbers its rows after `lastId`. -/
  | commit (dayUtc : Int) (lastId : Nat) (records : List (ResolveDetailRecord Trace))
  | publish (index : Nat)
  /-- The deadline ends `write_records` between the effect of its commit and `publish_commit`. -/
  | abandon (index : Nat)
  | publishRetiredBefore (dayUtc : Int)
  | beginRetirement (dayUtc : Int)
  | stop
  /-- A first call, which reads the retention revision. -/
  | request (query : DetailQuery)
  /-- A call with `next_cursor` of the last page. -/
  | follow
  /-- The call reads the commit cursor. -/
  | readCursor
  /-- The call scans its next day. -/
  | scan
  | answer (availableFromUtcMillis : Option Nat)
  /-- The call fails. -/
  | fail

def Call.reads (call : Call) (world : World Trace) (availableFromUtcMillis : Option Nat) :
    Scanned where
  cursorKey := world.cursorKey
  retentionRevision := call.opening.retentionRevision
  currentRetentionRevision := world.retentionRevision
  snapshotCursor := call.opening.snapshotCursor
  availableFromUtcMillis
  shards := call.scanned

/-- The opening of a call that reads the commit cursor now. -/
def World.opening (retentionRevision : UInt64) (retiredBefore : Option Int) : Opening where
  retentionRevision
  snapshotCursor := world.clock.cursor primitives
  retiredBefore
  rows := world.rows

/-- One step of the client. -/
def advanceWalk (walk : Walk Trace) :
    Action Trace → Option (Option (Walk Trace) × Option (DetailQueryPage Trace))
  | .follow =>
    match walk.phase, walk.pages.getLast?.bind (·.nextCursor) with
    | .idle, some cursor =>
      let query := walk.query.turn .older cursor
      some (some { walk with
        phase := .begun query world.retentionRevision world.retiredBefore }, none)
    | _, _ => none
  | .readCursor =>
    match walk.phase with
    | .begun query retentionRevision retiredBefore =>
      let opening := world.opening primitives retentionRevision retiredBefore
      some (some { walk with
        phase := .scanning ⟨query, opening, fun _ => none, spannedDays query.filter⟩
        first := walk.first <|> some opening }, none)
    | _ => none
  | .scan =>
    match walk.phase with
    | .scanning ⟨query, opening, scanned, day :: remaining⟩ =>
      some (some { walk with
        phase := .scanning ⟨query, opening,
          Function.update scanned day (world.acquireRead day), remaining⟩ }, none)
    | _ => none
  | .answer availableFromUtcMillis =>
    match walk.phase with
    | .scanning ⟨query, opening, scanned, []⟩ =>
      let reads := Call.reads ⟨query, opening, scanned, []⟩ world availableFromUtcMillis
      match queryDetails primitives reads.reads query with
      | .ok page => some (some (walk.add page), some page)
      | .error _ => some (none, none)
    | _ => none
  | .fail => some (none, none)
  | _ => none

def step (texts : Texts Trace) (primitives : Primitives Trace) (world : World Trace) :
    Action Trace → Option (World Trace × Option (DetailQueryPage Trace))
  | .commit dayUtc lastId records =>
    if (world.rows dayUtc).all fun row => decide (row.id ≤ lastId) then
      match applied : applyResolveRecords texts lastId records with
      | .ok rows =>
        some (world.commit ⟨dayUtc, records, rows, length_applyResolveRecords applied⟩, none)
      | .error _ => none
    else none
  | .publish index =>
    match world.unpublished[index]? with
    | some write => some (world.publish primitives index write, none)
    | none => none
  | .abandon index =>
    match world.unpublished[index]? with
    | some write => some (world.abandon index write, none)
    | none => none
  | .publishRetiredBefore dayUtc =>
    if decide (-2 ^ 31 ≤ dayUtc) && decide (dayUtc < 2 ^ 31) then
      if world.retiredBefore.all fun current => decide (current < dayUtc) then
        some (world.retire dayUtc, none)
      else some (world, none)
    else none
  | .beginRetirement dayUtc =>
    -- The coordinator retires the days below the published watermark.
    if unretired world.retiredBefore dayUtc then none
    else some ({ world with retiringDays := dayUtc :: world.retiringDays }, none)
  | .stop => some ({ world with stopping := true }, none)
  | .request query =>
    let phase := .begun query world.retentionRevision world.retiredBefore
    some ({ world with walk := some ⟨query, [], phase, none⟩ }, none)
  | action =>
    match world.walk with
    | some walk => (advanceWalk primitives world walk action).map fun (walk, page) =>
      ({ world with walk }, page)
    | none => none

end FluxDns.Management.Handoff
