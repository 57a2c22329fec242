import FluxDns.Storage.CommitClock

/-!
# The replay buffer

The management service keeps the commits of the last minute, so that a subscription can go on from
its cursor.  The buffer has a floor: commits up to the floor may be missing, those above it are
present up to the current one.
-/

namespace FluxDns.Management

open Storage

variable {Trace : Type}

inductive ResyncReason where
  | epochChanged
  | cursorExpired
  | bufferOverflow
  | observationGap
  | retentionChanged

def replaySeconds : Nat := 60

def replayRecords : Nat := 5000

def replayBytes : Nat := 8 * 1024 * 1024

/-- A commit in the replay buffer. -/
structure ReplayEntry (Trace : Type) where
  receivedAt : Instant
  notification : DetailCommitNotification Trace
  bytes : Nat

/-- The replay buffer. -/
structure ReplayState (Trace : Type) where
  epoch : String
  currentSequence : UInt64
  retentionRevision : UInt64
  floorSequence : UInt64
  floorReason : ResyncReason
  records : Nat
  bytes : Nat
  entries : List (ReplayEntry Trace)

/-- `saturating_add(1)`. -/
def saturatingSucc (sequence : UInt64) : UInt64 :=
  if sequence = maxSequence then sequence else sequence + 1

namespace ReplayState

def new (cursor : DetailCommitCursor) (retentionRevision : UInt64) : ReplayState Trace where
  epoch := cursor.epoch
  currentSequence := cursor.sequence
  retentionRevision := retentionRevision
  floorSequence := cursor.sequence
  floorReason := .cursorExpired
  records := 0
  bytes := 0
  entries := []

variable (replay : ReplayState Trace)

def markGap (cursor : DetailCommitCursor) (reason : ResyncReason) : ReplayState Trace :=
  { replay with
    epoch := cursor.epoch
    currentSequence := cursor.sequence
    floorSequence := cursor.sequence
    floorReason := reason
    records := 0
    bytes := 0
    entries := [] }

def popFront (reason : ResyncReason) : ReplayState Trace :=
  match replay.entries with
  | [] => replay
  | entry :: entries =>
    { replay with
      entries := entries
      records := replay.records - entry.notification.records.length
      bytes := replay.bytes - entry.bytes
      floorSequence := max replay.floorSequence entry.notification.cursor.sequence
      floorReason := reason }

/-- A `while` loop around `popFront`, bounded by the number of rounds. -/
def popWhile (condition : ReplayState Trace → Bool) (reason : ResyncReason) :
    Nat → ReplayState Trace → ReplayState Trace
  | 0, replay => replay
  | rounds + 1, replay =>
    if condition replay then popWhile condition reason rounds (replay.popFront reason)
    else replay

/-- The oldest entry has been kept for its time. -/
def isExpired (now : Instant) (replay : ReplayState Trace) : Bool :=
  replay.entries.head?.any fun entry =>
    decide (replaySeconds * second ≤ now.saturatingDurationSince entry.receivedAt)

def prune (now : Instant) : ReplayState Trace :=
  popWhile (isExpired now) .cursorExpired replay.entries.length replay

/-- The buffer exceeds one of its limits. -/
def isOverfull : Bool :=
  decide (replayRecords < replay.records) || decide (replayBytes < replay.bytes)

variable (notification : DetailCommitNotification Trace)

def estimatedBytes : Nat :=
  (notification.records.map (·.estimatedReplayBytes)).sum

/-- The state of `push` after the new entry was appended. -/
def append (now : Instant) : ReplayState Trace :=
  { replay with
    currentSequence := notification.cursor.sequence
    records := replay.records + notification.records.length
    bytes := replay.bytes + estimatedBytes notification
    entries := replay.entries ++ [⟨now, notification, estimatedBytes notification⟩] }

def push (now : Instant) : ReplayState Trace :=
  if notification.cursor.epoch ≠ replay.epoch ∨
      notification.cursor.sequence ≠ saturatingSucc replay.currentSequence then
    replay.markGap notification.cursor .observationGap
  else
    let pruned := (replay.append notification now).prune now
    popWhile isOverfull .bufferOverflow pruned.entries.length pruned

end ReplayState

end FluxDns.Management
