import FluxDns.Library.Execution
import FluxDns.Management.Replay

/-!
# The event hub

Commits are numbered and announced on a broadcast channel; a collector moves them to the replay
buffer, and subscriptions read the buffer after their cursors.  The steps of the publishers, the
collector and the subscriptions interleave freely.
-/

namespace FluxDns.Management.EventHub

open Storage

variable {Trace Item : Type}

def commitChannelCapacity : Nat := 16

/-- The collector's end of the channel: the retained messages, and whether messages were
overwritten since it last received one. -/
structure Receiver (Trace : Type) where
  queue : List (DetailCommitNotification Trace)
  lagged : Bool

/-- A message that finds the channel full overwrites the oldest one. -/
def Receiver.send (receiver : Receiver Trace) (notification : DetailCommitNotification Trace) :
    Receiver Trace :=
  if receiver.queue.length < commitChannelCapacity then
    { receiver with queue := receiver.queue ++ [notification] }
  else ⟨receiver.queue.tail ++ [notification], true⟩

/-- The place of the collector in its loop; `last` marks the gap of a closed channel. -/
inductive Collector (Trace : Type) where
  | waiting
  | pushing (notification : DetailCommitNotification Trace)
  | lagging (last : Bool)
  | marking (cursor : DetailCommitCursor) (last : Bool)
  | stopped

/-- The construction of the hub and its state afterwards. -/
inductive Hub (Trace : Type) where
  | absent
  | cursorRead (cursor : DetailCommitCursor)
  | revisionRead (cursor : DetailCommitCursor) (revision : UInt64)
  | running (replay : ReplayState Trace) (collector : Collector Trace)

/-- The place of a subscription in `queue_query_updates`. -/
inductive Phase (Trace : Type) where
  | idle
  | cursorRead (storeCursor : DetailCommitCursor)
  | revisionRead (storeCursor : DetailCommitCursor) (revision : UInt64)
  | sending (pending : List (DetailCommitNotification Trace))

/-- A subscription; the revision is nothing when its text is no number.  No step reads the cursor
it started with nor the commits it was sent. -/
structure Subscription (Trace : Type) where
  after : DetailCommitCursor
  retentionRevision : Option UInt64
  phase : Phase Trace
  start : DetailCommitCursor
  delivered : List (DetailCommitNotification Trace)

/-- The store's commits, the hub and its subscribers. -/
structure World (Trace : Type) where
  clock : CommitClock
  /-- Commits that have a number and are not sent yet. -/
  publishing : List (DetailCommitNotification Trace)
  /-- Nothing before the hub subscribes and after the collector has ended. -/
  receiver : Option (Receiver Trace)
  channelClosed : Bool
  retentionRevision : UInt64
  now : Instant
  hub : Hub Trace
  subscriptions : Map Nat (Subscription Trace)
  /-- All numbered commits; no step reads it. -/
  log : List (DetailCommitNotification Trace)

/-- A new store before the hub is built. -/
def World.initial (epoch : List UInt8) : World Trace where
  clock := ⟨epoch, 0⟩
  publishing := []
  receiver := none
  channelClosed := false
  retentionRevision := 0
  now := 0
  hub := .absent
  subscriptions := ∅
  log := []

/-- `ServerMessage::Queries`. -/
structure QueriesMessage (Item : Type) where
  cursor : DetailCommitCursor
  directoryRevision : String
  items : List Item

inductive Action (Trace Item : Type) where
  /-- A commit gets its number. -/
  | number (dayUtc : Int) (records : List (ResolveDetailRecord Trace)) (rowIds : List Int)
  /-- A numbered commit is sent. -/
  | send (index : Nat)
  | closeChannel
  | advanceRetentionRevision
  | tick (duration : Duration)
  /-- The three steps of `EventHub::new`. -/
  | readCursor
  | readRevision
  | subscribeCommits
  /-- The steps of `collect_commits`. -/
  | receive
  | push
  | readGapCursor
  | markReplayGap
  | retentionTick
  | stopCollector
  | subscribe (id : Nat) (after : DetailCommitCursor) (retentionRevision : Option UInt64)
  /-- The client unsubscribes or its connection ends. -/
  | unsubscribe (id : Nat)
  /-- The steps of `queue_query_updates`.  A delivery has the projected records, or nothing when
  the projection fails, and the number of messages that the connection accepts. -/
  | lookCursor (id : Nat)
  | lookRevision (id : Nat)
  | lookup (id : Nat)
  | deliver (id : Nat) (projected : Option (String × List Item)) (accepted : Nat)
  | finish (id : Nat)

inductive Output (Trace Item : Type) where
  | done
  | ready (id : Nat) (commits : List (DetailCommitNotification Trace))
  | pending (id : Nat)
  | resync (id : Nat) (reason : ResyncReason)
  | sent (id : Nat) (messages : List (QueriesMessage Item))
  | closed (id : Nat) (messages : List (QueriesMessage Item))

inductive ReplayLookup (Trace : Type) where
  | ready (commits : List (DetailCommitNotification Trace))
  | pending
  | resync (reason : ResyncReason)

/-- The checks of `replay_after` under the lock of the buffer. -/
def lookupAfter (replay : ReplayState Trace) (after : DetailCommitCursor) (expected : UInt64)
    (storeCursor : DetailCommitCursor) : ReplayLookup Trace :=
  if expected ≠ replay.retentionRevision then .resync .retentionChanged
  else if after.epoch ≠ replay.epoch then .resync .epochChanged
  else if replay.currentSequence < after.sequence then
    if storeCursor.epoch = replay.epoch ∧ after.sequence ≤ storeCursor.sequence then .pending
    else .resync .cursorExpired
  else if after.sequence < replay.floorSequence then .resync replay.floorReason
  else .ready ((replay.entries.filter fun entry =>
    decide (after.sequence < entry.notification.cursor.sequence)).map (·.notification))

/-- `replay_after` with the cursor and the revision of the store that it has read. -/
def replayAfter (replay : ReplayState Trace) (after : DetailCommitCursor)
    (retentionRevision : Option UInt64) (storeCursor : DetailCommitCursor)
    (currentRetention : UInt64) (now : Instant) : ReplayState Trace × ReplayLookup Trace :=
  match retentionRevision with
  | none => (replay, .resync .cursorExpired)
  | some expected =>
    let replay := { replay with retentionRevision := currentRetention }.prune now
    (replay, lookupAfter replay after expected storeCursor)

/-- The messages for one commit: its items in parts of a hundred, or one message without items. -/
def queriesMessages (cursor : DetailCommitCursor) (directoryRevision : String)
    (items : List Item) : List (QueriesMessage Item) :=
  if items.isEmpty then [⟨cursor, directoryRevision, []⟩]
  else (items.toChunks 100).map (⟨cursor, directoryRevision, ·⟩)

variable (world : World Trace)

def World.setSubscription (id : Nat) (subscription : Subscription Trace) :
    World Trace :=
  { world with subscriptions := world.subscriptions.insert id subscription }

def World.removeSubscription (id : Nat) : World Trace :=
  { world with subscriptions := world.subscriptions.erase id }

/-- `publish_commit` up to the end of its critical section. -/
def World.number (primitives : Primitives Trace) (world : World Trace) (dayUtc : Int)
    (records : List (ResolveDetailRecord Trace)) (rowIds : List Int) : World Trace :=
  let clock := world.clock.advance primitives
  let notification := .new primitives (clock.cursor primitives) dayUtc records rowIds
  { world with
    clock := clock
    publishing := world.publishing ++ [notification]
    log := world.log ++ [notification] }

def World.send (index : Nat) (notification : DetailCommitNotification Trace) : World Trace :=
  { world with
    publishing := world.publishing.eraseIdx index
    receiver := world.receiver.map (·.send notification) }

/-- The collector marks a gap and may end. -/
def World.markGap (replay : ReplayState Trace) (cursor : DetailCommitCursor) (last : Bool) :
    World Trace :=
  { world with
    receiver := if last then none else world.receiver
    hub := .running (replay.markGap cursor .observationGap) (if last then .stopped else .waiting) }

/-- The next step of the collector after a call of `recv`. -/
def receive (receiver : Receiver Trace) (channelClosed : Bool) :
    Option (Receiver Trace × Collector Trace) :=
  if receiver.lagged then some ({ receiver with lagged := false }, .lagging false)
  else
    match receiver.queue with
    | notification :: queue => some ({ receiver with queue := queue }, .pushing notification)
    | [] => if channelClosed then some (receiver, .lagging true) else none

def World.answer (id : Nat) (subscription : Subscription Trace) :
    ReplayLookup Trace → World Trace × Output Trace Item
  | .ready commits =>
    (world.setSubscription id { subscription with phase := .sending commits },
      .ready id commits)
  | .pending => (world.setSubscription id { subscription with phase := .idle }, .pending id)
  | .resync reason => (world.removeSubscription id, .resync id reason)

def World.deliver (id : Nat) (subscription : Subscription Trace)
    (notification : DetailCommitNotification Trace)
    (pending : List (DetailCommitNotification Trace)) (projected : Option (String × List Item))
    (accepted : Nat) : World Trace × Output Trace Item :=
  match projected with
  | none => (world.removeSubscription id, .resync id .observationGap)
  | some (directoryRevision, items) =>
    let messages := queriesMessages notification.cursor directoryRevision items
    if accepted < messages.length then
      (world.removeSubscription id, .closed id (messages.take accepted))
    else
      (world.setSubscription id { subscription with
        after := notification.cursor
        phase := .sending pending
        delivered := subscription.delivered ++ [notification] }, .sent id messages)

/-- One step of the system. -/
def step (primitives : Primitives Trace) (world : World Trace) :
    Action Trace Item → Option (World Trace × Output Trace Item)
  | .number dayUtc records rowIds =>
    if world.channelClosed then none
    else some (world.number primitives dayUtc records rowIds, .done)
  | .send index =>
    match world.publishing[index]? with
    | none => none
    | some notification => some (world.send index notification, .done)
  | .closeChannel =>
    if world.publishing.isEmpty then some ({ world with channelClosed := true }, .done) else none
  | .advanceRetentionRevision =>
    some ({ world with retentionRevision := advanceRevision world.retentionRevision }, .done)
  | .tick duration => some ({ world with now := world.now + duration }, .done)
  | .readCursor =>
    match world.hub with
    | .absent => some ({ world with hub := .cursorRead (world.clock.cursor primitives) }, .done)
    | _ => none
  | .readRevision =>
    match world.hub with
    | .cursorRead cursor =>
      some ({ world with hub := .revisionRead cursor world.retentionRevision }, .done)
    | _ => none
  | .subscribeCommits =>
    match world.hub with
    | .revisionRead cursor revision => some ({ world with
        receiver := some ⟨[], false⟩
        hub := .running (.new cursor revision) .waiting }, .done)
    | _ => none
  | .receive =>
    match world.hub, world.receiver with
    | .running replay .waiting, some receiver =>
      (receive receiver world.channelClosed).map fun (receiver, collector) =>
        ({ world with receiver := some receiver, hub := .running replay collector }, .done)
    | _, _ => none
  | .push =>
    match world.hub with
    | .running replay (.pushing notification) =>
      some ({ world with hub := .running (replay.push notification world.now) .waiting }, .done)
    | _ => none
  | .readGapCursor =>
    match world.hub with
    | .running replay (.lagging last) => some ({ world with
        hub := .running replay (.marking (world.clock.cursor primitives) last) }, .done)
    | _ => none
  | .markReplayGap =>
    match world.hub with
    | .running replay (.marking cursor last) => some (world.markGap replay cursor last, .done)
    | _ => none
  | .retentionTick =>
    match world.hub with
    | .running replay .waiting => some ({ world with
        hub := .running ({ replay with
          retentionRevision := world.retentionRevision }.prune world.now) .waiting }, .done)
    | _ => none
  | .stopCollector =>
    match world.hub with
    | .running replay .waiting =>
      some ({ world with receiver := none, hub := .running replay .stopped }, .done)
    | _ => none
  | .subscribe id after retentionRevision =>
    if (world.subscriptions.lookup id).isSome then none
    else some (world.setSubscription id ⟨after, retentionRevision, .idle, after, []⟩, .done)
  | .unsubscribe id => some (world.removeSubscription id, .done)
  | .lookCursor id =>
    match world.subscriptions.lookup id with
    | some subscription =>
      match subscription.phase with
      | .idle => some (world.setSubscription id { subscription with
          phase := .cursorRead (world.clock.cursor primitives) }, .done)
      | _ => none
    | none => none
  | .lookRevision id =>
    match world.subscriptions.lookup id with
    | some subscription =>
      match subscription.phase with
      | .cursorRead cursor => some (world.setSubscription id { subscription with
          phase := .revisionRead cursor world.retentionRevision }, .done)
      | _ => none
    | none => none
  | .lookup id =>
    match world.subscriptions.lookup id, world.hub with
    | some subscription, .running replay collector =>
      match subscription.phase with
      | .revisionRead cursor revision =>
        let (replay, found) := replayAfter replay subscription.after
          subscription.retentionRevision cursor revision world.now
        some ({ world with hub := .running replay collector }.answer id subscription found)
      | _ => none
    | _, _ => none
  | .deliver id projected accepted =>
    match world.subscriptions.lookup id with
    | some subscription =>
      match subscription.phase with
      | .sending (notification :: pending) =>
        some (world.deliver id subscription notification pending projected accepted)
      | _ => none
    | none => none
  | .finish id =>
    match world.subscriptions.lookup id with
    | some subscription =>
      match subscription.phase with
      | .sending [] => some (world.setSubscription id { subscription with phase := .idle }, .done)
      | _ => none
    | none => none

end FluxDns.Management.EventHub
