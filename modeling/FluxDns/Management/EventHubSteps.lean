import FluxDns.Management.EventHub
import FluxDns.Management.ReplayBuffer

/-!
# Steps of the event hub

All that a step of the hub can do, and what holds between any two steps: the numbers of the commits
grow within an epoch, no commit is under way twice, the buffer is filled, and every subscription was
sent the commits from its start up to its cursor.
-/

namespace FluxDns.Management.EventHub

open Storage Execution List World AList

variable {Trace Item : Type} {primitives : Primitives Trace} {world next : World Trace}
  {replay : ReplayState Trace} {notification : DetailCommitNotification Trace} {phase : Phase Trace}

def Phase.isReading : Phase Trace → Bool
  | .idle | .cursorRead _ | .revisionRead _ _ => true
  | .sending _ => false

def Hub.isRunning : Hub Trace → Bool
  | .running _ _ => true
  | _ => false

/-- All that a step can do. -/
inductive Effect (primitives : Primitives Trace) (world : World Trace) :
    Action Trace Item → Output Trace Item → World Trace → Prop
  | number (dayUtc : Int) (records : List (ResolveDetailRecord Trace)) (rowIds : List Int) :
      Effect primitives world (.number dayUtc records rowIds) .done
        (world.number primitives dayUtc records rowIds)
  | send {index : Nat} {notification : DetailCommitNotification Trace}
      (found : world.publishing[index]? = some notification) :
      Effect primitives world (.send index) .done (world.send index notification)
  | environment (action : Action Trace Item) (channelClosed : Bool) (revision : UInt64)
      (now : Instant) :
      Effect primitives world action .done
        { world with channelClosed, retentionRevision := revision, now }
  | setup (action : Action Trace Item) {hub : Hub Trace} (absent : world.hub.isRunning = false)
      (unfinished : hub.isRunning = false) :
      Effect primitives world action .done { world with hub }
  | subscribeCommits {cursor : DetailCommitCursor} {revision : UInt64}
      (place : world.hub = .revisionRead cursor revision) :
      Effect primitives world .subscribeCommits .done
        { world with
          receiver := some ⟨[], false⟩
          hub := .running (.new cursor revision) .waiting }
  | receive {replay : ReplayState Trace} {receiver left : Receiver Trace}
      {collector : Collector Trace} (place : world.hub = .running replay .waiting)
      (subscribed : world.receiver = some receiver)
      (received : receive receiver world.channelClosed = some (left, collector)) :
      Effect primitives world .receive .done
        { world with receiver := some left, hub := .running replay collector }
  | push {replay : ReplayState Trace} {notification : DetailCommitNotification Trace}
      (place : world.hub = .running replay (.pushing notification)) :
      Effect primitives world .push .done
        { world with hub := .running (replay.push notification world.now) .waiting }
  | readGapCursor {replay : ReplayState Trace} {last : Bool}
      (place : world.hub = .running replay (.lagging last)) :
      Effect primitives world .readGapCursor .done
        { world with hub := .running replay (.marking (world.clock.cursor primitives) last) }
  | markReplayGap {replay : ReplayState Trace} {cursor : DetailCommitCursor} {last : Bool}
      (place : world.hub = .running replay (.marking cursor last)) :
      Effect primitives world .markReplayGap .done (world.markGap replay cursor last)
  | retentionTick {replay : ReplayState Trace} (place : world.hub = .running replay .waiting) :
      Effect primitives world .retentionTick .done
        { world with
          hub := .running ({ replay with
            retentionRevision := world.retentionRevision }.prune world.now) .waiting }
  | stopCollector {replay : ReplayState Trace} (place : world.hub = .running replay .waiting) :
      Effect primitives world .stopCollector .done
        { world with receiver := none, hub := .running replay .stopped }
  | subscribe {id : Nat} (after : DetailCommitCursor) (retentionRevision : Option UInt64)
      (free : world.subscriptions.lookup id = none) :
      Effect primitives world (.subscribe id after retentionRevision) .done
        (world.setSubscription id ⟨after, retentionRevision, .idle, after, []⟩)
  | unsubscribe (id : Nat) :
      Effect primitives world (.unsubscribe id) .done (world.removeSubscription id)
  | read (action : Action Trace Item) {id : Nat} {subscription : Subscription Trace}
      {phase : Phase Trace} (found : world.subscriptions.lookup id = some subscription)
      (reading : phase.isReading = true) :
      Effect primitives world action .done
        (world.setSubscription id { subscription with phase })
  | lookup {id : Nat} {subscription : Subscription Trace} {replay : ReplayState Trace}
      {collector : Collector Trace} {cursor : DetailCommitCursor} {revision : UInt64}
      {left : ReplayState Trace} {lookedUp : ReplayLookup Trace} {next : World Trace}
      {output : Output Trace Item} (found : world.subscriptions.lookup id = some subscription)
      (place : world.hub = .running replay collector)
      (phase : subscription.phase = .revisionRead cursor revision)
      (looked_up : replayAfter replay subscription.after subscription.retentionRevision cursor
        revision world.now = (left, lookedUp))
      (answered : { world with hub := .running left collector }.answer id subscription lookedUp =
        (next, output)) :
      Effect primitives world (.lookup id) output next
  | deliver {id : Nat} {subscription : Subscription Trace}
      {notification : DetailCommitNotification Trace}
      {pending : List (DetailCommitNotification Trace)} {projected : Option (String × List Item)}
      {accepted : Nat} {next : World Trace} {output : Output Trace Item}
      (found : world.subscriptions.lookup id = some subscription)
      (phase : subscription.phase = .sending (notification :: pending))
      (delivered : world.deliver id subscription notification pending projected accepted =
        (next, output)) :
      Effect primitives world (.deliver id projected accepted) output next

theorem step_effect {action : Action Trace Item} {output : Output Trace Item}
    (taken : step primitives world action = some (next, output)) :
    Effect primitives world action output next := by
  cases action with simp only [step] at taken
  | number dayUtc records rowIds =>
    split at taken <;> cases taken
    exact .number dayUtc records rowIds
  | send index =>
    split at taken <;> cases taken
    next found => exact .send found
  | closeChannel =>
    split at taken <;> cases taken
    exact .environment _ true _ _
  | advanceRetentionRevision =>
    cases taken
    exact .environment _ _ (advanceRevision world.retentionRevision) _
  | tick duration =>
    cases taken
    exact .environment _ _ _ (world.now + duration)
  | readCursor | readRevision =>
    split at taken <;> cases taken
    next place => exact .setup _ (by rw [place]; rfl) rfl
  | subscribeCommits =>
    split at taken <;> cases taken
    next place => exact .subscribeCommits place
  | receive =>
    split at taken <;> try cases taken
    next place subscribed =>
    obtain ⟨⟨left, collector⟩, received, same⟩ := Option.map_eq_some_iff.mp taken
    cases same
    exact .receive place subscribed received
  | push =>
    split at taken <;> cases taken
    next place => exact .push place
  | readGapCursor =>
    split at taken <;> cases taken
    next place => exact .readGapCursor place
  | markReplayGap =>
    split at taken <;> cases taken
    next place => exact .markReplayGap place
  | retentionTick =>
    split at taken <;> cases taken
    next place => exact .retentionTick place
  | stopCollector =>
    split at taken <;> cases taken
    next place => exact .stopCollector place
  | subscribe id after retentionRevision =>
    split at taken <;> cases taken
    next free => exact .subscribe after retentionRevision (by simpa using free)
  | unsubscribe id =>
    cases taken
    exact .unsubscribe id
  | lookup id =>
    split at taken <;> try cases taken
    next found place =>
    split at taken <;> try cases taken
    next phase => exact .lookup found place phase rfl (Option.some.inj taken)
  | deliver id projected accepted =>
    split at taken <;> try cases taken
    next found =>
    split at taken <;> try cases taken
    next phase => exact .deliver found phase (Option.some.inj taken)
  | _ =>
    split at taken <;> try cases taken
    next found =>
    split at taken <;> cases taken
    exact .read _ found rfl

/-- The numbers of the commits grow within an epoch, up to the number of the clock. -/
structure Ordered (primitives : Primitives Trace) (clock : CommitClock)
    (log : List (DetailCommitNotification Trace)) : Prop where
  increasing : log.Pairwise fun earlier later =>
    earlier.cursor.epoch = later.cursor.epoch → earlier.cursor.sequence < later.cursor.sequence
  reached : ∀ commit ∈ log, commit.cursor.epoch = (clock.cursor primitives).epoch →
    commit.cursor.sequence ≤ clock.sequence

def FreshEpoch (primitives : Primitives Trace) (clock : CommitClock)
    (log : List (DetailCommitNotification Trace)) : Prop :=
  clock.sequence = maxSequence →
    ∀ commit ∈ log, commit.cursor.epoch ≠ ((clock.advance primitives).cursor primitives).epoch

section Numbers

variable {clock : CommitClock} {log : List (DetailCommitNotification Trace)}
  {commit : DetailCommitNotification Trace}

variable (ordered : Ordered primitives clock log)

include ordered

variable (fresh : FreshEpoch primitives clock log)

include fresh

/-- The next number is above all numbers of its epoch. -/
theorem Ordered.lt_advance (mem : commit ∈ log)
    (same_epoch : commit.cursor.epoch = ((clock.advance primitives).cursor primitives).epoch) :
    commit.cursor.sequence < (clock.advance primitives).sequence := by
  by_cases used_up : clock.sequence = maxSequence
  · exact absurd same_epoch (fresh used_up commit mem)
  · simp only [CommitClock.advance, used_up, if_false] at same_epoch ⊢
    have below := UInt64.le_iff_toNat_le.mp (ordered.reached commit mem same_epoch)
    rw [UInt64.lt_iff_toNat_lt, toNat_succ_of_ne_max used_up]
    omega

theorem Ordered.number (numbered : commit.cursor = (clock.advance primitives).cursor primitives) :
    Ordered primitives (clock.advance primitives) (log ++ [commit]) where
  increasing := by
    rw [pairwise_append]
    refine ⟨ordered.increasing, pairwise_singleton _ _, ?_⟩
    intro earlier mem later appended same_epoch
    rw [mem_singleton.mp appended, numbered] at same_epoch ⊢
    exact ordered.lt_advance fresh mem same_epoch
  reached := by
    intro other mem same_epoch
    rcases mem_append.mp mem with old | appended
    · exact UInt64.le_of_lt (ordered.lt_advance fresh old same_epoch)
    · rw [mem_singleton.mp appended, numbered]
      exact UInt64.le_refl _

theorem Ordered.cursor_notMem :
    (clock.advance primitives).cursor primitives ∉ log.map (·.cursor) := by
  intro mem
  obtain ⟨commit, logged, same⟩ := mem_map.mp mem
  have below := ordered.lt_advance fresh logged (congrArg DetailCommitCursor.epoch same)
  rw [same] at below
  exact absurd below (UInt64.lt_irrefl _)

end Numbers

/-- The commits in the buffer and in the hand of the collector. -/
def Hub.commits : Hub Trace → List (DetailCommitNotification Trace)
  | .running replay (.pushing notification) => replay.commits ++ [notification]
  | .running replay _ => replay.commits
  | _ => []

variable (world)

/-- The retained messages of the channel. -/
def World.queue : List (DetailCommitNotification Trace) :=
  (world.receiver.map (·.queue)).getD []

/-- The commits from the buffer back to the publishers. -/
def World.carried : List (DetailCommitNotification Trace) :=
  world.hub.commits ++ (world.queue ++ world.publishing)

/-- Commits under way are logged, each of them is under way once. -/
structure Custody : Prop where
  logged : ∀ commit ∈ world.carried, commit ∈ world.log
  nodup : (world.carried.map (·.cursor)).Nodup

variable {world}

theorem Custody.of_subperm (custody : Custody world) (log_eq : next.log = world.log)
    (fewer : next.carried.Subperm world.carried) : Custody next := by
  refine ⟨fun commit mem => log_eq ▸ custody.logged commit (fewer.subset mem), ?_⟩
  obtain ⟨kept, perm, sublist⟩ := fewer
  exact (perm.map _).nodup_iff.mp ((sublist.map _).nodup custody.nodup)

theorem queue_send_sublist (receiver : Receiver Trace)
    (notification : DetailCommitNotification Trace) :
    (receiver.send notification).queue.Sublist (receiver.queue ++ [notification]) := by
  unfold Receiver.send
  split
  · exact .refl _
  · exact (tail_sublist _).append_right _

theorem carried_send {index : Nat} (found : world.publishing[index]? = some notification) :
    (world.send index notification).carried.Subperm world.carried := by
  obtain ⟨in_range, rfl⟩ := List.getElem?_eq_some_iff.mp found
  have taken : (world.publishing[index] :: world.publishing.eraseIdx index).Perm
      world.publishing := getElem_cons_eraseIdx_perm in_range
  unfold carried queue World.send
  apply List.Subperm.append (.refl _)
  cases subscribed : world.receiver with
  | none => exact (sublist_cons_self _ _).subperm.trans taken.subperm
  | some receiver =>
    have sent := (queue_send_sublist receiver world.publishing[index]).subperm.append
      (.refl (world.publishing.eraseIdx index))
    refine sent.trans ?_
    rw [append_assoc, singleton_append]
    exact (taken.append_left _).subperm

theorem carried_receive {receiver left : Receiver Trace} {collector : Collector Trace}
    (place : world.hub = .running replay .waiting) (subscribed : world.receiver = some receiver)
    (received : receive receiver world.channelClosed = some (left, collector)) :
    ({ world with receiver := some left, hub := .running replay collector } :
      World Trace).carried = world.carried := by
  unfold receive at received
  unfold carried queue
  rw [place, subscribed]
  split at received
  · cases received
    rfl
  · split at received
    · next notification queue found =>
      cases received
      simp [Hub.commits, found]
    · split at received <;> cases received
      rfl

/-- The commits that a lookup hands over are those above the cursor up to the current one. -/
theorem lookupAfter_ready (filled : replay.Filled) {after storeCursor : DetailCommitCursor}
    {expected : UInt64} {commits : List (DetailCommitNotification Trace)}
    (ready : lookupAfter replay after expected storeCursor = .ready commits) :
    after.epoch = replay.epoch ∧
      Consecutive replay.epoch after.sequence.toNat replay.currentSequence.toNat commits ∧
      ∀ commit ∈ commits, commit ∈ replay.commits := by
  unfold lookupAfter at ready
  split at ready <;> try cases ready
  split at ready <;> try cases ready
  next same_epoch =>
  split at ready
  · split at ready <;> cases ready
  · next reached =>
    split at ready
    · cases ready
    · next covered =>
      have filtered : commits = replay.commits.filter fun commit =>
          decide (after.sequence < commit.cursor.sequence) := by
        rw [ReplayLookup.ready.injEq] at ready
        rw [← ready, ReplayState.commits, filter_map]
        rfl
      subst filtered
      refine ⟨not_not.mp same_epoch, ?_, fun commit => mem_of_mem_filter⟩
      have floor_le := UInt64.le_iff_toNat_le.mp (UInt64.not_lt.mp covered)
      have le_current := UInt64.le_iff_toNat_le.mp (UInt64.not_lt.mp reached)
      rcases filled with consecutive | exhausted
      · exact consecutive.filter_above floor_le le_current
      · -- Above the largest number there is nothing to hand over.
        rw [exhausted.floor_eq] at floor_le
        rw [exhausted.current_eq] at le_current ⊢
        have after_eq : after.sequence = maxSequence :=
          UInt64.toNat_inj.mp (le_antisymm le_current floor_le)
        have nothing : (replay.commits.filter fun commit =>
            decide (after.sequence < commit.cursor.sequence)) = [] := by
          rw [filter_eq_nil_iff]
          intro commit mem
          rw [after_eq, exhausted.last commit mem]
          simp
        rw [nothing, after_eq]
        exact .nil _ _

theorem replayAfter_sound {left : ReplayState Trace} (sound : replay.Sound)
    {after storeCursor : DetailCommitCursor} {retentionRevision : Option UInt64}
    {currentRetention : UInt64} {now : Instant} {lookedUp : ReplayLookup Trace}
    (looked_up : replayAfter replay after retentionRevision storeCursor currentRetention now =
      (left, lookedUp)) :
    left.Sound ∧ left.commits.Sublist replay.commits ∧
      ∀ commits, lookedUp = .ready commits →
        ∃ expected, lookupAfter left after expected storeCursor = .ready commits := by
  unfold replayAfter at looked_up
  split at looked_up <;> cases looked_up
  · exact ⟨sound, .refl _, nofun⟩
  · exact ⟨(sound.setRevision _).prune _, ReplayState.commits_popWhile_sublist _ _ _ _,
      fun commits found => ⟨_, found⟩⟩

/-- The commits that are still to be sent. -/
def Phase.pending : Phase Trace → List (DetailCommitNotification Trace)
  | .sending pending => pending
  | _ => []

theorem Phase.pending_of_isReading (reading : phase.isReading = true) : phase.pending = [] := by
  cases phase with
  | sending pending => cases reading
  | _ => rfl

/-- A subscription was sent the commits from its start to its cursor, and the next ones follow. -/
structure Served (log : List (DetailCommitNotification Trace))
    (subscription : Subscription Trace) : Prop where
  same_epoch : subscription.after.epoch = subscription.start.epoch
  delivered : Consecutive subscription.start.epoch subscription.start.sequence.toNat
    subscription.after.sequence.toNat subscription.delivered
  pending : ∃ high : UInt64, Consecutive subscription.start.epoch
    subscription.after.sequence.toNat high.toNat subscription.phase.pending
  logged : ∀ commit ∈ subscription.delivered ++ subscription.phase.pending, commit ∈ log

section Subscriptions

variable {log : List (DetailCommitNotification Trace)} {subscription : Subscription Trace}

theorem served_new (log : List (DetailCommitNotification Trace)) (after : DetailCommitCursor)
    (retentionRevision : Option UInt64) : Served log ⟨after, retentionRevision, .idle, after, []⟩ :=
  ⟨rfl, .nil _ _, ⟨_, .nil _ _⟩, fun _ mem => (nomatch mem)⟩

variable (served : Served log subscription)

include served

theorem Served.grow {more : List (DetailCommitNotification Trace)} :
    Served (log ++ more) subscription :=
  { served with logged := fun commit mem => mem_append_left _ (served.logged commit mem) }

theorem Served.read (reading : phase.isReading = true) :
    Served log { subscription with phase } := by
  have nothing := phase.pending_of_isReading reading
  refine ⟨served.same_epoch, served.delivered, ⟨subscription.after.sequence, ?_⟩,
    fun commit mem => ?_⟩
  · rw [nothing]
    exact .nil _ _
  · rw [nothing, append_nil] at mem
    exact served.logged commit (mem_append_left _ mem)

theorem Served.ready {high : UInt64} {commits : List (DetailCommitNotification Trace)}
    (consecutive :
      Consecutive subscription.after.epoch subscription.after.sequence.toNat high.toNat commits)
    (logged : ∀ commit ∈ commits, commit ∈ log) :
    Served log { subscription with phase := .sending commits } := by
  refine ⟨served.same_epoch, served.delivered, ⟨high, served.same_epoch ▸ consecutive⟩, ?_⟩
  intro commit mem
  rcases mem_append.mp mem with delivered | pending
  · exact served.logged commit (mem_append_left _ delivered)
  · exact logged commit pending

theorem Served.deliver {pending : List (DetailCommitNotification Trace)}
    (phase : subscription.phase = .sending (notification :: pending)) :
    Served log { subscription with
      after := notification.cursor
      phase := .sending pending
      delivered := subscription.delivered ++ [notification] } := by
  obtain ⟨high, consecutive⟩ := served.pending
  rw [phase] at consecutive
  obtain ⟨number, rest⟩ := consecutive.of_cons
  have epoch_eq := consecutive.epoch_eq notification mem_cons_self
  have extended := served.delivered.append (.singleton epoch_eq number)
  rw [← number] at rest extended
  refine ⟨epoch_eq, extended, ⟨high, rest⟩, fun commit mem => served.logged commit ?_⟩
  rw [phase]
  simpa [Phase.pending] using mem

end Subscriptions

/-- What holds between any two steps. -/
structure Invariant (primitives : Primitives Trace) (world : World Trace) : Prop where
  ordered : Ordered primitives world.clock world.log
  custody : Custody world
  sound : ∀ replay collector, world.hub = .running replay collector → replay.Sound
  served : ∀ id subscription, world.subscriptions.lookup id = some subscription →
    Served world.log subscription

theorem invariant_initial (primitives : Primitives Trace) (epoch : List UInt8) :
    Invariant primitives (initial epoch : World Trace) where
  ordered := ⟨.nil, fun _ mem => (nomatch mem)⟩
  custody := ⟨fun _ mem => (nomatch mem), .nil⟩
  sound := nofun
  served := fun id subscription found => by
    rw [initial, lookup_empty] at found
    cases found

variable (inv : Invariant primitives world)

include inv

theorem Invariant.setSubscription (id : Nat)
    {subscription : Subscription Trace} (served : Served world.log subscription) :
    Invariant primitives (world.setSubscription id subscription) where
  __ := inv
  custody := ⟨inv.custody.logged, inv.custody.nodup⟩
  served := forall_lookup_insert served inv.served

theorem Invariant.removeSubscription (id : Nat) :
    Invariant primitives (world.removeSubscription id) where
  __ := inv
  custody := ⟨inv.custody.logged, inv.custody.nodup⟩
  served := fun other subscription found =>
    inv.served other subscription (lookup_of_lookup_erase found)

/-- A step that moves commits on and leaves the subscriptions alone. -/
theorem Invariant.move
    (same : next.clock = world.clock ∧ next.log = world.log ∧
      next.subscriptions = world.subscriptions)
    (fewer : next.carried.Subperm world.carried)
    (sound : ∀ replay collector, next.hub = .running replay collector → replay.Sound) :
    Invariant primitives next := by
  obtain ⟨clock_eq, log_eq, subscriptions_eq⟩ := same
  refine ⟨?_, inv.custody.of_subperm log_eq fewer, sound, ?_⟩
  · rw [clock_eq, log_eq]
    exact inv.ordered
  · rw [log_eq, subscriptions_eq]
    exact inv.served

end FluxDns.Management.EventHub
