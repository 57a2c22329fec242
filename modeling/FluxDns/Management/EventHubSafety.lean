import FluxDns.Management.EventHubSteps
import FluxDns.Storage.DetailPagination

/-!
# Subscriptions receive every commit once

In every interleaving, the buffer holds the commits above its floor and a subscription receives the
commits after its cursor in order, until it is told to synchronize again or is closed.
-/

namespace FluxDns.Management.EventHub

open Storage Execution ReplayState List World Option CommitClock

variable {Trace Item : Type} {primitives : Primitives Trace} {world next : World Trace}
  {replay : ReplayState Trace} {log : List (DetailCommitNotification Trace)}
  {commits : List (DetailCommitNotification Trace)} {collector : Collector Trace}
  {start : DetailCommitCursor} {action : Action Trace Item} {output : Output Trace Item}
  {left : ReplayState Trace} {clock : CommitClock}

theorem sound_of_hub_eq {hub : Hub Trace} (place : hub = .running replay collector)
    (sound : replay.Sound) : ∀ other place, hub = .running other place → other.Sound := by
  intro other elsewhere same
  cases place.symm.trans same
  exact sound

theorem carried_subperm (hub : next.hub.commits.Sublist world.hub.commits)
    (queue : next.queue.Sublist world.queue) (publishing : next.publishing = world.publishing) :
    next.carried.Subperm world.carried := by
  unfold carried
  rw [publishing]
  exact (hub.append (queue.append_right _)).subperm

theorem commits_of_not_running {hub : Hub Trace} (absent : hub.isRunning = false) :
    hub.commits = [] := by
  cases hub with
  | running replay collector => cases absent
  | _ => rfl

theorem commits_running_sublist (replay : ReplayState Trace) (collector : Collector Trace) :
    replay.commits.Sublist (Hub.running replay collector).commits := by
  cases collector with
  | pushing notification => exact sublist_append_left _ _
  | _ => exact .refl _

theorem commits_running_mono
    (fewer : left.commits.Sublist replay.commits) (collector : Collector Trace) :
    (Hub.running left collector).commits.Sublist (Hub.running replay collector).commits := by
  cases collector with
  | pushing notification => exact fewer.append_right _
  | _ => exact fewer

variable (inv : Invariant primitives world)

include inv

theorem Invariant.number (fresh : FreshEpoch primitives world.clock world.log) (dayUtc : Int)
    (records : List (ResolveDetailRecord Trace)) (rowIds : List Int) :
    Invariant primitives (world.number primitives dayUtc records rowIds) := by
  have new_cursor := inv.ordered.cursor_notMem fresh
  have carried_eq : (world.number primitives dayUtc records rowIds).carried = world.carried ++
      [.new primitives ((world.clock.advance primitives).cursor primitives) dayUtc records
        rowIds] := by
    simp [carried, World.number, World.queue]
  refine ⟨inv.ordered.number fresh rfl, ⟨?_, ?_⟩, inv.sound,
    fun id subscription found => (inv.served id subscription found).grow⟩
  · intro commit mem
    rw [carried_eq] at mem
    rcases mem_append.mp mem with old | numbered
    · exact mem_append_left _ (inv.custody.logged commit old)
    · exact mem_append_right _ numbered
  · rw [carried_eq, map_append, nodup_append]
    refine ⟨inv.custody.nodup, nodup_singleton _, ?_⟩
    intro cursor mem other same equal
    rw [map_singleton, mem_singleton] at same
    obtain ⟨commit, carried, rfl⟩ := mem_map.mp mem
    exact new_cursor (mem_map.mpr ⟨commit, inv.custody.logged commit carried, equal.trans same⟩)

theorem Invariant.push {notification : DetailCommitNotification Trace}
    (place : world.hub = .running replay (.pushing notification)) :
    Invariant primitives
      { world with hub := .running (replay.push notification world.now) .waiting } := by
  have new : notification.cursor ∉ replay.commits.map (·.cursor) := by
    have nodup := inv.custody.nodup
    rw [carried, place, Hub.commits, map_append, map_append] at nodup
    have apart := (nodup_append.mp (nodup_append.mp nodup).1).2.2
    intro mem
    exact apart _ mem notification.cursor (by simp) rfl
  refine inv.move ⟨rfl, rfl, rfl⟩ ?_ (sound_of_hub_eq rfl ?_)
  · unfold carried
    rw [place]
    exact (replay.commits_push_sublist notification world.now).subperm.append (.refl _)
  · exact (inv.sound replay _ place).push new world.now

theorem Invariant.lookup {id : Nat} {subscription : Subscription Trace}
    {storeCursor : DetailCommitCursor} {revision : UInt64} {lookedUp : ReplayLookup Trace}
    (found : world.subscriptions.lookup id = some subscription)
    (place : world.hub = .running replay collector)
    (looked_up : replayAfter replay subscription.after subscription.retentionRevision storeCursor
      revision world.now = (left, lookedUp))
    (answered : { world with hub := .running left collector }.answer id subscription lookedUp =
      (next, output)) : Invariant primitives next := by
  obtain ⟨sound, fewer, handed⟩ := replayAfter_sound (inv.sound _ _ place) looked_up
  have moved : Invariant primitives { world with hub := .running left collector } := by
    refine inv.move ⟨rfl, rfl, rfl⟩ (carried_subperm ?_ (.refl _) rfl) (sound_of_hub_eq rfl sound)
    rw [place]
    exact commits_running_mono fewer collector
  have served := inv.served id subscription found
  cases lookedUp with
  | ready commits =>
    cases answered
    obtain ⟨expected, ready⟩ := handed commits rfl
    obtain ⟨same_epoch, consecutive, buffered⟩ := lookupAfter_ready sound.filled ready
    refine moved.setSubscription id (served.ready (same_epoch ▸ consecutive) ?_)
    intro commit mem
    apply moved.custody.logged
    apply mem_append_left
    exact (commits_running_sublist left collector).subset (buffered commit mem)
  | pending =>
    cases answered
    exact moved.setSubscription id (served.read rfl)
  | resync reason =>
    cases answered
    exact moved.removeSubscription id

/-- Every step keeps the invariant, if a new epoch is not one of the old ones. -/
theorem Invariant.step (taken : step primitives world action = some (next, output))
    (fresh : ∀ dayUtc records rowIds, action = .number dayUtc records rowIds →
      FreshEpoch primitives world.clock world.log) : Invariant primitives next := by
  cases step_effect taken with
  | number dayUtc records rowIds =>
    exact inv.number (fresh dayUtc records rowIds rfl) dayUtc records rowIds
  | send found => exact inv.move ⟨rfl, rfl, rfl⟩ (carried_send found) inv.sound
  | environment action channelClosed revision now =>
    exact inv.move ⟨rfl, rfl, rfl⟩ (.refl _) inv.sound
  | setup action absent unfinished =>
    refine inv.move ⟨rfl, rfl, rfl⟩ (carried_subperm ?_ (.refl _) rfl) ?_
    · rw [commits_of_not_running unfinished]
      exact nil_sublist _
    · rintro replay collector rfl
      cases unfinished
  | subscribeCommits place =>
    exact inv.move ⟨rfl, rfl, rfl⟩
      (carried_subperm (nil_sublist _) (nil_sublist _) rfl)
      (sound_of_hub_eq rfl (sound_new _ _))
  | receive place subscribed received =>
    refine inv.move ⟨rfl, rfl, rfl⟩ ?_ (sound_of_hub_eq rfl (inv.sound _ _ place))
    rw [carried_receive place subscribed received]
  | push place => exact inv.push place
  | readGapCursor place =>
    refine inv.move ⟨rfl, rfl, rfl⟩ (carried_subperm ?_ (.refl _) rfl)
      (sound_of_hub_eq rfl (inv.sound _ _ place))
    rw [place]
    exact .refl _
  | @markReplayGap replay cursor last place =>
    refine inv.move ⟨rfl, rfl, rfl⟩ (carried_subperm ?_ ?_ rfl)
      (sound_of_hub_eq rfl (replay.sound_markGap cursor _))
    · cases last <;> exact nil_sublist _
    · cases last with
      | true => exact nil_sublist _
      | false => exact .refl _
  | @retentionTick replay place =>
    refine inv.move ⟨rfl, rfl, rfl⟩ (carried_subperm ?_ (.refl _) rfl)
      (sound_of_hub_eq rfl (((inv.sound _ _ place).setRevision _).prune _))
    rw [place]
    exact commits_popWhile_sublist _ _ _ _
  | stopCollector place =>
    refine inv.move ⟨rfl, rfl, rfl⟩ (carried_subperm ?_ (nil_sublist _) rfl)
      (sound_of_hub_eq rfl (inv.sound _ _ place))
    rw [place]
    exact .refl _
  | subscribe after retentionRevision free =>
    exact inv.setSubscription _ (served_new _ after retentionRevision)
  | unsubscribe id => exact inv.removeSubscription id
  | read action found reading =>
    exact inv.setSubscription _ ((inv.served _ _ found).read reading)
  | lookup found place phase looked_up answered =>
    exact inv.lookup found place looked_up answered
  | deliver found phase delivered =>
    unfold deliver at delivered
    split at delivered
    · cases delivered
      exact inv.removeSubscription _
    · dsimp only at delivered
      split at delivered <;> cases delivered
      · exact inv.removeSubscription _
      · exact inv.setSubscription _ ((inv.served _ _ found).deliver phase)

omit inv

/-- The commits of the epoch of a cursor above it and up to a number, in the order of the log. -/
def commitsBetween (log : List (DetailCommitNotification Trace)) (start : DetailCommitCursor)
    (high : UInt64) : List (DetailCommitNotification Trace) :=
  log.filter fun commit => commit.cursor.epoch == start.epoch &&
    decide (start.sequence < commit.cursor.sequence) && decide (commit.cursor.sequence ≤ high)

theorem mem_commitsBetween {high : UInt64} {commit : DetailCommitNotification Trace} :
    commit ∈ commitsBetween log start high ↔ commit ∈ log ∧ commit.cursor.epoch = start.epoch ∧
      start.sequence.toNat < commit.cursor.sequence.toNat ∧
      commit.cursor.sequence.toNat ≤ high.toNat := by
  simp [commitsBetween, UInt64.lt_iff_toNat_lt, UInt64.le_iff_toNat_le, and_assoc]

theorem Ordered.nodup (ordered : Ordered primitives clock log) : (log.map (·.cursor)).Nodup := by
  refine pairwise_map.mpr (ordered.increasing.imp fun increasing equal => ?_)
  have grown := increasing (congrArg DetailCommitCursor.epoch equal)
  rw [equal] at grown
  exact UInt64.lt_irrefl _ grown

theorem Ordered.eq_commitsBetween (ordered : Ordered primitives clock log) {high : UInt64}
    (consecutive : Consecutive start.epoch start.sequence.toNat high.toNat commits)
    (logged : ∀ commit ∈ commits, commit ∈ log) : commits = commitsBetween log start high := by
  have listed_sorted : commits.Pairwise fun first second =>
      first.cursor.sequence.toNat < second.cursor.sequence.toNat := by
    rw [← pairwise_map, consecutive.numbers]
    exact pairwise_lt_range' _
  have between_sorted : (commitsBetween log start high).Pairwise fun first second =>
      first.cursor.sequence.toNat < second.cursor.sequence.toNat := by
    refine (ordered.increasing.filter _).imp_of_mem ?_
    intro first second first_between second_between increasing
    have first_epoch := (mem_commitsBetween.mp first_between).2.1
    have second_epoch := (mem_commitsBetween.mp second_between).2.1
    exact UInt64.lt_iff_toNat_lt.mp (increasing (first_epoch.trans second_epoch.symm))
  have : Std.Irrefl fun first second : DetailCommitNotification Trace =>
      first.cursor.sequence.toNat < second.cursor.sequence.toNat := ⟨fun _ => lt_irrefl _⟩
  have : Std.Antisymm fun first second : DetailCommitNotification Trace =>
      first.cursor.sequence.toNat < second.cursor.sequence.toNat :=
    ⟨fun _ _ first second => absurd (first.trans second) (lt_irrefl _)⟩
  refine listed_sorted.eq_of_mem_iff between_sorted fun commit => ?_
  rw [mem_commitsBetween]
  constructor
  · intro mem
    exact ⟨logged commit mem, consecutive.epoch_eq commit mem, consecutive.mem_bounds mem⟩
  · rintro ⟨commit_logged, same_epoch, above, below⟩
    have numbered : commit.cursor.sequence.toNat ∈ commits.map (·.cursor.sequence.toNat) := by
      rw [consecutive.numbers, mem_range'_1]
      omega
    obtain ⟨other, mem, same_number⟩ := mem_map.mp numbered
    have same_cursor : other.cursor = commit.cursor :=
      DetailCommitCursor.ext ((consecutive.epoch_eq other mem).trans same_epoch.symm)
        (UInt64.toNat_inj.mp same_number)
    rw [← inj_on_of_nodup_map ordered.nodup (logged other mem) commit_logged same_cursor]
    exact mem

/-- A step that numbers a commit does not repeat an epoch. -/
def Fresh (primitives : Primitives Trace)
    (transition : Transition (World Trace) (Action Trace Item) (Output Trace Item)) : Prop :=
  ∀ dayUtc records rowIds, transition.action = .number dayUtc records rowIds →
    FreshEpoch primitives transition.before.clock transition.before.log

/-- The commits that a lookup hands over are all commits after the cursor that the buffer has
seen. -/
theorem ready_eq_commitsBetween (inv : Invariant primitives world) {id : Nat}
    (taken : step primitives world action = some (next, .ready id commits)) :
    ∃ subscription replay collector, world.subscriptions.lookup id = some subscription ∧
      next.hub = .running replay collector ∧
      commits = commitsBetween world.log subscription.after replay.currentSequence := by
  cases step_effect taken with
  | @lookup id subscription replay collector cursor revision left lookedUp next output found place
      phase looked_up answered =>
      obtain ⟨sound, fewer, handed⟩ := replayAfter_sound (inv.sound _ _ place) looked_up
      cases lookedUp with
      | ready commits =>
        cases answered
        obtain ⟨expected, ready⟩ := handed commits rfl
        obtain ⟨same_epoch, consecutive, buffered⟩ := lookupAfter_ready sound.filled ready
        refine ⟨subscription, left, collector, found, rfl, ?_⟩
        refine inv.ordered.eq_commitsBetween (same_epoch ▸ consecutive) ?_
        intro commit mem
        apply inv.custody.logged
        apply mem_append_left
        rw [place]
        exact (commits_running_sublist replay collector).subset (fewer.subset (buffered commit mem))
      | pending | resync reason => cases answered
  | deliver found phase delivered =>
    unfold deliver at delivered
    split at delivered <;> try cases delivered
    dsimp only at delivered
    split at delivered <;> cases delivered

/-- In every interleaving that repeats no epoch: the buffer is filled and within its limits, every
subscription was sent exactly the commits from its start to its cursor in their order and is being
sent the next ones, a lookup hands over everything after the cursor up to the current commit of the
buffer, and a pushed commit becomes the current one. -/
theorem replay_without_gaps (primitives : Primitives Trace) (epoch : List UInt8)
    (actions : List (Action Trace Item))
    (fresh : ∀ transition ∈ transitions (step primitives) (initial epoch) actions,
      Fresh primitives transition) :
    ∀ transition ∈ transitions (step primitives) (initial epoch) actions,
      (∀ replay collector, transition.after.hub = .running replay collector → replay.Sound) ∧
      (∀ id subscription, transition.after.subscriptions.lookup id = some subscription →
        subscription.after.epoch = subscription.start.epoch ∧
        subscription.delivered = commitsBetween transition.after.log subscription.start
          subscription.after.sequence ∧
        ∃ high, subscription.delivered ++ subscription.phase.pending =
          commitsBetween transition.after.log subscription.start high) ∧
      (∀ id commits, transition.output = .ready id commits →
        ∃ subscription replay collector,
          transition.before.subscriptions.lookup id = some subscription ∧
          transition.after.hub = .running replay collector ∧
          commits = commitsBetween transition.before.log subscription.after
            replay.currentSequence) ∧
      (∀ replay commit, transition.action = .push →
        transition.before.hub = .running replay (.pushing commit) →
        ∃ pushed collector, transition.after.hub = .running pushed collector ∧
          pushed.epoch = commit.cursor.epoch ∧
          pushed.currentSequence = commit.cursor.sequence) := by
  have kept := forall_before_of_guarded (Invariant primitives) (Fresh primitives)
    (fun _ invariant taken fresh => invariant.step taken fresh)
    (invariant_initial primitives epoch) fresh
  intro transition member
  obtain ⟨before, taken⟩ := kept transition member
  have after := before.step taken (fresh transition member)
  refine ⟨after.sound, ?_, ?_, ?_⟩
  · intro id subscription found
    have served := after.served id subscription found
    obtain ⟨high, pending⟩ := served.pending
    refine ⟨served.same_epoch, ?_, high, ?_⟩
    · exact after.ordered.eq_commitsBetween served.delivered fun commit delivered =>
        served.logged commit (mem_append_left _ delivered)
    · exact after.ordered.eq_commitsBetween (served.delivered.append pending) served.logged
  · intro id commits ready
    rw [ready] at taken
    exact ready_eq_commitsBetween before taken
  · intro replay commit pushed place
    rw [pushed] at taken
    simp only [step, place, some.injEq, Prod.mk.injEq] at taken
    rw [← taken.1]
    exact ⟨_, _, rfl, replay.cursor_push commit _⟩

/-- A hub is built, a commit is collected and sent to a subscription. -/
def deliveredRun : List (Action Unit Unit) :=
  [.readCursor, .readRevision, .subscribeCommits, .subscribe 0 ⟨"dqs_", 0⟩ (some 0),
    .number 0 [] [], .send 0, .receive, .push, .lookCursor 0, .lookRevision 0, .lookup 0,
    .deliver 0 (some ("", [])) 1]

theorem replay_without_gaps_deliveredRun :
    ∃ transition ∈ transitions (step samplePrimitives) (initial []) deliveredRun,
      ∃ subscription, transition.after.subscriptions.lookup 0 = some subscription ∧
        subscription.delivered.length = 1 ∧
        subscription.delivered = commitsBetween transition.after.log subscription.start
          subscription.after.sequence := by
  have room : ∀ transition ∈ transitions (step samplePrimitives) (initial []) deliveredRun,
      transition.before.clock.sequence ≠ maxSequence := by
    decide +kernel
  have sound := replay_without_gaps samplePrimitives [] deliveredRun
    fun transition member _ _ _ _ used_up => absurd used_up (room transition member)
  have sent : ∃ transition ∈ transitions (step samplePrimitives) (initial []) deliveredRun,
      (transition.after.subscriptions.lookup 0).map (·.delivered.length) = some 1 := by
    decide +kernel
  obtain ⟨transition, member, delivered⟩ := sent
  obtain ⟨subscription, found, length⟩ := map_eq_some_iff.mp delivered
  exact ⟨transition, member, subscription, found, length,
    ((sound transition member).2.1 0 subscription found).2.1⟩

/-- A store without a hub that has announced a number of commits. -/
structure Announced (world : World Unit) (count : Nat) : Prop where
  sequence : world.clock.sequence.toNat = count
  publishing : world.publishing = []
  receiver : world.receiver = none
  channelClosed : world.channelClosed = false
  hub : world.hub = .absent

/-- Commits that nobody listens to. -/
def announcements (count : Nat) : List (Action Unit Unit) :=
  (replicate count [.number 0 [] [], .send 0]).flatten

theorem Announced.ne_max {world : World Unit} {count : Nat} (announced : Announced world count)
    (room : count + 1 < 2 ^ 64) : world.clock.sequence ≠ maxSequence := by
  intro used_up
  have sequence := announced.sequence
  rw [used_up] at sequence
  have max_eq : maxSequence.toNat = 2 ^ 64 - 1 := rfl
  omega

theorem Announced.announce {world : World Unit} {count : Nat} (announced : Announced world count)
    (room : count + 1 < 2 ^ 64) :
    ∃ next, run (step samplePrimitives) world
        [(.number 0 [] [] : Action Unit Unit), .send 0] = some next ∧
      Announced next (count + 1) := by
  have ne_max := announced.ne_max room
  have sequence : (world.clock.advance samplePrimitives).sequence.toNat = count + 1 := by
    rw [advance, if_neg ne_max, toNat_succ_of_ne_max ne_max, announced.sequence]
  simp only [run, step, announced.channelClosed, Bool.false_eq_true, if_false, World.number,
    announced.publishing, announced.receiver]
  exact ⟨_, rfl, sequence, rfl, rfl, rfl, announced.hub⟩

theorem announced_announcements (count : Nat) (small : count < 2 ^ 64) :
    ∃ world, run (step samplePrimitives) (initial []) (announcements count) = some world ∧
      Announced world count := by
  induction count with
  | zero => exact ⟨_, rfl, rfl, rfl, rfl, rfl, rfl⟩
  | succ count induction =>
    obtain ⟨world, reached, announced⟩ := induction (Nat.lt_of_succ_lt small)
    obtain ⟨next, taken, advanced⟩ := announced.announce small
    refine ⟨next, ?_, advanced⟩
    rw [announcements, replicate_succ', flatten_append, run_append]
    rw [announcements] at reached
    rw [reached]
    exact taken

/-- The saturated successor of the largest number is the number itself. -/
theorem push_new_last {cursor : DetailCommitCursor} (last : cursor.sequence = maxSequence)
    (revision : UInt64) (now : Instant) :
    let pushed := (new cursor revision : ReplayState Unit).push ⟨cursor, []⟩ now
    pushed.commits.map (·.cursor.sequence) = [maxSequence] ∧
      pushed.floorSequence = maxSequence ∧ pushed.currentSequence = maxSequence := by
  have expected : ¬ (cursor.epoch ≠ cursor.epoch ∨
      cursor.sequence ≠ saturatingSucc cursor.sequence) := by
    simp [saturatingSucc, last]
  have young : ((new cursor revision : ReplayState Unit).append ⟨cursor, []⟩
      now).isExpired now = false := by
    simp [isExpired, append, new, Instant.saturatingDurationSince, replaySeconds, second]
  have small : ((new cursor revision : ReplayState Unit).append ⟨cursor, []⟩
      now).isOverfull = false := rfl
  have pushed_eq : (new cursor revision : ReplayState Unit).push ⟨cursor, []⟩ now =
      (new cursor revision : ReplayState Unit).append ⟨cursor, []⟩ now := by
    refine (if_neg expected).trans ?_
    rw [prune, popWhile_of_false young, popWhile_of_false small]
  rw [pushed_eq]
  exact ⟨congrArg (fun sequence => [sequence]) last, last, last⟩

/-- The hub reads the cursor while the last commit of the epoch is being sent: the commit enters
the buffer although the floor already covers it. -/
theorem last_commit_above_floor :
    ∃ (actions : List (Action Unit Unit)) (world : World Unit) (replay : ReplayState Unit)
      (collector : Collector Unit),
      run (step samplePrimitives) (initial []) actions = some world ∧
      world.hub = .running replay collector ∧
      replay.commits.map (·.cursor.sequence) = [maxSequence] ∧
      replay.floorSequence = maxSequence ∧ replay.currentSequence = maxSequence := by
  obtain ⟨world, reached, announced⟩ := announced_announcements (2 ^ 64 - 2) (by decide)
  have ne_max := announced.ne_max (by decide)
  have last : (world.clock.advance samplePrimitives).sequence = maxSequence := by
    apply UInt64.toNat_inj.mp
    rw [advance, if_neg ne_max, toNat_succ_of_ne_max ne_max, announced.sequence]
    rfl
  refine ⟨announcements (2 ^ 64 - 2) ++ [.number 0 [] [], .readCursor, .readRevision,
    .subscribeCommits, .send 0, .receive, .push], ?_⟩
  rw [run_append, reached]
  simp only [bind_some, run, step, announced.channelClosed, Bool.false_eq_true, if_false,
    World.number, announced.publishing, announced.hub]
  exact ⟨_, _, _, rfl, rfl, push_new_last last world.retentionRevision world.now⟩

end FluxDns.Management.EventHub
