import FluxDns.Management.Replay

/-!
# Contents of the replay buffer

The buffer holds the commits from above its floor up to the current one.  Only when both are the
largest number of an epoch can it hold the last commit of the epoch instead.
-/

namespace FluxDns.Management

open Storage List

variable {Trace : Type}

/-- The commits of an epoch with the numbers above the lower one up to the upper one, in order. -/
structure Consecutive (epoch : String) (low high : Nat)
    (commits : List (DetailCommitNotification Trace)) : Prop where
  low_le : low ≤ high
  numbers : commits.map (·.cursor.sequence.toNat) = range' (low + 1) (high - low)
  epoch_eq : ∀ commit ∈ commits, commit.cursor.epoch = epoch

namespace Consecutive

variable {epoch : String} {low middle high : Nat}
  {commits more : List (DetailCommitNotification Trace)}
  {commit : DetailCommitNotification Trace}

theorem nil (epoch : String) (low : Nat) :
    Consecutive epoch low low ([] : List (DetailCommitNotification Trace)) :=
  ⟨le_rfl, by simp, by simp⟩

theorem append (first : Consecutive epoch low middle commits)
    (second : Consecutive epoch middle high more) :
    Consecutive epoch low high (commits ++ more) where
  low_le := first.low_le.trans second.low_le
  numbers := by
    have low_le := first.low_le
    have middle_le := second.low_le
    have start : middle + 1 = low + 1 + 1 * (middle - low) := by omega
    have length : high - low = (middle - low) + (high - middle) := by omega
    rw [map_append, first.numbers, second.numbers, length, start, range'_append]
  epoch_eq := by
    intro commit mem
    rcases mem_append.mp mem with left | right
    · exact first.epoch_eq commit left
    · exact second.epoch_eq commit right

theorem singleton (same_epoch : commit.cursor.epoch = epoch)
    (number : commit.cursor.sequence.toNat = low + 1) :
    Consecutive epoch low (low + 1) [commit] where
  low_le := Nat.le_succ low
  numbers := by simp [number]
  epoch_eq := by simpa using same_epoch

/-- The first commit of a list has the number after the lower one. -/
theorem of_cons (consecutive : Consecutive epoch low high (commit :: commits)) :
    commit.cursor.sequence.toNat = low + 1 ∧ Consecutive epoch (low + 1) high commits := by
  have numbers := consecutive.numbers
  cases length : high - low with
  | zero => simp [length] at numbers
  | succ count =>
    rw [length, map_cons, range'_succ, cons.injEq] at numbers
    have rest : high - (low + 1) = count := by omega
    exact ⟨numbers.1, by omega, by rw [numbers.2, rest],
      fun commit mem => consecutive.epoch_eq commit (mem_cons_of_mem _ mem)⟩

variable (consecutive : Consecutive epoch low high commits)

include consecutive

theorem mem_bounds (mem : commit ∈ commits) :
    low < commit.cursor.sequence.toNat ∧ commit.cursor.sequence.toNat ≤ high := by
  have listed : commit.cursor.sequence.toNat ∈ commits.map (·.cursor.sequence.toNat) :=
    mem_map_of_mem mem
  rw [consecutive.numbers, mem_range'_1] at listed
  omega

theorem filter_above {number : UInt64}
    (low_le : low ≤ number.toNat) (le_high : number.toNat ≤ high) :
    Consecutive epoch number.toNat high
      (commits.filter fun commit => decide (number < commit.cursor.sequence)) := by
  induction commits generalizing low with
  | nil =>
    have empty := congrArg length consecutive.numbers
    simp only [map_nil, length_nil, length_range'] at empty
    obtain rfl : high = number.toNat := by omega
    exact nil epoch number.toNat
  | cons commit commits induction =>
    obtain ⟨head_number, rest⟩ := consecutive.of_cons
    by_cases above : number < commit.cursor.sequence
    · have number_eq : number.toNat = low := by
        have := UInt64.lt_iff_toNat_lt.mp above
        omega
      have all_above : ∀ other ∈ commit :: commits,
          decide (number < other.cursor.sequence) = true := by
        intro other mem
        have := (consecutive.mem_bounds mem).1
        exact decide_eq_true (UInt64.lt_iff_toNat_lt.mpr (by omega))
      rw [filter_eq_self.mpr all_above, number_eq]
      exact consecutive
    · have below : low + 1 ≤ number.toNat := by
        have := mt UInt64.lt_iff_toNat_lt.mpr above
        omega
      rw [filter_cons_of_neg (by simpa using above)]
      exact induction rest below

theorem exists_last (nonempty : low < high) :
    ∃ commit ∈ commits, commit.cursor.epoch = epoch ∧ commit.cursor.sequence.toNat = high := by
  have listed : high ∈ commits.map (·.cursor.sequence.toNat) := by
    rw [consecutive.numbers, mem_range'_1]
    omega
  obtain ⟨commit, mem, number⟩ := mem_map.mp listed
  exact ⟨commit, mem, consecutive.epoch_eq commit mem, number⟩

end Consecutive

namespace ReplayState

variable (replay : ReplayState Trace)

def commits : List (DetailCommitNotification Trace) :=
  replay.entries.map (·.notification)

/-- The counters are the sums over the entries. -/
structure Counted : Prop where
  records_eq : replay.records =
    (replay.entries.map fun entry => entry.notification.records.length).sum
  bytes_eq : replay.bytes = (replay.entries.map fun entry => entry.bytes).sum
  estimated : ∀ entry ∈ replay.entries, entry.bytes = estimatedBytes entry.notification

/-- The numbers of the epoch are used up, and at most its last commit is buffered. -/
structure Exhausted : Prop where
  floor_eq : replay.floorSequence = maxSequence
  current_eq : replay.currentSequence = maxSequence
  last : ∀ commit ∈ replay.commits, commit.cursor = ⟨replay.epoch, maxSequence⟩

/-- The commits above the floor up to the current one are buffered. -/
def Filled : Prop :=
  Consecutive replay.epoch replay.floorSequence.toNat replay.currentSequence.toNat replay.commits ∨
    replay.Exhausted

theorem counted_markGap (cursor : DetailCommitCursor) (reason : ResyncReason) :
    (replay.markGap cursor reason).Counted :=
  ⟨rfl, rfl, fun _ mem => (nomatch mem)⟩

theorem filled_markGap (cursor : DetailCommitCursor) (reason : ResyncReason) :
    (replay.markGap cursor reason).Filled :=
  .inl (.nil cursor.epoch cursor.sequence.toNat)

variable {replay} {notification : DetailCommitNotification Trace} {reason : ResyncReason}

theorem Counted.popFront (counted : replay.Counted) (reason : ResyncReason) :
    (replay.popFront reason).Counted := by
  unfold ReplayState.popFront
  split
  · exact counted
  · next entry entries found =>
    have records_eq := counted.records_eq
    have bytes_eq := counted.bytes_eq
    rw [found, map_cons, sum_cons] at records_eq bytes_eq
    refine ⟨?_, ?_, ?_⟩
    · dsimp only
      omega
    · dsimp only
      omega
    · intro other mem
      exact counted.estimated other (found ▸ mem_cons_of_mem _ mem)

theorem Filled.popFront (filled : replay.Filled) (reason : ResyncReason) :
    (replay.popFront reason).Filled := by
  unfold ReplayState.popFront
  split
  · exact filled
  · next entry entries found =>
    have commits_eq : replay.commits = entry.notification :: entries.map (·.notification) := by
      rw [commits, found, map_cons]
    rcases filled with consecutive | exhausted
    · rw [commits_eq] at consecutive
      obtain ⟨number, rest⟩ := consecutive.of_cons
      have raised : max replay.floorSequence entry.notification.cursor.sequence =
          entry.notification.cursor.sequence :=
        if_pos (UInt64.le_iff_toNat_le.mpr (by omega))
      rw [← number] at rest
      refine .inl ?_
      rw [raised]
      exact rest
    · have last := exhausted.last entry.notification (by rw [commits_eq]; exact mem_cons_self)
      refine .inr ⟨?_, exhausted.current_eq, fun commit mem => ?_⟩
      · dsimp only
        rw [last, exhausted.floor_eq]
        exact if_pos (UInt64.le_refl _)
      · exact exhausted.last commit (by rw [commits_eq]; exact mem_cons_of_mem _ mem)

/-- What one round of the loop keeps, the loop keeps. -/
theorem popWhile_preserves {inv : ReplayState Trace → Prop}
    (popped : ∀ replay, inv replay → inv (replay.popFront reason))
    (condition : ReplayState Trace → Bool) (rounds : Nat) (holds : inv replay) :
    inv (popWhile condition reason rounds replay) := by
  induction rounds generalizing replay with
  | zero => exact holds
  | succ rounds induction =>
    unfold popWhile
    split
    · exact induction (popped replay holds)
    · exact holds

theorem popWhile_of_false {condition : ReplayState Trace → Bool} (holds : condition replay = false)
    (reason : ResyncReason) (rounds : Nat) : popWhile condition reason rounds replay = replay := by
  cases rounds with
  | zero => rfl
  | succ rounds => rw [popWhile, holds, if_neg Bool.false_ne_true]

theorem length_popFront (replay : ReplayState Trace) (reason : ResyncReason) :
    (replay.popFront reason).entries.length = replay.entries.length - 1 := by
  unfold popFront
  split
  · next empty => rw [empty, length_nil]
  · next entry entries found => rw [found, length_cons, Nat.add_sub_cancel]

/-- Without entries a counted buffer is within its limits. -/
theorem Counted.not_isOverfull_of_nil (counted : replay.Counted) (empty : replay.entries = []) :
    replay.isOverfull = false := by
  rw [isOverfull, counted.records_eq, counted.bytes_eq, empty]
  rfl

/-- The loop over an overfull buffer ends within its limits. -/
theorem Counted.isOverfull_popWhile {rounds : Nat}
    (counted : replay.Counted) (enough : replay.entries.length ≤ rounds) :
    (popWhile isOverfull reason rounds replay).isOverfull = false := by
  induction rounds generalizing replay with
  | zero => exact counted.not_isOverfull_of_nil (length_eq_zero_iff.mp (Nat.le_zero.mp enough))
  | succ rounds induction =>
    unfold popWhile
    split
    · refine induction (counted.popFront reason) ?_
      rw [length_popFront]
      omega
    · next within => simpa using within

/-- What holds of the buffer at all times. -/
structure Sound (replay : ReplayState Trace) : Prop where
  counted : replay.Counted
  within : replay.isOverfull = false
  filled : replay.Filled

theorem sound_new (cursor : DetailCommitCursor) (retentionRevision : UInt64) :
    (new cursor retentionRevision : ReplayState Trace).Sound :=
  ⟨⟨rfl, rfl, fun _ mem => (nomatch mem)⟩, rfl, .inl (.nil cursor.epoch _)⟩

theorem sound_markGap (replay : ReplayState Trace) (cursor : DetailCommitCursor)
    (reason : ResyncReason) : (replay.markGap cursor reason).Sound :=
  ⟨counted_markGap replay cursor reason, rfl, filled_markGap replay cursor reason⟩

theorem Sound.setRevision (sound : replay.Sound) (revision : UInt64) :
    { replay with retentionRevision := revision }.Sound :=
  ⟨⟨sound.counted.records_eq, sound.counted.bytes_eq, sound.counted.estimated⟩, sound.within,
    sound.filled.imp_right fun exhausted =>
      { exhausted with }⟩

theorem isOverfull_popFront (within : replay.isOverfull = false) (reason : ResyncReason) :
    (replay.popFront reason).isOverfull = false := by
  unfold popFront
  split
  · exact within
  · simp only [isOverfull, Bool.or_eq_false_iff, decide_eq_false_iff_not, not_lt] at within ⊢
    omega

theorem Sound.popFront (sound : replay.Sound) (reason : ResyncReason) :
    (replay.popFront reason).Sound :=
  ⟨sound.counted.popFront reason, isOverfull_popFront sound.within reason,
    sound.filled.popFront reason⟩

theorem Sound.prune (sound : replay.Sound) (now : Instant) : (replay.prune now).Sound :=
  popWhile_preserves (fun _ kept => kept.popFront _) _ _ sound

theorem Counted.append (counted : replay.Counted) (notification : DetailCommitNotification Trace)
    (now : Instant) :
    (replay.append notification now).Counted where
  records_eq := by
    show replay.records + _ = _
    rw [counted.records_eq]
    simp [ReplayState.append]
  bytes_eq := by
    show replay.bytes + _ = _
    rw [counted.bytes_eq]
    simp [ReplayState.append]
  estimated := by
    intro entry mem
    rcases mem_append.mp mem with old | new
    · exact counted.estimated entry old
    · rw [mem_singleton.mp new]

theorem commits_append (replay : ReplayState Trace)
    (notification : DetailCommitNotification Trace) (now : Instant) :
    (replay.append notification now).commits = replay.commits ++ [notification] := by
  simp [ReplayState.append, commits]

/-- At the largest number a buffer without the last commit of the epoch has nothing else. -/
theorem Filled.exhausted (filled : replay.Filled) (used_up : replay.currentSequence = maxSequence)
    (new : ⟨replay.epoch, maxSequence⟩ ∉ replay.commits.map (·.cursor)) : replay.Exhausted := by
  rcases filled with consecutive | exhausted
  · rcases consecutive.low_le.lt_or_eq with below | equal
    · obtain ⟨commit, mem, epoch_eq, number⟩ := consecutive.exists_last below
      have same_cursor : commit.cursor = ⟨replay.epoch, maxSequence⟩ :=
        DetailCommitCursor.ext epoch_eq (UInt64.toNat_inj.mp (by rw [number, used_up]))
      exact absurd (same_cursor ▸ mem_map_of_mem mem) new
    · refine ⟨(UInt64.toNat_inj.mp equal).trans used_up, used_up, fun commit mem => ?_⟩
      have bounds := consecutive.mem_bounds mem
      omega
  · exact exhausted

/-- The next commit keeps the buffer filled; at the largest number the saturated successor lets the
last commit of the epoch pass above a floor that already covers it. -/
theorem Filled.append (filled : replay.Filled)
    (new : notification.cursor ∉ replay.commits.map (·.cursor))
    (same_epoch : notification.cursor.epoch = replay.epoch)
    (successor : notification.cursor.sequence = saturatingSucc replay.currentSequence)
    (now : Instant) : (replay.append notification now).Filled := by
  unfold saturatingSucc at successor
  split at successor
  · next used_up =>
    rw [used_up] at successor
    have last : notification.cursor = ⟨replay.epoch, maxSequence⟩ :=
      DetailCommitCursor.ext same_epoch successor
    have exhausted := filled.exhausted used_up (last ▸ new)
    refine .inr ⟨exhausted.floor_eq, successor, fun commit mem => ?_⟩
    rw [commits_append] at mem
    rcases mem_append.mp mem with old | appended
    · exact exhausted.last commit old
    · rw [mem_singleton.mp appended]
      exact last
  · next room =>
    rcases filled with consecutive | exhausted
    · have number : notification.cursor.sequence.toNat = replay.currentSequence.toNat + 1 := by
        rw [successor, toNat_succ_of_ne_max room]
      have extended := consecutive.append (.singleton same_epoch number)
      rw [← number, ← commits_append replay notification now] at extended
      exact .inl extended
    · exact absurd exhausted.current_eq room

theorem commits_popFront_sublist (replay : ReplayState Trace) (reason : ResyncReason) :
    (replay.popFront reason).commits.Sublist replay.commits := by
  unfold popFront
  split
  · exact .refl _
  · next entry entries found =>
    rw [commits, commits, found]
    exact sublist_cons_self _ _

theorem commits_popWhile_sublist (condition : ReplayState Trace → Bool) (reason : ResyncReason)
    (rounds : Nat) (replay : ReplayState Trace) :
    (popWhile condition reason rounds replay).commits.Sublist replay.commits :=
  popWhile_preserves (fun popped kept => (commits_popFront_sublist popped reason).trans kept) _ _
    (.refl _)

theorem commits_push_sublist (replay : ReplayState Trace)
    (notification : DetailCommitNotification Trace) (now : Instant) :
    (replay.push notification now).commits.Sublist (replay.commits ++ [notification]) := by
  unfold push
  split
  · exact nil_sublist _
  · rw [← commits_append replay notification now]
    exact (commits_popWhile_sublist _ _ _ _).trans (commits_popWhile_sublist _ _ _ _)

theorem cursor_popWhile (condition : ReplayState Trace → Bool) (reason : ResyncReason)
    (rounds : Nat) (replay : ReplayState Trace) :
    (popWhile condition reason rounds replay).epoch = replay.epoch ∧
      (popWhile condition reason rounds replay).currentSequence = replay.currentSequence := by
  have popped (other : ReplayState Trace) : (other.popFront reason).epoch = other.epoch ∧
      (other.popFront reason).currentSequence = other.currentSequence := by
    unfold popFront
    split <;> exact ⟨rfl, rfl⟩
  induction rounds generalizing replay with
  | zero => exact ⟨rfl, rfl⟩
  | succ rounds induction =>
    unfold popWhile
    split
    · rw [(induction _).1, (induction _).2]
      exact popped replay
    · exact ⟨rfl, rfl⟩

theorem cursor_push (replay : ReplayState Trace)
    (notification : DetailCommitNotification Trace) (now : Instant) :
    (replay.push notification now).epoch = notification.cursor.epoch ∧
      (replay.push notification now).currentSequence = notification.cursor.sequence := by
  unfold push
  split
  · exact ⟨rfl, rfl⟩
  · next expected =>
    rw [not_or, not_not, not_not] at expected
    rw [(cursor_popWhile _ _ _ _).1, (cursor_popWhile _ _ _ _).2]
    unfold prune
    rw [(cursor_popWhile _ _ _ _).1, (cursor_popWhile _ _ _ _).2]
    exact ⟨expected.1.symm, rfl⟩

/-- A push leaves a sound buffer, whatever new commit arrives. -/
theorem Sound.push (sound : replay.Sound)
    (new : notification.cursor ∉ replay.commits.map (·.cursor)) (now : Instant) :
    (replay.push notification now).Sound := by
  unfold ReplayState.push
  split
  · exact sound_markGap replay _ _
  · next expected =>
    rw [not_or, not_not, not_not] at expected
    have counted : ((replay.append notification now).prune now).Counted :=
      popWhile_preserves (fun _ kept => kept.popFront _) _ _ (sound.counted.append _ now)
    have filled : ((replay.append notification now).prune now).Filled :=
      popWhile_preserves (fun _ kept => kept.popFront _) _ _
        (sound.filled.append new expected.1 expected.2 now)
    exact ⟨popWhile_preserves (fun _ kept => kept.popFront _) _ _ counted,
      counted.isOverfull_popWhile le_rfl,
      popWhile_preserves (fun _ kept => kept.popFront _) _ _ filled⟩

end ReplayState

end FluxDns.Management
