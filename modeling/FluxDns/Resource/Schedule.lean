import FluxDns.Time

/-!
# The refresh schedule of a resource

When a resource is refreshed next.  A schedule that has not been stopped has a deadline, which the
type carries, so that a decision is never missing.
-/

namespace FluxDns.Resource

/-- Addition of two `u64` numbers that stops at the largest one. -/
def saturatingAdd (left right : Nat) : Nat := min (left + right) (u64Size - 1)

/-- The delays after failures. -/
structure RefreshBackoff where
  baseDelay : Nat
  maxDelay : Nat
  deriving DecidableEq

def RefreshBackoff.new (baseDelay maxDelay : Nat) : Option RefreshBackoff :=
  if baseDelay ≤ maxDelay then some ⟨baseDelay, maxDelay⟩ else none

/-- How often a resource is refreshed. -/
structure ResourceSchedulePolicy where
  updateInterval : Nat
  staleAfterFailures : Nat
  staleAfter : Nat
  backoff : RefreshBackoff
  deriving DecidableEq

def ResourceSchedulePolicy.new (updateInterval staleAfterIntervals staleAfterFailures : Nat)
    (backoff : RefreshBackoff) : Option ResourceSchedulePolicy :=
  if updateInterval = 0 ∨ staleAfterIntervals = 0 ∨ staleAfterFailures = 0 then none
  else some {
    updateInterval
    staleAfterFailures
    staleAfter := min (updateInterval * staleAfterIntervals) (u64Size - 1)
    backoff }

inductive ResourceScheduleStopReason where
  | cancelled
  | shutdown

inductive ResourceScheduleDecision where
  | due (dueAt consecutiveFailures : Nat) (stale : Bool)
  | waiting (nextDue consecutiveFailures : Nat) (stale : Bool)
  | stopped (reason : ResourceScheduleStopReason)

/-- When a resource is refreshed next. -/
structure ResourceSchedule where
  policy : ResourceSchedulePolicy
  initialDue : Nat
  nextDue : Option Nat
  lastSuccessAt : Option Nat
  consecutiveFailures : Nat
  stopped : Option ResourceScheduleStopReason
  /-- An active schedule has a deadline. -/
  deadline : stopped = none → nextDue ≠ none

namespace ResourceSchedule

def new (policy : ResourceSchedulePolicy) (initialDue : Nat) : ResourceSchedule where
  policy := policy
  initialDue := initialDue
  nextDue := some initialDue
  lastSuccessAt := none
  consecutiveFailures := 0
  stopped := none
  deadline _ := by simp

/-- The candidate takes over the state of a schedule with the same policy. -/
def mergeStableStateFrom (schedule incoming : ResourceSchedule) : ResourceSchedule :=
  if schedule.policy ≠ incoming.policy then schedule
  else { incoming with policy := schedule.policy }

variable (schedule : ResourceSchedule)

def isStaleAt (now : Nat) : Bool :=
  decide (schedule.policy.staleAfterFailures ≤ schedule.consecutiveFailures) ||
    decide (schedule.policy.staleAfter < now - schedule.lastSuccessAt.getD schedule.initialDue)

def decision (now : Nat) : ResourceScheduleDecision :=
  match stop : schedule.stopped with
  | some reason => .stopped reason
  | none =>
    let nextDue := schedule.nextDue.get (Option.isSome_iff_ne_none.mpr (schedule.deadline stop))
    if nextDue ≤ now then .due nextDue schedule.consecutiveFailures (schedule.isStaleAt now)
    else .waiting nextDue schedule.consecutiveFailures (schedule.isStaleAt now)

def recordSuccess (completedAt : Nat) : ResourceSchedule :=
  if schedule.stopped.isSome then schedule
  else { schedule with
    lastSuccessAt := some completedAt
    consecutiveFailures := 0
    nextDue := some (saturatingAdd completedAt schedule.policy.updateInterval)
    deadline := by simp }

def backoffDelay (backoff : RefreshBackoff) (consecutiveFailures : Nat) : Nat :=
  min (backoff.baseDelay * 2 ^ min (consecutiveFailures - 1) 63 % u64Size) backoff.maxDelay

section Backoff

variable {backoff : RefreshBackoff} {baseDelay maxDelay : Nat}

/-- A shift keeps the bits that fit into the word. -/
theorem backoffDelay_succ (shift : Nat) (bounded : shift ≤ 63) : backoffDelay backoff (shift + 1) =
    min (backoff.baseDelay * 2 ^ shift % u64Size) backoff.maxDelay := by
  rw [backoffDelay, Nat.add_sub_cancel, Nat.min_eq_left bounded]

theorem le_of_delays_increase (bounded : backoff.baseDelay < u64Size)
    (increase : ∀ shift < 63,
      backoffDelay backoff (shift + 1) ≤ backoffDelay backoff (shift + 1 + 1))
    (shift : Nat) (shift_le : shift ≤ 63) (lost : u64Size ≤ backoff.baseDelay * 2 ^ shift) :
    backoff.maxDelay ≤ backoff.baseDelay * 2 ^ shift % u64Size := by
  induction shift with
  | zero => omega
  | succ shift induction =>
    have later := increase shift shift_le
    rw [backoffDelay_succ shift (by omega), backoffDelay_succ (shift + 1) shift_le] at later
    rw [pow_succ, ← Nat.mul_assoc] at lost later ⊢
    -- either the bits were lost before, or the doubled delay wraps below the delay itself
    by_cases before : u64Size ≤ backoff.baseDelay * 2 ^ shift
    · omega
    · simp only [u64Size] at *
      omega

/-- The delays stay in their bounds and do not decrease exactly when no shift of the base loses bits
and falls below the maximum. -/
theorem backoff_delays_iff (built : RefreshBackoff.new baseDelay maxDelay = some backoff)
    (bounded : maxDelay < u64Size) :
    (∀ failures, 1 ≤ failures → failures < u32Size →
      baseDelay ≤ backoffDelay backoff failures ∧ backoffDelay backoff failures ≤ maxDelay ∧
        backoffDelay backoff (failures - 1) ≤ backoffDelay backoff failures) ↔
    ∀ shift ≤ 63, u64Size ≤ baseDelay * 2 ^ shift →
      maxDelay ≤ baseDelay * 2 ^ shift % u64Size := by
  unfold RefreshBackoff.new at built
  split_ifs at built with ordered
  cases built
  constructor
  · intro delays shift shift_le lost
    have increase (shift : Nat) (small : shift < 63) :=
      (delays (shift + 1 + 1) (by omega) (by simp only [u32Size]; omega)).2.2
    exact le_of_delays_increase (Nat.lt_of_le_of_lt ordered bounded) increase shift shift_le lost
  · intro kept failures _ _
    have saturates (failures : Nat) : backoffDelay ⟨baseDelay, maxDelay⟩ failures =
        min (baseDelay * 2 ^ min (failures - 1) 63) maxDelay := by
      have lost := kept (min (failures - 1) 63) (Nat.min_le_right _ _)
      rw [backoffDelay]
      by_cases fits : u64Size ≤ baseDelay * 2 ^ min (failures - 1) 63
      · rw [Nat.min_eq_right (lost fits)]
        exact (Nat.min_eq_right (Nat.le_trans (Nat.le_of_lt bounded) fits)).symm
      · rw [Nat.mod_eq_of_lt (Nat.lt_of_not_le fits)]
    rw [saturates, saturates]
    have larger : baseDelay ≤ baseDelay * 2 ^ min (failures - 1) 63 :=
      Nat.le_mul_of_pos_right _ (Nat.two_pow_pos _)
    have earlier : min (failures - 1 - 1) 63 ≤ min (failures - 1) 63 := by omega
    have smaller := Nat.mul_le_mul_left baseDelay (Nat.pow_le_pow_right Nat.zero_lt_two earlier)
    omega

theorem backoff_delays_default : 1 ≤ backoffDelay ⟨1, 64⟩ 70 ∧ backoffDelay ⟨1, 64⟩ 70 ≤ 64 ∧
    backoffDelay ⟨1, 64⟩ 69 ≤ backoffDelay ⟨1, 64⟩ 70 := by
  refine (@backoff_delays_iff ⟨1, 64⟩ 1 64 rfl (by decide)).mpr ?_ 70 (by decide) (by decide)
  intro shift shift_le lost
  rw [Nat.one_mul] at lost
  exact absurd ((Nat.pow_le_pow_iff_right (by decide)).mp lost) (by omega)

/-- After sixty-four failures in a row the base is shifted out of the word. -/
theorem backoff_delay_vanishes : ∃ backoff, RefreshBackoff.new 2 64 = some backoff ∧
    backoffDelay backoff 63 = 64 ∧ backoffDelay backoff 64 = 0 :=
  ⟨⟨2, 64⟩, rfl, by decide, by decide⟩

end Backoff

variable (schedule : ResourceSchedule)

def recordFailure (failedAt : Nat) : ResourceSchedule :=
  if schedule.stopped.isSome then schedule
  else
    let failures := min (schedule.consecutiveFailures + 1) (u32Size - 1)
    { schedule with
      consecutiveFailures := failures
      nextDue := some (saturatingAdd failedAt (backoffDelay schedule.policy.backoff failures))
      deadline := by simp }

def stop (reason : ResourceScheduleStopReason) : ResourceSchedule :=
  if schedule.stopped.isSome then schedule
  else { schedule with
    stopped := some reason
    nextDue := none
    deadline := by simp }

def shutdown (schedule : ResourceSchedule) : ResourceSchedule := schedule.stop .shutdown

theorem decision_eq_stopped {schedule : ResourceSchedule} {now : Nat}
    {reason : ResourceScheduleStopReason} (stopped : schedule.decision now = .stopped reason) :
    schedule.stopped = some reason := by
  unfold decision at stopped
  split at stopped
  · next found =>
    cases stopped
    exact found
  · dsimp only at stopped
    split at stopped <;> cases stopped

@[simp]
theorem stopped_recordSuccess (completedAt : Nat) :
    (schedule.recordSuccess completedAt).stopped = schedule.stopped := by
  unfold recordSuccess
  split <;> rfl

@[simp]
theorem stopped_recordFailure (failedAt : Nat) :
    (schedule.recordFailure failedAt).stopped = schedule.stopped := by
  unfold recordFailure
  split <;> rfl

theorem stopped_mergeStableStateFrom {schedule incoming : ResourceSchedule}
    (running : schedule.stopped = none) (incoming_running : incoming.stopped = none) :
    (schedule.mergeStableStateFrom incoming).stopped = none := by
  unfold mergeStableStateFrom
  split
  · exact running
  · exact incoming_running

end ResourceSchedule

end FluxDns.Resource
