import FluxDns.Cache.MokaGenerations
import FluxDns.Cache.MemoryStore

/-!
# Conditional writes of both stores

A linearized `compare_and_swap` of the Moka store runs from its first to its last step without
another step in between; everything else interleaves as before.  Both stores keep the discipline of
conditional writes in every run.
-/

namespace FluxDns.Cache.Moka

open Execution AList Option World

variable {next : World} {world : World} {answer : Answer} {operation : Operation} {id : Nat}

/-- Run a call to its end. -/
def finishCall (limits : Limits) : Nat → World → Nat → Option (World × Answer)
  | 0, _, _ => none
  | steps + 1, world, id =>
    match advance limits world id with
    | none => none
    | some (next, .running) => finishCall limits steps next id
    | some (next, answer) => some (next, answer)

inductive Operation where
  | swap (write : Write) (deadline : Deadline)
  | other (action : Action)

/-- The longest path of a conditional write, through the removal of a record out of retention. -/
def swapSteps : Nat := 7

/-- A step of the store whose conditional writes are linearized. -/
def linearStep (limits : Limits) (world : World) : Operation → Option (World × Answer)
  | .swap write deadline =>
    if deadline.isExpired world.clock then some (world, .swapped (.error .timeout))
    else finishCall limits swapSteps (world.start (.swapLocking write)) world.nextCall
  | .other (.compareAndSwap _ _) => none
  | .other action => step limits world action

theorem run_of_finishCall {limits : Limits} {steps : Nat}
    (finished : finishCall limits steps world id = some (next, answer)) :
    ∃ actions, run (step limits) world actions = some next := by
  induction steps generalizing world with
  | zero => cases finished
  | succ steps induction =>
    rw [finishCall] at finished
    split at finished
    · cases finished
    · next middle taken =>
      obtain ⟨actions, rest⟩ := induction finished
      refine ⟨.advance id :: actions, ?_⟩
      simp only [run, step, taken]
      exact rest
    · next last result _ taken =>
      cases finished
      exact ⟨[.advance id], run_singleton taken⟩

/-- A linearized step is an interleaving of the store's own steps. -/
theorem run_of_linearStep {limits : Limits}
    (taken : linearStep limits world operation = some (next, answer)) :
    ∃ actions, run (step limits) world actions = some next := by
  cases operation with
  | swap write deadline =>
    simp only [linearStep] at taken
    split at taken
    · cases taken
      exact ⟨[], rfl⟩
    · next unexpired =>
      obtain ⟨actions, rest⟩ := run_of_finishCall taken
      refine ⟨.compareAndSwap write deadline :: actions, ?_⟩
      simp only [run, step, if_neg unexpired]
      exact rest
  | other action =>
    cases action with
    | compareAndSwap write deadline => cases taken
    | get | invalidate | shutdown | advance | evict | expire | tick =>
      simp only [linearStep] at taken
      exact ⟨_, run_singleton taken⟩

def World.visible (world : World) (key : CacheKey) : Option CacheRecord :=
  (world.cache.lookup key).filter (·.isVisible world.clock)

def system (limits : Limits) : StoreSystem where
  State := World
  Action := Operation
  Answer := Answer
  step := linearStep limits
  initial := .initial
  clock := World.clock
  visible := visible
  counter := World.nextVersion
  call
    | .swap write _ => some ⟨write.key, write.condition, write.entry⟩
    | .other _ => none
  result
    | .swapped result => some result
    | _ => none

/-- How a conditional write ends that has looked at the visible record. -/
inductive Decided (world : World) (write : Write) (current : Option CacheRecord) (now : Instant) :
    World → Except PortErrorClass CacheWriteOutcome → Prop where
  | refused {next : World} {result : Except PortErrorClass CacheWriteOutcome}
      (unassigned : ∀ outcome, result = .ok outcome → outcome.assigned = none)
      (same_cache : next.cache = world.cache) (same_version : next.nextVersion = world.nextVersion)
      (same_clock : next.clock = world.clock) : Decided world write current now next result
  | stored {next : World} {outcome : CacheWriteOutcome}
      (condition : write.condition.holds (current.map (·.version)) = true)
      (quality : ∀ record, current = some record → record.isFresh now = true →
        record.entry.quality.rank ≤ write.entry.quality.rank)
      (assigned : outcome.assigned = some (UInt64.ofNat (world.nextVersion + 1)))
      (cache : next.cache = world.cache.insert write.key
        ⟨UInt64.ofNat (world.nextVersion + 1), write.entry⟩)
      (version : next.nextVersion = world.nextVersion + 1)
      (same_clock : next.clock = world.clock) : Decided world write current now next (.ok outcome)

def Returned (world : World) (id : Nat) (next : World) : Prop :=
  ∀ other, next.calls.lookup other = if other = id then none else world.calls.lookup other

section Calls

variable {limits : Limits} {world : World} {id : Nat} {write : Write} {next : World}

theorem returned_finish (world : World) (id : Nat) : Returned world id (world.finish id) :=
  fun other => lookup_erase_eq_ite _ _ other

theorem finishCall_running {steps : Nat} {middle : World}
    (advanced : advance limits world id = some (middle, .running)) :
    finishCall limits (steps + 1) world id = finishCall limits steps middle id := by
  rw [finishCall, advanced]

theorem returned_goto {call : Call} (returned : Returned (world.goto id call) id next) :
    Returned world id next := by
  intro other
  rw [returned other, goto]
  split
  · rfl
  · next different => rw [lookup_insert_ne different]

theorem decideSwap_cases (limits : Limits) (world : World) (id : Nat) (write : Write)
    (current : Option CacheRecord) (now : Instant) :
    (∃ next result, decideSwap limits world id write current now = (next, .swapped result) ∧
      Decided world write current now next result ∧ Returned world id next) ∨
    ∃ outcome, outcome.assigned = some (UInt64.ofNat (world.nextVersion + 1)) ∧
      write.condition.holds (current.map (·.version)) = true ∧
      (∀ record, current = some record → record.isFresh now = true →
        record.entry.quality.rank ≤ write.entry.quality.rank) ∧
      decideSwap limits world id write current now =
        ({ world with nextVersion := world.nextVersion + 1 }.goto id
          (.swapInserting write (UInt64.ofNat (world.nextVersion + 1)) outcome), .running) := by
  unfold decideSwap
  split
  · refine .inl ⟨_, _, rfl, .refused ?_ rfl rfl rfl, fun other => lookup_erase_eq_ite _ _ other⟩
    rintro outcome ⟨⟩
    rfl
  · next condition =>
    split
    · refine .inl ⟨_, _, rfl, .refused ?_ rfl rfl rfl, returned_finish world id⟩
      rintro outcome ⟨⟩
      rfl
    · next quality =>
      split
      · refine .inl ⟨_, _, rfl, .refused ?_ rfl rfl rfl, returned_finish world id⟩
        rintro outcome ⟨⟩
      · refine .inr ⟨_, ?_, not_not.mp condition, ?_, rfl⟩
        · split <;> rfl
        · rintro record rfl fresh
          simpa [fresh] using quality

theorem finishCall_deciding {current : Option CacheRecord} {now : Instant}
    (running : world.calls.lookup id = some (.swapDeciding write current now)) (steps : Nat) :
    ∃ next result, finishCall limits (steps + 2) world id = some (next, .swapped result) ∧
      Decided world write current now next result ∧ Returned world id next := by
  have advanced : advance limits world id =
      some (decideSwap limits world id write current now) := by
    simp only [advance, running]
  rw [finishCall, advanced]
  obtain ⟨next, result, decision, decided, returned⟩ |
    ⟨outcome, assigned, condition, quality, decision⟩ :=
      decideSwap_cases limits world id write current now
  · rw [decision]
    exact ⟨next, result, rfl, decided, returned⟩
  · rw [decision]
    simp only [finishCall, advance, goto, lookup_insert]
    refine ⟨_, _, rfl, .stored condition quality assigned rfl rfl rfl, fun other => ?_⟩
    simp only [World.finish, World.insert, lookup_erase_eq_ite]
    split
    · rfl
    · next different => rw [lookup_insert_ne different]

/-- What a conditional write sees and what it leaves for its decision. -/
structure Read (world : World) (key : CacheKey) (now : Instant) (read : World) : Prop where
  cache : read.cache = world.cache ∨ read.cache = world.cache.erase key ∧
    (world.cache.lookup key).any (fun record => !record.isVisible now) = true
  version : read.nextVersion = world.nextVersion
  clock : read.clock = world.clock

/-- The look at the visible record, with the removal of one out of retention. -/
theorem finishCall_reading {now : Instant}
    (running : world.calls.lookup id = some (.swapReading write now)) (steps : Nat) :
    ∃ read next result, finishCall limits (steps + 4) world id = some (next, .swapped result) ∧
      Read world write.key now read ∧
      Decided read write ((world.cache.lookup write.key).filter (·.isVisible now)) now next result ∧
      Returned world id next := by
  have goes : ∀ current, current = (world.cache.lookup write.key).filter (·.isVisible now) →
      advance limits world id = some (world.goto id (.swapDeciding write current now), .running) →
      ∃ read next result, finishCall limits (steps + 4) world id = some (next, .swapped result) ∧
        Read world write.key now read ∧
        Decided read write ((world.cache.lookup write.key).filter (·.isVisible now)) now next
          result ∧ Returned world id next := by
    rintro current rfl advanced
    obtain ⟨next, result, finished, decided, returned⟩ := @finishCall_deciding limits
      (world.goto id (.swapDeciding write _ now)) id write _ now (lookup_insert _) (steps + 1)
    rw [finishCall_running advanced]
    exact ⟨world.goto id _, next, result, finished, ⟨.inl rfl, rfl, rfl⟩, decided,
      returned_goto returned⟩
  cases found : world.cache.lookup write.key with
  | none =>
    rw [← found]
    exact goes none (by rw [found]; rfl) (by simp only [advance, running, found])
  | some record =>
    cases visible : record.isVisible now with
    | true =>
      rw [← found]
      refine goes (some record) ?_ (by simp only [advance, running, found, visible, if_true])
      rw [found, filter_some, visible]
      rfl
    | false =>
      let removing := world.goto id (.swapRemoving write now)
      have advanced : advance limits world id = some (removing, .running) := by
        simp only [advance, running, found, visible, Bool.false_eq_true, if_false]
        rfl
      have there : removing.calls.lookup id = some (.swapRemoving write now) := lookup_insert _
      have removed : advance limits removing id = some
          ((removing.remove write.key).goto id (.swapDeciding write none now), .running) := by
        simp only [advance, there]
      obtain ⟨next, result, finished, decided, returned⟩ := @finishCall_deciding limits
        ((removing.remove write.key).goto id (.swapDeciding write none now)) id write none now
        (lookup_insert _) steps
      have hidden : (some record).filter (fun record => record.isVisible now) = none := by
        rw [filter_some, visible]
        rfl
      rw [finishCall_running advanced, finishCall_running removed, hidden]
      have ended : (world.cache.lookup write.key).any (fun record => !record.isVisible now) =
          true := by
        rw [found, Option.any_some, visible]
        rfl
      have gone : Returned removing id next := returned_goto returned
      exact ⟨(removing.remove write.key).goto id _, next, result, finished,
        ⟨.inr ⟨rfl, ended⟩, rfl, rfl⟩, decided, returned_goto gone⟩

theorem finishCall_swap
    (finished : finishCall limits swapSteps (world.start (.swapLocking write)) world.nextCall =
      some (next, answer)) :
    ∃ result, answer = .swapped result ∧
      (∃ read, Read world write.key world.clock read ∧
        Decided read write (world.visible write.key) world.clock next result) ∧
      ∀ other, next.calls.lookup other =
        if other = world.nextCall then none else world.calls.lookup other := by
  have there : (world.start (.swapLocking write)).calls.lookup world.nextCall =
      some (.swapLocking write) := lookup_insert _
  have started : ∀ last, Returned (world.start (.swapLocking write)) world.nextCall last →
      ∀ other, last.calls.lookup other =
        if other = world.nextCall then none else world.calls.lookup other := by
    intro last returned other
    rw [returned other, World.start]
    split
    · rfl
    · next different => rw [lookup_insert_ne different]
  have same_holder : (world.start (.swapLocking write)).holder = world.holder := rfl
  have same_state : (world.start (.swapLocking write)).state = world.state := rfl
  cases locked : world.holder with
  | some holder =>
    have blocked : advance limits (world.start (.swapLocking write)) world.nextCall = none := by
      simp only [advance, there, same_holder, locked, Option.isSome_some, if_true]
    rw [swapSteps, finishCall, blocked] at finished
    cases finished
  | none =>
    cases closing : world.state.shuttingDown with
    | true =>
      have refused : advance limits (world.start (.swapLocking write)) world.nextCall =
          some ((world.start (.swapLocking write)).finish world.nextCall,
            .swapped (.error .unavailable)) := by
        simp only [advance, there, same_holder, locked, same_state, closing, isSome_none,
          Bool.false_eq_true, if_false, if_true]
      rw [swapSteps, finishCall, refused] at finished
      cases finished
      refine ⟨_, rfl, ⟨world, ⟨.inl rfl, rfl, rfl⟩, .refused ?_ rfl rfl rfl⟩,
        started _ (returned_finish _ _)⟩
      rintro outcome ⟨⟩
    | false =>
      let held := ((world.start (.swapLocking write)).acquire world.nextCall).goto
        world.nextCall (.swapLocked write)
      have acquired : advance limits (world.start (.swapLocking write)) world.nextCall =
          some (held, .running) := by
        simp only [advance, there, same_holder, locked, same_state, closing, isSome_none,
          Bool.false_eq_true, if_false]
        rfl
      have inside : held.calls.lookup world.nextCall = some (.swapLocked write) := lookup_insert _
      have timed : advance limits held world.nextCall =
          some (held.goto world.nextCall (.swapReading write world.clock), .running) := by
        simp only [advance, inside]
        rfl
      obtain ⟨read, last, result, ended, reading, decided, returned⟩ := @finishCall_reading
        limits (held.goto world.nextCall (.swapReading write world.clock)) world.nextCall write
        world.clock (lookup_insert _) 1
      rw [swapSteps, finishCall_running acquired, finishCall_running timed, ended] at finished
      cases finished
      have through : Returned held world.nextCall next := returned_goto returned
      refine ⟨result, rfl, ⟨read, { reading with }, decided⟩, started _ fun other => ?_⟩
      rw [through other]
      simp only [held, goto, World.acquire]
      split
      · rfl
      · next different => rw [lookup_insert_ne different]

theorem swap_effect {deadline : Deadline}
    (taken : linearStep limits world (.swap write deadline) = some (next, answer)) :
    (system limits).Effect world (.swap write deadline) next answer := by
  simp only [linearStep] at taken
  split at taken
  · cases taken
    exact .refused _ rfl rfl rfl rfl
  · obtain ⟨result, rfl, ⟨read, reading, decided⟩, -⟩ := finishCall_swap taken
    have seen : read.visible = world.visible := by
      funext key
      rw [visible, visible, reading.clock]
      obtain same | ⟨erased, ended⟩ := reading.cache
      · rw [same]
      · rw [erased]
        exact filter_lookup_erase ended key
    cases decided with
    | refused unassigned same_cache same_version same_clock =>
      refine .refused _ rfl ?_ (same_version.trans reading.version) ?_
      · cases result with
        | error error => rfl
        | ok outcome => exact unassigned outcome rfl
      · have kept : next.visible = read.visible := by
          funext key
          rw [visible, visible, same_cache, same_clock]
        exact kept.trans seen
    | @stored outcome condition quality assigned cache version same_clock =>
      rw [reading.version] at assigned cache version
      refine .stored { write with }
        (UInt64.ofNat (world.nextVersion + 1)) rfl assigned ⟨condition, quality⟩ rfl version ?_
      intro key record after
      have after : (next.cache.lookup key).filter (·.isVisible next.clock) = some record := after
      rw [cache, same_clock, lookup_insert_eq_ite, filter_eq_some_iff] at after
      obtain ⟨found, visible⟩ := after
      split at found
      · next same => exact .inl ⟨same, (Option.some.inj found).symm⟩
      · next different =>
        refine .inr ⟨different, ?_⟩
        have before : read.visible key = some record :=
          filter_eq_some_iff.mpr ⟨found, visible⟩
        rw [seen] at before
        exact before

end Calls

/-- The call is a conditional write. -/
def Call.isSwap : Call → Bool
  | .swapLocking _ | .swapLocked _ | .swapReading _ _ | .swapRemoving _ _ | .swapDeciding _ _ _
  | .swapInserting _ _ _ => true
  | _ => false

/-- No conditional write is under way. -/
def NoSwap (world : World) : Prop :=
  ∀ id call, world.calls.lookup id = some call → call.isSwap = false

/-- A step that writes nothing. -/
structure Quiet (world next : World) : Prop where
  no_swap : NoSwap next
  version : world.nextVersion ≤ next.nextVersion
  clock : world.clock ≤ next.clock
  cache : ∀ key record, next.cache.lookup key = some record →
    world.cache.lookup key = some record

theorem NoSwap.insert {call : Call} (no_swap : NoSwap world)
    (calls : next.calls = world.calls.insert id call) (other : call.isSwap = false) :
    NoSwap next := by
  rw [NoSwap, calls]
  exact forall_lookup_insert other no_swap

theorem NoSwap.erase (no_swap : NoSwap world) (calls : next.calls = world.calls.erase id) :
    NoSwap next := by
  rw [NoSwap, calls]
  exact fun own place found => no_swap own place (lookup_of_lookup_erase found)

section Quiet

variable {limits : Limits} {world next : World} {id : Nat} {answer : Answer}

/-- A call that is not a conditional write only removes records. -/
theorem quiet_advance (no_swap : NoSwap world)
    (taken : advance limits world id = some (next, answer)) : Quiet world next := by
  have motion := advance_motion taken
  refine ⟨?_, motion.version_le, motion.clock_le, fun key record found =>
    (motion.cached key record found).resolve_right fun inserts => ?_⟩
  · cases running : world.calls.lookup id with
    | none => simp [advance, running] at taken
    | some call =>
      have other := no_swap id call running
      cases call with simp only [advance, running, finishGet] at taken
      | swapLocking | swapLocked | swapReading | swapRemoving | swapDeciding | swapInserting =>
        cases other
      | invalidating keys count =>
        cases keys with
        | cons key keys =>
          cases taken
          exact no_swap.insert rfl rfl
        | nil =>
          cases taken
          split <;> exact no_swap.erase rfl
      | _ =>
        repeat' split at taken
        all_goals cases taken
        all_goals first | exact no_swap.insert rfl rfl | exact no_swap.erase rfl
  · obtain ⟨write, version, outcome, running, -⟩ := inserts.running
    cases no_swap id _ running

theorem quiet_step {action : Action} (no_swap : NoSwap world)
    (other : ∀ write deadline, action ≠ .compareAndSwap write deadline)
    (taken : step limits world action = some (next, answer)) : Quiet world next := by
  have unchanged : Quiet world world :=
    ⟨no_swap, Nat.le_refl _, Nat.le_refl _, fun _ _ found => found⟩
  have started : ∀ call : Call, call.isSwap = false → Quiet world (world.start call) :=
    fun call outside =>
      ⟨no_swap.insert rfl outside, Nat.le_refl _, Nat.le_refl _, fun _ _ found => found⟩
  cases action with
  | get key deadline | invalidate scope deadline =>
    simp only [step] at taken
    split at taken
    · cases taken; exact unchanged
    · cases taken; exact started _ rfl
  | compareAndSwap write deadline => exact absurd rfl (other write deadline)
  | shutdown => cases taken; exact started _ rfl
  | advance id => exact quiet_advance no_swap taken
  | evict key =>
    simp only [step] at taken
    split at taken <;> cases taken
    exact ⟨no_swap, Nat.le_refl _, Nat.le_refl _, fun _ _ found => lookup_of_lookup_erase found⟩
  | expire key =>
    simp only [step] at taken
    repeat' split at taken
    all_goals cases taken
    · exact ⟨no_swap, Nat.le_refl _, Nat.le_refl _, fun _ _ found => lookup_of_lookup_erase found⟩
    · exact { unchanged with }
  | tick duration =>
    cases taken
    exact ⟨no_swap, Nat.le_refl _, Nat.le_add_right _ _, fun _ _ found => found⟩

theorem linearStep_other {action : Action}
    (taken : linearStep limits world (.other action) = some (next, answer)) :
    step limits world action = some (next, answer) ∧
      ∀ write deadline, action ≠ .compareAndSwap write deadline := by
  cases action with
  | compareAndSwap write deadline => cases taken
  | get | invalidate | shutdown | advance | evict | expire | tick =>
    exact ⟨by simpa only [linearStep] using taken, by simp⟩

theorem noSwap_linearStep (no_swap : NoSwap world)
    (taken : linearStep limits world operation = some (next, answer)) : NoSwap next := by
  cases operation with
  | swap write deadline =>
    simp only [linearStep] at taken
    split at taken
    · cases taken; exact no_swap
    · obtain ⟨result, rfl, -, returned⟩ := finishCall_swap taken
      intro own place found
      rw [returned own] at found
      split at found <;> try cases found
      exact no_swap own place found
  | other action =>
    obtain ⟨stepped, other⟩ := linearStep_other taken
    exact (quiet_step no_swap other stepped).no_swap

end Quiet

/-- The Moka store meets the specification of conditional writes. -/
def specified (limits : Limits) : (system limits).Specified where
  invariant := NoSwap
  initially := fun _ _ found => by cases found
  preserved := fun _ _ _ _ no_swap taken => noSwap_linearStep no_swap taken
  empty := fun _ => rfl
  effect := by
    intro world operation next answer no_swap taken
    cases operation with
    | swap write deadline => exact swap_effect taken
    | other action =>
      obtain ⟨stepped, other⟩ := linearStep_other taken
      have quiet := quiet_step no_swap other stepped
      refine .other rfl quiet.version fun key record seen => ?_
      have seen : (next.cache.lookup key).filter (·.isVisible next.clock) = some record := seen
      obtain ⟨found, visible⟩ := filter_eq_some_iff.mp seen
      refine filter_eq_some_iff.mpr ⟨quiet.cache key record found, ?_⟩
      by_contra hidden
      have ended := isVisible_antitone quiet.clock (Bool.eq_false_iff.mpr hidden)
      rw [ended] at visible
      cases visible

end FluxDns.Cache.Moka

namespace FluxDns.Cache

open Memory Execution AList

/-- Both stores keep the discipline of conditional writes in every run. -/
theorem compare_and_swap_discipline (memory : Memory.Limits) (moka : Moka.Limits) :
    (∀ actions, (system memory).KeepsDiscipline actions) ∧
      ∀ operations, (Moka.system moka).KeepsDiscipline operations :=
  ⟨(specified memory).keepsDiscipline, (Moka.specified moka).keepsDiscipline⟩

section Wrap

variable {number : Nat} {state : State}

/-- The record that the given number of chained writes leaves. -/
def chainedRecord : Nat → Option CacheRecord
  | 0 => none
  | number + 1 => some ⟨UInt64.ofNat (number + 1), Moka.sampleEntry 0 second⟩

/-- A write on the version that the write before it was given. -/
def chainedCall (number : Nat) : SwapCall :=
  ⟨Moka.sampleKey,
    match number with
    | 0 => .absent
    | number + 1 => .version (UInt64.ofNat (number + 1)),
    Moka.sampleEntry 0 second⟩

def unlimited : Limits := ⟨none, fun _ => 0⟩

def chainedWrites (first count : Nat) : List Memory.Action :=
  (List.range' first count).map fun number => .compareAndSwap (chainedCall number) ⟨second⟩

/-- The state between two chained writes. -/
structure Chained (number : Nat) (state : State) : Prop where
  clock : state.clock = 0
  open_ : state.shuttingDown = false
  version : state.nextVersion = number
  record : state.records.lookup Moka.sampleKey = chainedRecord number

theorem chainedRecord_visible (number : Nat) :
    (chainedRecord number).any (fun record => !record.isVisible 0) = false := by
  have visible : decide (0 < (Moka.sampleEntry 0 second).retentionDeadline) = true := by decide
  cases number with
  | zero => rfl
  | succ number =>
    rw [chainedRecord, Option.any_some, CacheRecord.isVisible, visible]
    rfl

theorem chainedCall_holds (number : Nat) :
    (chainedCall number).condition.holds ((chainedRecord number).map (·.version)) = true := by
  cases number with
  | zero => rfl
  | succ number => exact beq_self_eq_true (some (UInt64.ofNat (number + 1)))

theorem chainedCall_quality (number : Nat) :
    (chainedRecord number).any (fun record =>
      decide ((chainedCall number).entry.quality.rank < record.entry.quality.rank) &&
      record.isFresh 0) = false := by
  cases number with
  | zero | succ number => rfl

theorem chained_swap (chained : Chained number state) :
    compareAndSwap unlimited state (chainedCall number) =
      (refreshStats unlimited { state with
          nextVersion := number + 1
          records := state.records.insert Moka.sampleKey
            ⟨UInt64.ofNat (number + 1), Moka.sampleEntry 0 second⟩ },
        .ok (if (chainedRecord number).isSome then .replaced (UInt64.ofNat (number + 1))
          else .inserted (UInt64.ofNat (number + 1)))) := by
  obtain ⟨clock, _, version, record⟩ := chained
  have record : state.records.lookup (chainedCall number).key = chainedRecord number := record
  have kept : dropEnded unlimited state (chainedCall number).key = state := by
    rw [dropEnded, record, clock, chainedRecord_visible]
    rfl
  have capacity : unlimited.maxWeight = none := rfl
  rw [compareAndSwap]
  simp only [kept, record, clock, version, chainedCall_holds, chainedCall_quality, capacity,
    enforceCapacity, Option.any_none, not_true_eq_false, if_false, Bool.false_eq_true]
  rfl

theorem chained_step (chained : Chained number state) :
    ∃ next answer,
      step unlimited state (.compareAndSwap (chainedCall number) ⟨second⟩) = some (next, answer) ∧
      (system unlimited).assigned answer = some (UInt64.ofNat (number + 1)) ∧
      Chained (number + 1) next := by
  have unexpired : ¬Deadline.isExpired ⟨second⟩ state.clock = true := by
    rw [chained.clock]
    decide
  have stepped : step unlimited state (.compareAndSwap (chainedCall number) ⟨second⟩) =
      some ((compareAndSwap unlimited state (chainedCall number)).1,
        .swapped (compareAndSwap unlimited state (chainedCall number)).2) := by
    rw [step, if_neg unexpired, chained.open_]
    rfl
  rw [chained_swap chained] at stepped
  refine ⟨_, _, stepped, ?_, chained.clock, chained.open_, rfl, lookup_insert _⟩
  cases number with
  | zero | succ number => rfl

/-- Chained writes are given the numbers that follow the counter, modulo the size of a version. -/
theorem versions_chainedWrites (count : Nat) (chained : Chained number state) :
    (system unlimited).versions
        (transitions (step unlimited) state (chainedWrites number count)) =
      (List.range' (number + 1) count).map UInt64.ofNat := by
  induction count generalizing number state with
  | zero => rfl
  | succ count induction =>
    obtain ⟨next, answer, stepped, given, chained⟩ := chained_step chained
    have called : (system unlimited).call (.compareAndSwap (chainedCall number) ⟨second⟩) =
        some (chainedCall number) := rfl
    have written := @StoreSystem.written_eq_some (system unlimited)
      ⟨state, _, answer, next⟩ _ _ called given
    rw [List.range'_succ, List.map_cons, ← induction chained, StoreSystem.versions]
    simp only [chainedWrites, List.range'_succ, List.map_cons, transitions, stepped]
    rw [List.filterMap_cons_some (by rw [written]; rfl)]
    rfl

/-- The write after the last version starts again at version zero. -/
theorem versions_wrap : ∃ actions,
    ¬((system unlimited).versions ((system unlimited).steps actions)).Pairwise (· < ·) := by
  refine ⟨chainedWrites 0 (1 + (u64Size - 1)), fun increasing => ?_⟩
  have start : Chained 0 (system unlimited).initial := ⟨rfl, rfl, rfl, rfl⟩
  have versions := versions_chainedWrites (1 + (u64Size - 1)) start
  have last : u64Size ∈ List.range' 2 (u64Size - 1) := by
    rw [List.mem_range']
    exact ⟨u64Size - 2, by unfold u64Size; omega⟩
  change List.Pairwise (· < ·) ((system unlimited).versions (transitions (step unlimited)
    (system unlimited).initial _)) at increasing
  rw [versions, Nat.add_comm 1, List.range'_succ, List.map_cons, List.pairwise_cons] at increasing
  have wrapped := increasing.1 (UInt64.ofNat u64Size) (List.mem_map_of_mem last)
  exact absurd wrapped (by decide)

end Wrap

end FluxDns.Cache
