import FluxDns.Cache.SingleFlightInvariant

/-!
# The single-flight protocol

What the callers of the memory store may rely on in every interleaving, and which reservations join
a load that is still running.
-/

namespace FluxDns.Cache.SingleFlight

open AList Execution World List

variable (world : World)

/-- A key has at most one outstanding leader lease. -/
def SingleLeader : Prop :=
  ∀ first second left right, world.leases.lookup first = some left →
    world.leases.lookup second = some right → left.key = right.key → first = second

/-- The follower counter of a load is the number of outstanding waiters of its generation. -/
def FollowersCounted : Prop :=
  ∀ key load, world.store.loads.lookup key = some load →
    load.followers = world.waiters.count fun waiter =>
      waiter.key = key ∧ waiter.generation.value = load.generation.value

/-- A generation has one completion at most. -/
def CompletionUnique : Prop :=
  ∀ generation first second, (generation, first) ∈ world.recorded →
    (generation, second) ∈ world.recorded → first = second

/-- The load of an outstanding waiter is found, and answers with the recorded completion. -/
def LoadsFound : Prop :=
  ∀ token waiter deadline now waker, world.waiters.lookup token = some waiter →
    let polled := (pollLoad world.store waiter.key waiter.generation deadline now waker).2
    polled ≠ .ready (.error .protocolViolation) ∧
      ∀ completion, polled = .ready (.ok completion) ↔
        (waiter.generation, completion) ∈ world.recorded

/-- `wait_load` never answers a protocol violation, and only completions of its generation. -/
def WaitsAnswered : Prop :=
  ∀ token waiter poll next polled, world.waiters.lookup token = some waiter →
    step world (.pollWait token poll) = some (next, .polled polled) →
    polled ≠ .ready (.error .protocolViolation) ∧
      ∀ completion, polled = .ready (.ok completion) →
        (waiter.generation, completion) ∈ world.recorded

/-- A pending poll left a waker in its load; the step that records the completion takes it out to
wake it, and it stays among the wakers to wake until its task is woken. -/
def PendingWoken : Prop :=
  ∀ token waiter waker, world.waiters.lookup token = some waiter → waiter.pending = some waker →
    ((∀ completion, (waiter.generation, completion) ∉ world.recorded) →
      (∃ load, world.store.loads.lookup waiter.key = some load ∧ waker ∈ load.waiters) ∧
      ∀ action next answer completion, step world action = some (next, answer) →
        (waiter.generation, completion) ∈ next.recorded → waker ∈ next.waking) ∧
    ∀ completion, (waiter.generation, completion) ∈ world.recorded →
      waker ∈ world.waking ∨ waiter.woken = true

/-- Without a lease and a waiter no load is left. -/
def IdleEmpty : Prop := world.leases = ∅ → world.waiters = ∅ → world.store.loads = ∅

/-- The single-flight protocol as its callers see it. -/
structure Protocol : Prop where
  singleLeader : SingleLeader world
  followersCounted : FollowersCounted world
  completionUnique : CompletionUnique world
  loadsFound : LoadsFound world
  waitsAnswered : WaitsAnswered world
  pendingWoken : PendingWoken world
  idleEmpty : IdleEmpty world

variable {world} {next : World} {token : Nat} {answer : Answer} {deadline : Deadline}

variable (inv : Invariant world)

include inv

theorem Invariant.followersCounted : FollowersCounted world := by
  intro key load found
  rw [inv.followers_eq key load found]
  refine countP_congr ?_
  intro entry mem
  have held := lookup_eq_some_iff.mpr mem
  simp only [decide_eq_true_eq]
  constructor
  · intro same
    obtain ⟨own, own_found, own_same⟩ := inv.waiter_load _ _ held
    rw [same, found] at own_found
    cases own_found
    exact ⟨same, by rw [own_same]⟩
  · exact And.left

theorem Invariant.completionUnique : CompletionUnique world := by
  intro generation first second left right
  exact congrArg Prod.snd (inj_on_of_nodup_map inv.recorded_nodup left right rfl)

/-- The load of an outstanding waiter holds exactly the completion recorded for it. -/
theorem Invariant.waiter_completion {waiter : Waiter}
    (held : world.waiters.lookup token = some waiter) :
    ∃ load, world.store.loads.lookup waiter.key = some load ∧
      load.generation = waiter.generation ∧
      ∀ completion, (waiter.generation, completion) ∈ world.recorded ↔
        load.completion = some completion := by
  obtain ⟨load, found, same⟩ := inv.waiter_load token waiter held
  refine ⟨load, found, same, fun completion => ?_⟩
  rw [← same]
  exact inv.recorded_iff _ _ _ found

theorem Invariant.loadsFound : LoadsFound world := by
  intro token waiter deadline now waker held
  obtain ⟨load, found, same, completed⟩ := inv.waiter_completion held
  simp only [completed]
  rw [← same]
  obtain ⟨wakers, spec, -⟩ := pollLoad_spec found deadline now waker
  refine ⟨spec.no_violation, fun completion => ⟨spec.completion_of_ready completion, ?_⟩⟩
  intro recorded
  simp [pollLoad, found, recorded]

theorem Invariant.waitsAnswered : WaitsAnswered world := by
  intro token waiter poll next polled held taken
  obtain ⟨load, found, same, completed⟩ := inv.waiter_completion held
  obtain ⟨wakers, spec, -⟩ := waitLoad_spec poll found
  have answer : polled = (waitLoad poll waiter.key load.generation world.store).2 := by
    simp only [step, SingleFlight.pollWait, held] at taken
    split at taken <;> cases taken
    rw [same]
  rw [answer]
  exact ⟨spec.no_violation, fun completion ready =>
    (completed completion).mpr (spec.completion_of_ready completion ready)⟩

omit inv

theorem endLease_waiters (world : World) (token : Nat) (lease : Lease)
    (completion : CacheLoadCompletion) (refused : Map Nat Lease) :
    (endLease world token lease completion refused).1.waiters = world.waiters := by
  unfold endLease
  split <;> rfl

theorem publishLoad_waiters {completion : CacheLoadCompletion}
    (taken : publishLoad world token completion = some (next, answer)) :
    next.waiters = world.waiters := by
  unfold publishLoad at taken
  split at taken <;> try cases taken
  next lease held =>
  split at taken <;> try cases taken
  have kept := endLease_waiters world token lease completion
    (world.leases.insert token { lease with consumed := true })
  rw [Option.some.inj taken] at kept
  exact kept

theorem waiters_eq_of_recorded {action : Action} (taken : step world action = some (next, answer))
    (records : next.recorded ≠ world.recorded) : next.waiters = world.waiters := by
  cases action with
  | reserveLoad key deadline now =>
    simp only [step, reserveLoad] at taken
    repeat' split at taken
    all_goals cases taken
    all_goals first | rfl | exact absurd rfl records
  | publishLoad token completion | abandonLoad token failure => exact publishLoad_waiters taken
  | dropLease token =>
    simp only [step, dropLease] at taken
    split at taken <;> cases taken
    exact endLease_waiters world token _ _ _
  | dropWaiter token =>
    simp only [step, dropWaiter] at taken
    split at taken <;> cases taken
    exact absurd rfl records
  | pollWait token poll =>
    simp only [step, pollWait] at taken
    repeat' split at taken
    all_goals cases taken
    exact absurd rfl records
  | shutdown =>
    cases taken
    rfl
  | wake waker =>
    simp only [step] at taken
    split at taken <;> cases taken
    exact absurd rfl records

theorem Invariant.pendingWoken (inv : Invariant world) : PendingWoken world := by
  intro token waiter waker held left
  obtain ⟨load, found, same, completed⟩ := inv.waiter_completion held
  refine ⟨fun unrecorded => ?_, fun completion recorded => ?_⟩
  · have running : load.completion = none := by
      cases state : load.completion with
      | none => rfl
      | some completion => exact absurd ((completed completion).mpr state) (unrecorded completion)
    have registered := inv.pending_registered _ _ _ _ held left found running
    refine ⟨⟨load, found, registered.1⟩, ?_⟩
    intro action next answer completion taken recorded
    have kept : next.waiters = world.waiters := by
      refine waiters_eq_of_recorded taken ?_
      intro equal
      exact unrecorded completion (equal ▸ recorded)
    have held_next : next.waiters.lookup token = some waiter := by rw [kept, held]
    have invariant_next := step_preserves _ _ _ _ inv taken
    obtain ⟨load_next, found_next, -, completed_next⟩ := invariant_next.waiter_completion held_next
    have ended : load_next.completion ≠ none := by
      simp [(completed_next completion).mp recorded]
    rcases invariant_next.pending_woken _ _ _ _ held_next left found_next ended with taken | woken
    · exact taken
    · rw [registered.2] at woken
      cases woken
  · exact inv.pending_woken _ _ _ _ held left found (by simp [(completed completion).mp recorded])

theorem Invariant.idleEmpty (inv : Invariant world) : IdleEmpty world := by
  intro no_leases no_waiters
  refine AList.ext (eq_nil_iff_forall_not_mem.mpr ?_)
  rintro ⟨key, load⟩ mem
  have found := lookup_eq_some_iff.mpr mem
  by_cases running : load.completion = none
  · obtain ⟨-, lease, held, -⟩ := inv.running_lease key load found running
    rw [no_leases, lookup_empty] at held
    cases held
  · apply inv.completed_followed key load found running
    rw [inv.followers_eq key load found, waitersOf, no_waiters, count_empty]

/-- A key for concrete runs. -/
def sampleKey : CacheKey := ⟨.global, [1], 1⟩

/-- A deadline that is still ahead at the instant zero. -/
def sampleDeadline : Deadline := ⟨second⟩

/-- A poll at the instant zero that starts with the load and finds nothing else ready. -/
def samplePoll : WaitPoll := ⟨0, 0, sampleDeadline, false, none, 7⟩

/-- A leader, a follower with a pending poll, and the publication that ends the load. -/
def publishedLoad : List Action :=
  [.reserveLoad sampleKey sampleDeadline 0, .reserveLoad sampleKey sampleDeadline 0,
    .pollWait 0 samplePoll, .publishLoad 1 .miss]

variable (transition : Transition World Action Answer)

/-- A reservation that answers with a waiter joins a load whose leader lease is outstanding and
whose completion is not recorded yet. -/
def JoinsRunning : Prop :=
  ∀ key deadline now token generation, transition.action = .reserveLoad key deadline now →
    transition.output = .reserved (.ok (.follower token generation)) →
    (∃ lease, transition.before.leases.lookup generation.count = some lease ∧
      lease.key = key ∧ lease.generation = generation) ∧
    ∀ completion, (generation, completion) ∉ transition.before.recorded

/-- A reservation that is not refused happens while no waiter of an ended load of its key is
outstanding. -/
def NoEndedWaiter : Prop :=
  ∀ key deadline now, transition.action = .reserveLoad key deadline now →
    deadline.isExpired now = false → transition.before.store.shuttingDown = false →
    ∀ token waiter completion, transition.before.waiters.lookup token = some waiter →
      waiter.key = key → (waiter.generation, completion) ∉ transition.before.recorded

/-- A waiter is only handed out for a load of the table. -/
theorem reserveLoad_follower {key : CacheKey} {now : Instant} {generation : Generation}
    (taken : reserveLoad world key deadline now =
      some (next, .reserved (.ok (.follower token generation)))) :
    deadline.isExpired now = false ∧ world.store.shuttingDown = false ∧
      ∃ load, world.store.loads.lookup key = some load ∧ load.generation = generation := by
  unfold reserveLoad at taken
  split at taken <;> try cases taken
  next alive =>
  split at taken <;> try cases taken
  next serving =>
  split at taken <;> try cases taken
  next load found =>
  split at taken <;> cases taken
  exact ⟨by simpa using alive, by simpa using serving, load, found, rfl⟩

theorem reserveLoad_of_lookup {key : CacheKey} {now : Instant}
    {load : MemoryLoad} (taken : reserveLoad world key deadline now = some (next, answer))
    (alive : deadline.isExpired now = false) (serving : world.store.shuttingDown = false)
    (found : world.store.loads.lookup key = some load) :
    answer = .reserved (.ok (.follower world.nextWaiter load.generation)) := by
  simp only [reserveLoad, alive, serving, found, Bool.false_eq_true, if_false] at taken
  split at taken <;> cases taken
  rfl

theorem joinsRunning_iff {move : Transition World Action Answer}
    (inv : Invariant move.before)
    (taken : step move.before move.action = some (move.after, move.output)) :
    JoinsRunning move ↔ NoEndedWaiter move := by
  obtain ⟨world, action, answer, next⟩ := move
  constructor
  · intro joins key deadline now reserve alive serving token waiter completion held same recorded
    subst reserve
    obtain ⟨load, found, generation, -⟩ := inv.waiter_completion held
    rw [same] at found
    have follower := reserveLoad_of_lookup taken alive serving found
    rw [← generation] at recorded
    exact (joins key deadline now _ _ rfl follower).2 completion recorded
  · intro clear key deadline now token generation reserve follower
    subst reserve follower
    obtain ⟨alive, serving, load, found, rfl⟩ := reserveLoad_follower taken
    have unrecorded : ∀ completion, (load.generation, completion) ∉ world.recorded := by
      intro completion recorded
      -- An ended load is kept by one of its waiters.
      have ended := (inv.recorded_iff _ _ _ found).mp recorded
      have followed := inv.completed_followed key load found (by simp [ended])
      rw [inv.followers_eq key load found] at followed
      obtain ⟨other, waiter, held, same⟩ := exists_of_count_pos (Nat.pos_of_ne_zero followed)
      rw [decide_eq_true_iff] at same
      obtain ⟨own, own_found, generation, -⟩ := inv.waiter_completion held
      rw [same, found] at own_found
      cases own_found
      rw [generation] at recorded
      exact clear key deadline now rfl alive serving other waiter completion held same recorded
    refine ⟨?_, unrecorded⟩
    have running : load.completion = none := by
      cases state : load.completion with
      | none => rfl
      | some completion =>
        exact absurd ((inv.recorded_iff _ _ _ found).mpr state) (unrecorded completion)
    obtain ⟨-, lease, held, same⟩ := inv.running_lease key load found running
    exact ⟨lease, held, same, (inv.lease_generation held (same ▸ found) running).symm⟩

/-- In an interleaving every reservation joins only running loads exactly when each of them happens
while no waiter of an ended load of its key is outstanding. -/
theorem reservations_join_running_iff (actions : List Action) :
    (∀ transition ∈ transitions step initial actions, JoinsRunning transition) ↔
      ∀ transition ∈ transitions step initial actions, NoEndedWaiter transition := by
  refine forall₂_congr fun transition member => ?_
  obtain ⟨invariant, taken⟩ := step_preserves.of_mem_transitions invariant_initial member
  exact joinsRunning_iff invariant taken

/-- The second waiter of the load arrives after the publication and still receives its result. -/
def lateReservation : List Action :=
  [.reserveLoad sampleKey sampleDeadline 0, .reserveLoad sampleKey sampleDeadline 0,
    .publishLoad 1 .miss, .reserveLoad sampleKey sampleDeadline 0, .pollWait 1 samplePoll]

theorem lateReservation_joins_ended_load :
    (transitions step initial lateReservation).map (·.output) =
      [.reserved (.ok (.leader ⟨1⟩)), .reserved (.ok (.follower 0 ⟨1⟩)), .published (.ok ()),
        .reserved (.ok (.follower 1 ⟨1⟩)), .polled (.ready (.ok .miss))] ∧
    ¬ ∀ transition ∈ transitions step initial lateReservation,
      JoinsRunning transition := by
  refine ⟨rfl, fun joins => ?_⟩
  have late := joins ((transitions step initial lateReservation).get ⟨3, by decide⟩)
    (get_mem _ _)
  exact (late sampleKey sampleDeadline 0 1 ⟨1⟩ rfl rfl).2 .miss (by decide)

end FluxDns.Cache.SingleFlight
