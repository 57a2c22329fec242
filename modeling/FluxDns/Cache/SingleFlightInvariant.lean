import Mathlib.Data.List.Rotate
import FluxDns.Cache.SingleFlight

/-!
# The invariant of single-flight loads

One invariant ties the load table to the leases, waiters, wakers and recorded completions.  Each
operation is first described by what it does to these parts, and keeps the invariant by that
description alone.
-/

namespace FluxDns.Cache.SingleFlight

open AList World Waiter MemoryState

variable {state : MemoryState} {key : CacheKey} {completion : CacheLoadCompletion} {world : World}
  {token : Nat} {load : MemoryLoad} {lease : Lease} {waiter : Waiter} {next : World}
  {answer : Answer} {generation : Generation} {error : PortErrorClass} {taken : List Waker}

theorem completeLoad_ok {next : MemoryState}
    (completed : completeLoad state key generation completion = .ok (taken, next)) :
    ∃ load, state.loads.lookup key = some load ∧ load.generation.value = generation.value ∧
      load.completion = none ∧ taken = load.waiters ∧
      next = { state with
        loads :=
          if load.followers = 0 then state.loads.erase key
          else state.loads.insert key (load.complete completion) } := by
  unfold completeLoad at completed
  split at completed <;> try cases completed
  rename_i load found
  split at completed
  · cases completed
  · rename_i running
    rw [not_or, not_not, Bool.not_eq_true, Option.isSome_eq_false_iff,
      Option.isNone_iff_eq_none] at running
    cases completed
    exact ⟨load, found, running.1, running.2, rfl, rfl⟩

/-- A completion is only refused for a load that is gone, replaced or already completed. -/
theorem completeLoad_error (refused : completeLoad state key generation completion = .error error)
    (load : MemoryLoad) (found : state.loads.lookup key = some load)
    (same : load.generation = generation) : load.completion ≠ none := by
  intro running
  simp [completeLoad, found, same, running] at refused

/-- `next` is `state` with more wakers registered in the load of a key. -/
structure Registers (state next : MemoryState) (key : CacheKey) (load : MemoryLoad)
    (wakers : List Waker) : Prop where
  lookup : ∀ other, next.loads.lookup other =
    if other = key then some { load with waiters := load.waiters ++ wakers }
    else state.loads.lookup other
  shuttingDown : next.shuttingDown = state.shuttingDown

theorem Registers.refl (found : state.loads.lookup key = some load) :
    Registers state state key load [] where
  lookup other := by
    split
    · next same =>
      subst same
      rw [found, List.append_nil]
    · rfl
  shuttingDown := rfl

theorem Registers.trans {middle next : MemoryState} {first second : List Waker}
    (left : Registers state middle key load first)
    (right : Registers middle next key { load with waiters := load.waiters ++ first } second) :
    Registers state next key load (first ++ second) where
  lookup other := by
    rw [right.lookup, left.lookup]
    split <;> simp
  shuttingDown := right.shuttingDown.trans left.shuttingDown

/-- The outcome of polling a waiter whose load is in the table. -/
structure PollSpec (state : MemoryState) (key : CacheKey) (load : MemoryLoad)
    (wakers : List Waker) (polled : MemoryState × LoadPoll) : Prop where
  registers : Registers state polled.1 key load wakers
  completion_of_ready : ∀ completion, polled.2 = .ready (.ok completion) →
    load.completion = some completion
  no_violation : polled.2 ≠ .ready (.error .protocolViolation)

theorem pollLoad_spec (found : state.loads.lookup key = some load) (deadline : Deadline)
    (now : Instant) (waker : Waker) :
    ∃ wakers, PollSpec state key load wakers
        (pollLoad state key load.generation deadline now waker) ∧
      ((pollLoad state key load.generation deadline now waker).2 = .pending →
        load.completion = none ∧ waker ∈ load.waiters ++ wakers) := by
  simp only [pollLoad, found, ne_eq, not_true_eq_false, if_false]
  split
  · next completion completed =>
    refine ⟨[], ⟨.refl found, ?_, ?_⟩, ?_⟩ <;> simp [completed]
  · next running =>
    split
    · refine ⟨[], ⟨.refl found, ?_, ?_⟩, ?_⟩ <;> simp
    · split
      · next known =>
        refine ⟨[], ⟨.refl found, ?_, ?_⟩, ?_⟩ <;> simp [running, known]
      · refine ⟨[waker], ⟨⟨?_, rfl⟩, ?_, ?_⟩, ?_⟩
        · intro other
          exact lookup_insert_eq_ite state.loads key other _
        all_goals simp [running]

theorem pollBranches_spec (poll : WaitPoll) (key : CacheKey) (branches : List WaitBranch)
    (found : state.loads.lookup key = some load) :
    ∃ wakers, PollSpec state key load wakers
        (pollBranches poll key load.generation branches state) ∧
      ((pollBranches poll key load.generation branches state).2 = .pending →
        .load ∈ branches → load.completion = none ∧ poll.waker ∈ load.waiters ++ wakers) := by
  induction branches generalizing state load with
  | nil => refine ⟨[], ⟨.refl found, ?_, ?_⟩, ?_⟩ <;> simp [pollBranches]
  | cons branch branches induction =>
    cases branch with
    | load =>
      obtain ⟨wakers, spec, registered⟩ := pollLoad_spec found poll.deadline poll.now poll.waker
      rw [pollBranches]
      generalize pollLoad state key load.generation poll.deadline poll.now poll.waker = polled
        at spec registered
      obtain ⟨next, outcome⟩ := polled
      cases outcome with
      | ready result => exact ⟨wakers, spec, by simp⟩
      | pending =>
        obtain ⟨running, known⟩ := registered rfl
        have found_next : next.loads.lookup key =
            some { load with waiters := load.waiters ++ wakers } := by
          rw [spec.registers.lookup, if_pos rfl]
        obtain ⟨more, rest, -⟩ := induction found_next
        refine ⟨wakers ++ more, ⟨spec.registers.trans rest.registers,
          rest.completion_of_ready, rest.no_violation⟩, fun _ _ => ⟨running, ?_⟩⟩
        rw [← List.append_assoc]
        exact List.mem_append_left _ known
    | timer | cancellation =>
      rw [pollBranches]
      split
      · refine ⟨[], ⟨.refl found, ?_, ?_⟩, ?_⟩ <;> simp
      · obtain ⟨wakers, spec, registered⟩ := induction found
        exact ⟨wakers, spec, fun pending mem => registered pending (by simpa using mem)⟩

theorem waitLoad_spec (poll : WaitPoll) (found : state.loads.lookup key = some load) :
    ∃ wakers, PollSpec state key load wakers (waitLoad poll key load.generation state) ∧
      ((waitLoad poll key load.generation state).2 = .pending →
        load.completion = none ∧ poll.waker ∈ load.waiters ++ wakers) := by
  obtain ⟨wakers, spec, registered⟩ := pollBranches_spec poll key poll.branches found
  have visited : WaitBranch.load ∈ poll.branches := by
    simp [WaitPoll.branches, List.mem_rotate]
  exact ⟨wakers, spec, fun pending => registered pending visited⟩

def World.waitersOf (world : World) (key : CacheKey) : Nat :=
  world.waiters.count fun waiter => waiter.key = key

/-- What holds between any two operations. -/
structure Invariant (world : World) : Prop where
  lease_token : ∀ token lease, world.leases.lookup token = some lease →
    lease.generation.count = token
  lease_unique : ∀ first second left right, world.leases.lookup first = some left →
    world.leases.lookup second = some right → left.key = right.key → first = second
  lease_running : ∀ token lease, world.leases.lookup token = some lease →
    world.store.shuttingDown = false → ∃ load, world.store.loads.lookup lease.key = some load ∧
      load.generation = lease.generation ∧ load.completion = none
  running_lease : ∀ key load, world.store.loads.lookup key = some load → load.completion = none →
    world.store.shuttingDown = false ∧ ∃ lease,
      world.leases.lookup load.generation.count = some lease ∧ lease.key = key
  load_bound : ∀ key load, world.store.loads.lookup key = some load →
    load.generation.count ≤ world.nextGeneration
  load_key : ∀ first second left right, world.store.loads.lookup first = some left →
    world.store.loads.lookup second = some right → left.generation = right.generation →
    first = second
  waiter_token : ∀ token waiter, world.waiters.lookup token = some waiter →
    token < world.nextWaiter
  waiter_load : ∀ token waiter, world.waiters.lookup token = some waiter →
    ∃ load, world.store.loads.lookup waiter.key = some load ∧ load.generation = waiter.generation
  followers_eq : ∀ key load, world.store.loads.lookup key = some load →
    load.followers = world.waitersOf key
  completed_followed : ∀ key load, world.store.loads.lookup key = some load →
    load.completion ≠ none → load.followers ≠ 0
  pending_registered : ∀ token waiter waker load, world.waiters.lookup token = some waiter →
    waiter.pending = some waker → world.store.loads.lookup waiter.key = some load →
    load.completion = none → waker ∈ load.waiters ∧ waiter.woken = false
  pending_woken : ∀ token waiter waker load, world.waiters.lookup token = some waiter →
    waiter.pending = some waker → world.store.loads.lookup waiter.key = some load →
    load.completion ≠ none → waker ∈ world.waking ∨ waiter.woken = true
  recorded_iff : ∀ key load completion, world.store.loads.lookup key = some load →
    ((load.generation, completion) ∈ world.recorded ↔ load.completion = some completion)
  recorded_nodup : (world.recorded.map Prod.fst).Nodup
  recorded_bound : ∀ entry ∈ world.recorded, entry.1.count ≤ world.nextGeneration

theorem Invariant.followers_ne_zero (inv : Invariant world)
    (held : world.waiters.lookup token = some waiter)
    (found : world.store.loads.lookup waiter.key = some load) : load.followers ≠ 0 := by
  rw [inv.followers_eq _ _ found]
  exact (count_pos_of_lookup held (decide_eq_true rfl)).ne'

theorem invariant_initial : Invariant initial := by
  constructor <;> simp [initial]

variable (inv : Invariant world)

include inv

theorem Invariant.follow (found : world.store.loads.lookup key = some load)
    (fits : world.waiters.entries.length + 1 < u64Size) : Invariant (world.follow key load) := by
  have fresh := notMem_of_forall_lookup_lt inv.waiter_token
  have followers : min (load.followers + 1) (u64Size - 1) = load.followers + 1 := by
    have bound : load.followers ≤ world.waiters.entries.length := by
      rw [inv.followers_eq key load found]
      exact List.countP_le_length
    omega
  have counts (other : CacheKey) : (world.follow key load).waitersOf other =
      world.waitersOf other + if key = other then 1 else 0 := by
    simp [waitersOf, World.follow, count_insert_of_notMem fresh]
  have parts := inv
  cases parts
  constructor
  case followers_eq =>
    intro other next present
    simp only [World.follow, lookup_insert_eq_ite, followers] at present
    grind
  all_goals
    simp only [World.follow, lookup_insert_eq_ite, followers]
    grind

theorem Invariant.lead (absent : world.store.loads.lookup key = none)
    (serving : world.store.shuttingDown = false) : Invariant (world.lead key) := by
  have none_waiting : world.waitersOf key = 0 := by
    by_contra waiting
    obtain ⟨token, waiter, present, same⟩ := exists_of_count_pos (Nat.pos_of_ne_zero waiting)
    obtain ⟨load, found, -⟩ := inv.waiter_load _ _ present
    rw [decide_eq_true_iff] at same
    rw [same, absent] at found
    cases found
  have counts (other : CacheKey) : (world.lead key).waitersOf other = world.waitersOf other := rfl
  have parts := inv
  cases parts
  constructor
  case lease_running =>
    intro token lease present _
    simp only [World.lead, lookup_insert_eq_ite] at present ⊢
    split at present
    · cases present
      exact ⟨_, if_pos rfl, rfl, rfl⟩
    · obtain ⟨load, found, same, running⟩ := inv.lease_running token lease present serving
      have different : lease.key ≠ key := by
        intro equal
        rw [equal, absent] at found
        cases found
      exact ⟨load, by rw [if_neg different, found], same, running⟩
  case running_lease =>
    intro other load present running
    simp only [World.lead, freshGeneration, lookup_insert_eq_ite] at present ⊢
    split at present
    · next same =>
      cases present
      exact ⟨serving, _, if_pos rfl, same.symm⟩
    · obtain ⟨-, lease, held, same⟩ := inv.running_lease other load present running
      have older : load.generation.count ≠ world.nextGeneration + 1 := by
        have bound := inv.load_bound other load present
        omega
      exact ⟨serving, lease, by rw [if_neg older, held], same⟩
  all_goals
    try simp only [counts]
    simp only [World.lead, freshGeneration, lookup_insert_eq_ite]
    grind

theorem Invariant.lease_generation (held : world.leases.lookup token = some lease)
    (found : world.store.loads.lookup lease.key = some load) (running : load.completion = none) :
    load.generation = lease.generation := by
  obtain ⟨-, leader, leading, same⟩ := inv.running_lease _ _ found running
  have tokens : load.generation.count = token := inv.lease_unique _ _ _ _ leading held same
  have count_eq : load.generation.count = lease.generation.count := by
    rw [tokens, inv.lease_token token lease held]
  cases generation : load.generation
  simp_all

theorem Invariant.complete {store : MemoryState} (held : world.leases.lookup token = some lease)
    (completed : completeLoad world.store lease.key lease.generation completion =
      .ok (taken, store)) : Invariant (world.complete token lease completion taken store) := by
  obtain ⟨load, found, -, running, rfl, rfl⟩ := completeLoad_ok completed
  have leading := inv.lease_generation held found running
  have fresh : ∀ other, (lease.generation, other) ∉ world.recorded := by
    intro other mem
    rw [← leading] at mem
    rw [(inv.recorded_iff _ _ _ found).mp mem] at running
    cases running
  have lookup (other : CacheKey) : (if load.followers = 0 then world.store.loads.erase lease.key
        else world.store.loads.insert lease.key (load.complete completion)).lookup other =
      if other = lease.key then
        if load.followers = 0 then none
        else some (load.complete completion)
      else world.store.loads.lookup other := by
    split <;> simp [lookup_erase_eq_ite, lookup_insert_eq_ite]
  have counts (other : CacheKey) (store : MemoryState) :
      (world.complete token lease completion load.waiters store).waitersOf other =
        world.waitersOf other := rfl
  have parts := inv
  cases parts
  constructor
  all_goals
    try simp only [counts]
    simp only [World.complete, lookup, lookup_erase_eq_ite]
  case waiter_load =>
    intro waiting waiter present
    obtain ⟨old, old_found, same⟩ := inv.waiter_load waiting waiter present
    split
    · next equal =>
      rw [equal, found] at old_found
      cases old_found
      have populated := inv.followers_ne_zero present (equal ▸ found)
      exact ⟨_, if_neg populated, same⟩
    · exact ⟨old, old_found, same⟩
  all_goals grind

/-- Leases that end or change without a completion keep the invariant once the store shut down. -/
theorem Invariant.leases_after_shutdown (ended : world.store.shuttingDown = true)
    {leases : Map Nat Lease}
    (subset : ∀ token lease, leases.lookup token = some lease →
      ∃ old, world.leases.lookup token = some old ∧ old.key = lease.key ∧
      old.generation = lease.generation) : Invariant { world with leases := leases } := by
  have parts := inv
  cases parts
  constructor
  case lease_token =>
    intro token lease held
    obtain ⟨old, old_held, -, same⟩ := subset token lease held
    rw [← same, inv.lease_token token old old_held]
  case lease_unique =>
    intro first second left right left_held right_held equal
    obtain ⟨old, old_held, old_key, -⟩ := subset first left left_held
    obtain ⟨other, other_held, other_key, -⟩ := subset second right right_held
    exact inv.lease_unique _ _ _ _ old_held other_held (by rw [old_key, other_key, equal])
  case followers_eq => exact inv.followers_eq
  all_goals grind

omit inv

theorem releaseWaiter_lookup (found : state.loads.lookup key = some load)
    (followed : load.followers ≠ 0) (other : CacheKey) :
    (releaseWaiter state key load.generation).loads.lookup other =
      if other = key then
        if load.completion.isSome ∧ load.followers = 1 then none
        else some { load with followers := load.followers - 1 }
      else state.loads.lookup other := by
  have last : load.followers - 1 = 0 ↔ load.followers = 1 := by omega
  simp only [releaseWaiter, found, ne_eq, not_true_eq_false, followed, or_self, if_false, last]
  split <;> simp [lookup_erase_eq_ite, lookup_insert_eq_ite]

theorem releaseWaiter_shuttingDown (state : MemoryState) (key : CacheKey)
    (generation : Generation) :
    (releaseWaiter state key generation).shuttingDown = state.shuttingDown := by
  unfold releaseWaiter
  split
  · rfl
  · split <;> rfl

theorem Invariant.dropWaiter (inv : Invariant world)
    (held : world.waiters.lookup token = some waiter) :
    Invariant { world with
      store := releaseWaiter world.store waiter.key waiter.generation
      waiters := world.waiters.erase token } := by
  obtain ⟨load, found, same⟩ := inv.waiter_load token waiter held
  have followed := inv.followers_ne_zero held found
  have counts (other : CacheKey) : world.waitersOf other =
      (world.waiters.erase token).count (fun waiter => waiter.key = other) +
        if waiter.key = other then 1 else 0 := by
    simpa [waitersOf] using count_erase held fun waiter => decide (waiter.key = other)
  rw [← same]
  have lookup := releaseWaiter_lookup found followed
  have flag := releaseWaiter_shuttingDown world.store waiter.key load.generation
  have parts := inv
  cases parts
  constructor
  case waiter_load =>
    intro waiting other present
    simp only [lookup, lookup_erase_eq_ite] at present ⊢
    split at present <;> try cases present
    next different =>
    obtain ⟨old, old_found, old_same⟩ := inv.waiter_load waiting other present
    split
    · next equal =>
      rw [equal, found] at old_found
      cases old_found
      -- Another waiter of the load is left, so the load stays in the table.
      have remaining : 0 < (world.waiters.erase token).count fun waiter =>
          waiter.key = other.key :=
        count_pos_of_lookup (by rw [lookup_erase_ne different, present]) (decide_eq_true rfl)
      have total := counts other.key
      rw [equal, if_pos rfl, ← inv.followers_eq _ _ found] at total
      rw [equal] at remaining
      exact ⟨_, if_neg (by omega), old_same⟩
    · exact ⟨old, old_found, old_same⟩
  case completed_followed =>
    intro other next present completed
    simp only [lookup] at present
    split at present
    · split at present <;> cases present
      next kept =>
      rw [Option.isSome_iff_ne_none] at kept
      have several : load.followers ≠ 1 := fun one => kept ⟨completed, one⟩
      dsimp only
      omega
    · exact inv.completed_followed other next present completed
  all_goals
    simp only [lookup, flag, lookup_erase_eq_ite, waitersOf]
    grind

theorem Invariant.pollWait (inv : Invariant world) (held : world.waiters.lookup token = some waiter)
    (poll : WaitPoll) :
    Invariant { world with
      store := (waitLoad poll waiter.key waiter.generation world.store).1
      waiters := world.waiters.insert token
        (waiter.afterPoll poll.waker
          (waitLoad poll waiter.key waiter.generation world.store).2) } := by
  obtain ⟨load, found, same⟩ := inv.waiter_load token waiter held
  rw [← same]
  obtain ⟨wakers, spec, registered⟩ := waitLoad_spec poll found
  generalize waitLoad poll waiter.key load.generation world.store = polled at spec registered
  obtain ⟨store, outcome⟩ := polled
  have lookup := spec.registers.lookup
  have flag := spec.registers.shuttingDown
  have after_key : (waiter.afterPoll poll.waker outcome).key = waiter.key := by
    cases outcome <;> rfl
  have after_generation : (waiter.afterPoll poll.waker outcome).generation = waiter.generation := by
    cases outcome <;> rfl
  have counts (other : CacheKey) :
      (world.waiters.insert token (waiter.afterPoll poll.waker outcome)).count
        (fun waiter => waiter.key = other) = world.waitersOf other :=
    count_insert_of_lookup held _ _ (by rw [after_key])
  have pending (waker : Waker) : (waiter.afterPoll poll.waker outcome).pending = some waker →
        load.completion = none ∧ waker ∈ load.waiters ++ wakers ∧
          (waiter.afterPoll poll.waker outcome).woken = false := by
    cases outcome with
    | ready result => simp [afterPoll]
    | pending =>
      intro left
      cases left
      exact ⟨(registered rfl).1, (registered rfl).2, rfl⟩
  dsimp only at lookup flag ⊢
  have parts := inv
  cases parts
  constructor
  case followers_eq =>
    intro other next present
    refine Eq.trans ?_ (counts other).symm
    grind
  all_goals
    simp only [lookup, flag, lookup_insert_eq_ite]
    grind

theorem mem_shutdownRecords {entry : Generation × CacheLoadCompletion} :
    entry ∈ shutdownRecords state ↔ ∃ key load, state.loads.lookup key = some load ∧
      load.completion = none ∧ entry = (load.generation, shutdownCompletion load) := by
  simp only [shutdownRecords, List.mem_map, List.mem_filter, Option.isNone_iff_eq_none,
    lookup_eq_some_iff]
  constructor
  · rintro ⟨stored, ⟨mem, running⟩, rfl⟩
    exact ⟨stored.1, stored.2, mem, running, rfl⟩
  · rintro ⟨key, load, mem, running, rfl⟩
    exact ⟨⟨key, load⟩, ⟨mem, running⟩, rfl⟩

theorem shutdown_lookup (state : MemoryState) (key : CacheKey) :
    (shutdown state).2.loads.lookup key = (state.loads.lookup key).bind fun load =>
      if load.followers = 0 then none
      else some (load.complete (shutdownCompletion load)) := by
  simp only [shutdown, lookup_retain, lookup_mapValues]
  cases state.loads.lookup key with
  | none => rfl
  | some load => by_cases empty : load.followers = 0 <;> simp [empty, Nat.pos_iff_ne_zero]

theorem mem_shutdown_wakers (found : state.loads.lookup key = some load) {waker : Waker}
    (known : waker ∈ load.waiters) : waker ∈ (shutdown state).1 :=
  List.mem_flatMap.mpr ⟨⟨key, load⟩, lookup_eq_some_iff.mp found, known⟩

variable (inv : Invariant world)

include inv

/-- Each load that a shutdown ends has a generation of its own. -/
theorem Invariant.shutdownRecords_nodup : ((shutdownRecords world.store).map Prod.fst).Nodup := by
  rw [shutdownRecords, List.map_map]
  refine List.Nodup.map_on ?_ (world.store.loads.nodupKeys.nodup.filter _)
  intro left left_member right right_member same
  have left_found := lookup_eq_some_iff.mpr (List.mem_of_mem_filter left_member)
  have right_found := lookup_eq_some_iff.mpr (List.mem_of_mem_filter right_member)
  have keys := inv.load_key _ _ _ _ left_found right_found same
  obtain ⟨key, load⟩ := left
  cases keys
  rw [left_found] at right_found
  cases right_found
  rfl

theorem Invariant.shutdown : Invariant world.shutdown := by
  have lookup (key : CacheKey) (load : MemoryLoad)
      (found : world.shutdown.store.loads.lookup key = some load) :
      ∃ old, world.store.loads.lookup key = some old ∧ old.followers ≠ 0 ∧
        load = old.complete (shutdownCompletion old) := by
    rw [World.shutdown, shutdown_lookup] at found
    obtain ⟨old, old_found, kept⟩ := Option.bind_eq_some_iff.mp found
    split at kept
    · cases kept
    · next followed => exact ⟨old, old_found, followed, (Option.some.inj kept).symm⟩
  have records := inv.shutdownRecords_nodup
  have parts := inv
  constructor
  case lease_token => exact inv.lease_token
  case lease_unique => exact inv.lease_unique
  case lease_running =>
    intro _ _ _ serving
    cases serving
  case running_lease =>
    intro key load found running
    obtain ⟨old, -, -, rfl⟩ := lookup key load found
    cases running
  case load_bound =>
    intro key load found
    obtain ⟨old, old_found, -, rfl⟩ := lookup key load found
    exact inv.load_bound key old old_found
  case load_key =>
    intro first second left right left_found right_found same
    obtain ⟨_, first_found, -, rfl⟩ := lookup first left left_found
    obtain ⟨_, second_found, -, rfl⟩ := lookup second right right_found
    exact inv.load_key _ _ _ _ first_found second_found same
  case waiter_token => exact inv.waiter_token
  case waiter_load =>
    intro token waiter held
    obtain ⟨load, found, same⟩ := inv.waiter_load token waiter held
    have populated := inv.followers_ne_zero held found
    refine ⟨load.complete (shutdownCompletion load), ?_, same⟩
    rw [World.shutdown, shutdown_lookup, found]
    simp [populated]
  case followers_eq =>
    intro key load found
    obtain ⟨old, old_found, -, rfl⟩ := lookup key load found
    exact inv.followers_eq key old old_found
  case completed_followed =>
    intro key load found _
    obtain ⟨old, -, populated, rfl⟩ := lookup key load found
    exact populated
  case pending_registered =>
    intro _ waiter _ load _ _ found running
    obtain ⟨old, -, -, rfl⟩ := lookup waiter.key load found
    cases running
  case pending_woken =>
    intro token waiter waker load held left found _
    obtain ⟨old, old_found, -, rfl⟩ := lookup waiter.key load found
    simp only [World.shutdown, List.mem_append]
    cases completion : old.completion with
    | none =>
      have known := (inv.pending_registered token waiter waker old held left old_found completion).1
      exact .inl (.inr (mem_shutdown_wakers old_found known))
    | some _ =>
      have woken := inv.pending_woken token waiter waker old held left old_found
        (by simp [completion])
      exact woken.imp .inl id
  case recorded_iff =>
    intro key load completion found
    obtain ⟨old, old_found, -, rfl⟩ := lookup key load found
    simp only [World.shutdown, List.mem_append, inv.recorded_iff key old completion old_found,
      mem_shutdownRecords]
    cases state : old.completion with
    | none =>
      simp only [shutdownCompletion, state, Option.getD_none, reduceCtorEq, false_or]
      constructor
      · rintro ⟨other, load, other_found, running, same⟩
        cases inv.load_key _ _ _ _ old_found other_found (congrArg Prod.fst same)
        rw [old_found] at other_found
        cases other_found
        simpa [state] using (congrArg Prod.snd same).symm
      · intro same
        exact ⟨key, old, old_found, state, by simp [state, Option.some.inj same]⟩
    | some other =>
      simp only [shutdownCompletion, state, Option.getD_some, or_iff_left_iff_imp]
      rintro ⟨second, load, second_found, running, same⟩
      cases inv.load_key _ _ _ _ old_found second_found (congrArg Prod.fst same)
      rw [old_found] at second_found
      cases second_found
      rw [state] at running
      cases running
  case recorded_nodup =>
    rw [World.shutdown, List.map_append, List.nodup_append]
    refine ⟨inv.recorded_nodup, records, ?_⟩
    intro generation earlier other ended equal
    subst equal
    obtain ⟨entry, mem, rfl⟩ := List.mem_map.mp earlier
    obtain ⟨last, last_member, same⟩ := List.mem_map.mp ended
    obtain ⟨key, load, found, running, rfl⟩ := mem_shutdownRecords.mp last_member
    have generation_eq : load.generation = entry.1 := same
    have completed :=
      (inv.recorded_iff key load entry.2 found).mp (by rw [generation_eq]; exact mem)
    rw [running] at completed
    cases completed
  case recorded_bound =>
    intro entry mem
    rcases List.mem_append.mp mem with earlier | ended
    · exact inv.recorded_bound entry earlier
    · obtain ⟨key, load, found, -, rfl⟩ := mem_shutdownRecords.mp ended
      exact inv.load_bound key load found

theorem Invariant.wake (waker : Waker) : Invariant (world.wake waker) := by
  have after (waiter : Waiter) : (waiter.afterWake world.store waker).key = waiter.key ∧
      (waiter.afterWake world.store waker).generation = waiter.generation ∧
      (waiter.afterWake world.store waker).pending = waiter.pending := by
    unfold afterWake
    split <;> exact ⟨rfl, rfl, rfl⟩
  have counts (key : CacheKey) : (world.wake waker).waitersOf key = world.waitersOf key := by
    simp [waitersOf, World.wake, count, mapValues, List.countP_map, Function.comp_def, after]
  have parts := inv
  cases parts
  constructor
  case pending_registered =>
    intro token waiter left load held pending found running
    simp only [World.wake, lookup_mapValues, Option.map_eq_some_iff] at held found
    obtain ⟨old, old_held, rfl⟩ := held
    rw [(after old).1] at found
    have untouched : old.afterWake world.store waker = old := by
      simp [afterWake, isCompleted, found, running]
    rw [untouched] at pending ⊢
    exact inv.pending_registered token old left load old_held pending found running
  case pending_woken =>
    intro token waiter left load held pending found completed
    simp only [World.wake, lookup_mapValues, Option.map_eq_some_iff] at held found ⊢
    obtain ⟨old, old_held, rfl⟩ := held
    rw [(after old).2.2] at pending
    rw [(after old).1] at found
    by_cases same : left = waker
    · subst same
      simp [afterWake, isCompleted, found, pending,
        Option.isSome_iff_ne_none, completed]
    · rcases inv.pending_woken token old left load old_held pending found completed with
        taken | woken
      · exact .inl ((List.mem_erase_of_ne same).mpr taken)
      · unfold afterWake
        split <;> simp [woken]
  all_goals
    try simp only [counts]
    try simp only [World.wake, lookup_mapValues, Option.map_eq_some_iff]
    grind

theorem Invariant.shuttingDown_of_refused (held : world.leases.lookup token = some lease)
    (refused : completeLoad world.store lease.key lease.generation completion = .error error) :
    world.store.shuttingDown = true := by
  by_contra serving
  rw [Bool.not_eq_true] at serving
  obtain ⟨load, found, same, running⟩ := inv.lease_running token lease held serving
  exact completeLoad_error refused load found same running

theorem Invariant.endLease (held : world.leases.lookup token = some lease)
    (completion : CacheLoadCompletion) {refused : Map Nat Lease}
    (subset : ∀ other left, refused.lookup other = some left →
      ∃ old, world.leases.lookup other = some old ∧ old.key = left.key ∧
      old.generation = left.generation) :
    Invariant (endLease world token lease completion refused).1 := by
  unfold SingleFlight.endLease
  split
  · next completed => exact inv.complete held completed
  · next error =>
    exact inv.leases_after_shutdown (inv.shuttingDown_of_refused held error) subset

theorem Invariant.reserveLoad {deadline : Deadline} {now : Instant}
    (taken : reserveLoad world key deadline now = some (next, answer)) : Invariant next := by
  unfold SingleFlight.reserveLoad at taken
  split at taken
  · cases taken
    exact inv
  split at taken
  · cases taken
    exact inv
  next serving =>
  split at taken
  · next load found =>
    split at taken <;> cases taken
    next fits => exact inv.follow found fits
  · next absent =>
    cases taken
    exact inv.lead absent (by simpa using serving)

theorem Invariant.publishLoad (taken : publishLoad world token completion = some (next, answer)) :
    Invariant next := by
  unfold SingleFlight.publishLoad at taken
  split at taken <;> try cases taken
  next lease held =>
  split at taken <;> try cases taken
  have subset : ∀ other left,
      (world.leases.insert token { lease with consumed := true }).lookup other = some left →
        ∃ old, world.leases.lookup other = some old ∧ old.key = left.key ∧
          old.generation = left.generation :=
    forall_lookup_insert ⟨lease, held, rfl, rfl⟩ fun _ left present => ⟨left, present, rfl, rfl⟩
  have result := inv.endLease held completion subset
  rw [Option.some.inj taken] at result
  exact result

theorem Invariant.dropLease (taken : dropLease world token = some (next, answer)) :
    Invariant next := by
  unfold SingleFlight.dropLease at taken
  split at taken <;> cases taken
  next lease held =>
  refine inv.endLease held (.failed .abandoned) ?_
  intro other left present
  rw [lookup_erase_eq_ite] at present
  split at present
  · cases present
  · exact ⟨left, present, rfl, rfl⟩

omit inv

theorem step_preserves : Execution.Preserves step Invariant := by
  intro world action next answer inv taken
  cases action with
  | reserveLoad key deadline now => exact inv.reserveLoad taken
  | publishLoad token completion | abandonLoad token failure => exact inv.publishLoad taken
  | dropLease token => exact inv.dropLease taken
  | dropWaiter token =>
    simp only [step, dropWaiter] at taken
    split at taken <;> cases taken
    next waiter held => exact inv.dropWaiter held
  | pollWait token poll =>
    simp only [step, pollWait] at taken
    split at taken <;> try cases taken
    next waiter held =>
    split at taken <;> cases taken
    exact inv.pollWait held poll
  | shutdown =>
    cases taken
    exact inv.shutdown
  | wake waker =>
    simp only [step] at taken
    split at taken <;> cases taken
    exact inv.wake waker

theorem reachable_invariant (reachable : Execution.Reachable step initial world) :
    Invariant world :=
  step_preserves.of_reachable invariant_initial reachable

end FluxDns.Cache.SingleFlight
