import FluxDns.Cache.RefreshInvariant

/-!
# What bounds optimistic refreshes

A permit starts at most one refresh, a finalizer runs at most 64 tasks, and of all refreshes of one
version only one replaces the record.  Lookups of the same stale record have permits of their own,
so that their refreshes are not coalesced.
-/

namespace FluxDns.Cache.Refresh

open Execution Moka Option

variable {world : World} {setting : Setting} {next : World} {record : CacheRecord}

/-- What bounds the refreshes in a state. -/
structure Bounded (world : World) : Prop where
  /-- A lookup starts at most one refresh. -/
  once : world.scheduled.Nodup
  task_scheduled : ∀ id task, world.tasks.lookup id = some task → task.request ∈ world.scheduled
  /-- At most one task of a lookup runs. -/
  distinct : ∀ id other task otherTask, world.tasks.lookup id = some task →
    world.tasks.lookup other = some otherTask → task.request = otherTask.request → id = other
  capacity : ∀ core, world.tasks.count (Task.runsOn core) ≤ finalizerCapacity
  /-- Of the refreshes of one version only one replaces the record. -/
  replaced_once : (∀ store, (world.stores store).nextVersion < u64Size) →
    world.replacements.Nodup

/-- What is reported as coalesced. -/
structure Reported (transition : Transition World Action Answer) : Prop where
  /-- Only a request whose permit was not admitted is reported as coalesced. -/
  coalesced : transition.output = .finished .coalesced → ∃ id decision now request,
    transition.action = .answer id decision now ∧
      transition.before.requests.lookup id = some request ∧ request.permit.admitted = false
  /-- A permit is only refused when all leases of the facade are taken. -/
  unadmitted : ∀ core key now failure record permit,
    transition.action = .lookup core key now failure →
      transition.output = .looked (.ok (.stale record permit)) → permit.admitted = false →
        usizeMax ≤ transition.before.requests.count (Request.leases core) +
          transition.before.tasks.count (Task.leases core)

theorem answer_coalesced {id : Nat} {request : Request}
    {decision : CacheDecision} {now : Instant} (unconsumed : request.permit.consumed = false)
    (coalesced : (answer world id request record decision now).2 = .finished .coalesced) :
    request.permit.admitted = false := by
  unfold answer at coalesced
  split at coalesced <;> try cases coalesced
  split at coalesced <;> try cases coalesced
  next permit consumed =>
  unfold CacheRefreshPermit.tryConsume at consumed
  split at consumed <;> try cases consumed
  next unusable => simpa [unconsumed] using unusable

theorem cacheActivityOutcome_ne_coalesced (result : Except PortErrorClass CacheWriteOutcome) :
    cacheActivityOutcome result ≠ .coalesced := by
  rcases result with error | (version | version | current | _) <;> simp [cacheActivityOutcome]

theorem prepare_ne_coalesced (setting : Setting) (world : World) (id : Nat) (task : Task)
    (prepared : Option CacheKey) (now : Instant) (failure : Option PortErrorClass) :
    (prepare setting world id task prepared now failure).2 ≠ .finished .coalesced := by
  unfold prepare
  repeat' split
  all_goals simp

theorem submit_ne_coalesced (setting : Setting) (world : World) (id : Nat) (request : Request)
    (target : Nat) : (submit setting world id request target).2 ≠ .finished .coalesced := by
  unfold submit
  dsimp only
  repeat' split
  all_goals simp

theorem write_ne_coalesced {id : Nat} {task : Task} {key : CacheKey} {condition : CacheCondition}
    {entry : CacheEntry} {deadline : Deadline} {output : Answer}
    (taken : write setting world id task key condition entry deadline = some (next, output)) :
    output ≠ .finished .coalesced := by
  simp only [write] at taken
  split at taken <;> cases taken
  next store result stepped =>
  intro same
  exact cacheActivityOutcome_ne_coalesced result (Answer.finished.inj same)

variable (inv : Invariant setting world)

include inv

theorem Invariant.bounded : Bounded world where
  once := inv.requests.nodup
  task_scheduled := inv.tasks.scheduled
  distinct := inv.tasks.unique
  capacity core := by
    have capacity := (inv.balanced core).capacity
    omega
  replaced_once := inv.writes.nodup

theorem Invariant.reported_coalesced {action : Action}
    (taken : step setting world action = some (next, .finished .coalesced)) :
    ∃ id decision now request, action = .answer id decision now ∧
      world.requests.lookup id = some request ∧ request.permit.admitted = false := by
  cases action with simp only [step] at taken
  | answer id decision now =>
    split at taken <;> try cases taken
    next request present =>
    split at taken <;> try cases taken
    next record phase =>
    have unconsumed := inv.requests.unconsumed id request record present phase
    have coalesced := congrArg Prod.snd (some.inj taken)
    exact ⟨id, decision, now, request, rfl, present, answer_coalesced unconsumed coalesced⟩
  | prepare id prepared now failure =>
    split at taken <;> try cases taken
    split at taken <;> try cases taken
    exact absurd (congrArg Prod.snd (some.inj taken))
      (prepare_ne_coalesced setting world id _ prepared now failure)
  | write id unchanged now revision deadline =>
    repeat' split at taken
    all_goals first
      | exact absurd rfl (write_ne_coalesced taken)
      | cases taken
  | schedule id target =>
    split at taken <;> try cases taken
    split at taken <;> try cases taken
    exact absurd (congrArg Prod.snd (some.inj taken))
      (submit_ne_coalesced setting world id _ target)
  | store | lookup | leave | proceed | exchange | enter | exit | shutdown | cancelled =>
    repeat' split at taken
    all_goals cases taken

theorem Invariant.reported_unadmitted {core : Nat} {key : CacheKey} {now : Instant}
    {failure : Option PortErrorClass} {permit : CacheRefreshPermit}
    (taken : step setting world (.lookup core key now failure) =
      some (next, .looked (.ok (.stale record permit))))
    (unadmitted : permit.admitted = false) :
    usizeMax ≤ world.requests.count (Request.leases core) +
      world.tasks.count (Task.leases core) := by
  have looked := lookup_looked setting world core key now failure
  have balanced := inv.balanced core
  simp only [step] at taken
  generalize world.lookup setting core key now failure = found at looked taken
  obtain ⟨found, result⟩ := found
  have result_eq : result = .ok (.stale record permit) := by
    split at taken <;> cases taken <;> rfl
  subst result_eq
  cases looked with
  | unleased same refused =>
    obtain ⟨-, full⟩ := refused record permit rfl
    unfold RefreshAdmission.tryAcquire at full
    split at full <;> try cases full
    next reached =>
    rw [balanced.unbounded, balanced.leases] at reached
    rcases reached with reached | reached
    · exact reached
    · exact Nat.le_of_eq reached.symm
  | leased other acquired acquire next_eq result_eq =>
    cases result_eq
    cases unadmitted

omit inv

/-- In every run of the cores that `build_cache_facade` sets up, refreshes are bounded for each
lookup, finalizer and version, and a lookup is only reported as coalesced without a lease. -/
theorem refreshes_bounded (setting : Setting) (actions : List Action) :
    ∀ transition ∈ transitions (step setting) .initial actions,
      Bounded transition.after ∧ Reported transition := by
  intro transition member
  obtain ⟨invariant, taken⟩ := invariant_step.of_mem_transitions (invariant_initial setting) member
  refine ⟨(invariant_step _ _ _ _ invariant taken).bounded, fun coalesced => ?_,
    fun core key now failure record permit looks found unadmitted => ?_⟩
  · rw [coalesced] at taken
    exact invariant.reported_coalesced taken
  · rw [looks, found] at taken
    exact invariant.reported_unadmitted taken unadmitted

/-- No permit and no lease of a core is lost. -/
theorem balanced_of_reachable (core : Nat) :
    Reachable (step setting) .initial ≤ fun world =>
      Balanced world.requests world.tasks core (world.cores core) :=
  fun _ reachable =>
    (invariant_step.of_reachable (invariant_initial setting) reachable).balanced core

section Twice

/-- The number of exchanges that run for a stale record. -/
def World.exchanges (world : World) (key : CacheKey) (version : UInt64) : Nat :=
  world.tasks.count fun task => task.staleKey == key && task.staleVersion == version &&
    match task.stage with
    | .exchanging _ _ => true
    | _ => false

def sampleSetting : Setting where
  limits := sampleLimits
  codec := ⟨fun _ => none, fun _ => none⟩
  options _ := ⟨true, true, ⟨5 * second, some (30 * second), none, some (30 * second)⟩⟩
  store _ := 0

def staleEntry : CacheEntry := { sampleEntry 0 second with staleUntil := some (30 * second) }

def sampleDecision : CacheDecision :=
  .pool .global (some second) (some (20 * second)) (some (20 * second))

/-- Two requests find the record two seconds after it was written. -/
def twoLookups : List Action :=
  [.store 0 (.swap ⟨sampleKey, .absent, staleEntry⟩ ⟨100 * second⟩),
    .store 0 (.other (.tick (2 * second))),
    .lookup 0 sampleKey (2 * second) none,
    .lookup 0 sampleKey (2 * second) none,
    .answer 0 sampleDecision (2 * second),
    .answer 1 sampleDecision (2 * second),
    .schedule 0 0, .schedule 1 0,
    .prepare 2 (some sampleKey) (2 * second) none,
    .prepare 3 (some sampleKey) (2 * second) none]

/-- The bounds hold after a step of this run. -/
theorem twoLookups_bounded : ∃ transition ∈ transitions (step sampleSetting) .initial twoLookups,
      Bounded transition.after ∧ Reported transition := by
  have taken : (transitions (step sampleSetting) .initial twoLookups).length = 10 := by
    decide +kernel
  obtain ⟨transition, member⟩ := List.exists_mem_of_length_pos (by rw [taken]; decide)
  exact ⟨transition, member, refreshes_bounded sampleSetting twoLookups transition member⟩

/-- Both lookups have an exchange of their own, and neither is reported as coalesced. -/
theorem two_exchanges_of_one_record :
    (run (step sampleSetting) .initial twoLookups).map (·.exchanges sampleKey 1) = some 2 ∧
      ((transitions (step sampleSetting) .initial twoLookups).map (·.output)).drop 4 =
        [.refreshing, .refreshing, .submitted, .submitted, .done, .done] := by
  decide +kernel

end Twice

end FluxDns.Cache.Refresh
