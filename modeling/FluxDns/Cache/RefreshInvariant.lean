import FluxDns.Cache.OptimisticRefresh

/-!
# The invariant of optimistic refreshes

A request schedules at most one task, the counters of a core agree with the requests and the tasks
that hold its leases and permits, and a version that a refresh has replaced is not seen again.
-/

namespace FluxDns.Cache.Refresh

open Execution AList Function Moka Invariant List CacheCondition RefreshAdmission

/-- No version is replaced twice, as long as the counters have not wrapped. -/
structure Writes (limits : Limits) (stores : Nat → Moka.World)
    (replacements : List Replacement) : Prop where
  specified : ∀ store, (Moka.specified limits).invariant (stores store)
  versions : ∀ store, (stores store).nextVersion < u64Size → ∀ key record,
    (stores store).visible key = some record →
      record.version.toNat ≤ (stores store).nextVersion
  replaced : ∀ replacement ∈ replacements,
    (stores replacement.store).nextVersion < u64Size →
      replacement.version.toNat ≤ (stores replacement.store).nextVersion ∧
        ∀ record, (stores replacement.store).visible replacement.key = some record →
          record.version ≠ replacement.version
  nodup : (∀ store, (stores store).nextVersion < u64Size) → replacements.Nodup

theorem writes_initial (limits : Limits) : Writes limits (fun _ => .initial) [] where
  specified _ := (Moka.specified limits).initially
  versions _ _ key record seen := by
    have unseen := (Moka.specified limits).empty key
    exact absurd (seen.symm.trans unseen) (by simp)
  replaced := by simp
  nodup _ := nodup_nil

section Writes

variable {limits : Limits} {stores : Nat → Moka.World} {replacements : List Replacement}
  {operation : Operation} {answer : Moka.Answer}

/-- What a step of one store means for the writes. -/
structure Grown (before after : Moka.World) : Prop where
  counter : before.nextVersion ≤ after.nextVersion
  versions : after.nextVersion < u64Size → ∀ key record, after.visible key = some record →
    before.visible key = some record ∨
      (record.version.toNat = before.nextVersion + 1 ∧
        after.nextVersion = before.nextVersion + 1)

theorem grown_of_effect {before after : Moka.World}
    (effect : (system limits).Effect before operation after answer) : Grown before after := by
  refine ⟨effect.counter_le, fun small key record seen => ?_⟩
  cases effect with
  | stored call version called given allowed next_version counted visible =>
    have counted : after.nextVersion = before.nextVersion + 1 := counted
    obtain ⟨-, rfl⟩ | ⟨-, before_seen⟩ := visible key record seen
    · refine .inr ⟨?_, counted⟩
      have number : version = UInt64.ofNat (before.nextVersion + 1) := next_version
      rw [counted] at small
      rw [number, UInt64.toNat_ofNat']
      exact Nat.mod_eq_of_lt small
    · exact .inl before_seen
  | refused call called given counted visible => exact .inl ((congrFun visible key).symm.trans seen)
  | other called counted visible => exact .inl (visible key record seen)

theorem Writes.step (writes : Writes limits stores replacements) {store : Nat} {next : Moka.World}
    (taken : linearStep limits (stores store) operation = some (next, answer)) :
    Writes limits (update stores store next) replacements := by
  have grown := grown_of_effect
    ((Moka.specified limits).effect _ _ _ _ (writes.specified store) taken)
  have below := Nat.lt_of_le_of_lt grown.counter (k := u64Size)
  refine ⟨?_, ?_, fun replacement mem small => ?_, fun small => writes.nodup ?_⟩
  · rw [forall_update_iff stores fun _ => (Moka.specified limits).invariant]
    exact ⟨(Moka.specified limits).preserved _ _ _ _ (writes.specified store) taken,
      fun other _ => writes.specified other⟩
  · rw [forall_update_iff stores fun _ world => world.nextVersion < u64Size →
      ∀ key record, world.visible key = some record → record.version.toNat ≤ world.nextVersion]
    refine ⟨fun small key record seen => ?_, fun other _ => writes.versions other⟩
    obtain before | ⟨number, counted⟩ := grown.versions small key record seen
    · exact Nat.le_trans (writes.versions store (below small) key record before) grown.counter
    · omega
  · by_cases same : replacement.store = store
    · rw [same, update_self] at small ⊢
      obtain ⟨bound, different⟩ := same ▸ writes.replaced replacement mem (same ▸ below small)
      refine ⟨Nat.le_trans bound grown.counter, fun record seen => ?_⟩
      obtain before | ⟨number, counted⟩ := grown.versions small _ record seen
      · exact different record before
      · intro equal
        rw [equal] at number
        omega
    · rw [update_of_ne same] at small ⊢
      exact writes.replaced replacement mem small
  · rw [forall_update_iff stores fun _ world => world.nextVersion < u64Size] at small
    intro other
    by_cases same : other = store
    · exact same ▸ below small.1
    · exact small.2 other same

theorem Writes.replace (writes : Writes limits stores replacements) {store : Nat}
    {next : Moka.World} {key : CacheKey} {version : UInt64} {entry : CacheEntry}
    {deadline : Deadline} {outcome : CacheWriteOutcome}
    (taken : linearStep limits (stores store) (.swap ⟨key, .version version, entry⟩ deadline) =
      some (next, .swapped (.ok outcome)))
    (assigned : outcome.assigned.isSome) :
    Writes limits (update stores store next)
      (⟨store, key, version⟩ :: replacements) := by
  have stepped := writes.step taken
  have effect : (system limits).Effect (stores store)
      (Operation.swap ⟨key, .version version, entry⟩ deadline) next
      (Moka.Answer.swapped (.ok outcome)) :=
    (Moka.specified limits).effect _ _ _ _ (writes.specified store) taken
  have grown := grown_of_effect effect
  cases effect with
  | refused call called given =>
    have unassigned : outcome.assigned = none := given
    simp [unassigned] at assigned
  | other called => cases called
  | stored call given_version called given allowed next_version counted visible =>
    cases called
    have condition : holds (.version version)
      (((stores store).visible key).map (·.version)) = true := allowed.condition
    have counted : next.nextVersion = (stores store).nextVersion + 1 := counted
    have found : ∃ record, (stores store).visible key = some record ∧
        record.version = version := by
      cases seen : (stores store).visible key with
      | none => simp [seen, holds] at condition
      | some record => exact ⟨record, rfl, by simpa [seen, holds] using condition⟩
    obtain ⟨old, seen, rfl⟩ := found
    refine ⟨stepped.specified, stepped.versions, ?_, fun small => ?_⟩
    · rw [forall_mem_cons]
      refine ⟨fun small => ?_, stepped.replaced⟩
      rw [update_self] at small ⊢
      have small_before := Nat.lt_of_le_of_lt grown.counter small
      have bound := writes.versions store small_before key old seen
      refine ⟨Nat.le_trans bound grown.counter, fun record after_seen equal => ?_⟩
      obtain ⟨-, rfl⟩ | ⟨different, -⟩ := visible key record after_seen
      · have number : given_version = UInt64.ofNat ((stores store).nextVersion + 1) := next_version
        rw [counted] at small
        have numbered : given_version.toNat = (stores store).nextVersion + 1 := by
          rw [number, UInt64.toNat_ofNat']
          exact Nat.mod_eq_of_lt small
        have equal : given_version = old.version := equal
        rw [equal] at numbered
        omega
      · exact different rfl
    · refine nodup_cons.mpr ⟨fun mem => ?_, stepped.nodup small⟩
      have small_after := small store
      rw [update_self] at small_after
      have small_before := Nat.lt_of_le_of_lt grown.counter small_after
      exact (writes.replaced _ mem small_before).2 old seen rfl

end Writes

/-- A request schedules at most one refresh. -/
structure Requests (requests : Map Nat Request) (scheduled : List Nat) (nextId : Nat) : Prop where
  lt : ∀ id request, requests.lookup id = some request → id < nextId
  nodup : scheduled.Nodup
  scheduled_lt : ∀ id ∈ scheduled, id < nextId
  leaving : ∀ id ∈ scheduled, ∀ request, requests.lookup id = some request →
    request.phase = .leaving
  unconsumed : ∀ id request record, requests.lookup id = some request →
    request.phase = .found record → request.permit.consumed = false

namespace Requests

variable {requests : Map Nat Request} {scheduled : List Nat} {nextId id : Nat}
  {request : Request}

variable (bookkeeping : Requests requests scheduled nextId)

include bookkeeping

theorem add (fresh : request.permit.consumed = false) :
    Requests (requests.insert nextId request) scheduled (nextId + 1) := by
  refine ⟨forall_lookup_insert (Nat.lt_succ_self _) fun id found lookup =>
      Nat.lt_succ_of_lt (bookkeeping.lt id found lookup), bookkeeping.nodup,
    fun id mem => Nat.lt_succ_of_lt (bookkeeping.scheduled_lt id mem),
    fun id mem found lookup => ?_, fun id found record lookup phase => ?_⟩
  · rw [lookup_insert_ne (Nat.ne_of_lt (bookkeeping.scheduled_lt id mem))] at lookup
    exact bookkeeping.leaving id mem found lookup
  · rcases of_lookup_insert lookup with ⟨rfl, rfl⟩ | ⟨_, lookup⟩
    · exact fresh
    · exact bookkeeping.unconsumed id found record lookup phase

variable (present : requests.lookup id = some request)

include present

theorem update {moved : Request} (answered : ∀ record, moved.phase ≠ .found record)
    (allowed : id ∈ scheduled → moved.phase = .leaving) :
    Requests (requests.insert id moved) scheduled nextId := by
  refine ⟨forall_lookup_insert (bookkeeping.lt id request present) bookkeeping.lt,
    bookkeeping.nodup, bookkeeping.scheduled_lt, fun other mem found lookup => ?_,
    fun other found record lookup phase => ?_⟩
  · rcases of_lookup_insert lookup with ⟨rfl, rfl⟩ | ⟨_, lookup⟩
    · exact allowed mem
    · exact bookkeeping.leaving other mem found lookup
  · rcases of_lookup_insert lookup with ⟨rfl, rfl⟩ | ⟨_, lookup⟩
    · exact absurd phase (answered record)
    · exact bookkeeping.unconsumed other found record lookup phase

theorem notMem (staying : request.phase ≠ .leaving) : id ∉ scheduled :=
  fun mem => staying (bookkeeping.leaving id mem request present)

theorem schedule (staying : request.phase ≠ .leaving) :
    Requests (requests.insert id { request with phase := .leaving }) (id :: scheduled)
      (nextId + 1) := by
  have moved := @update _ _ _ _ _ bookkeeping present { request with phase := .leaving }
    (by simp) fun _ => rfl
  refine ⟨fun other found lookup => Nat.lt_succ_of_lt (moved.lt other found lookup),
    nodup_cons.mpr ⟨bookkeeping.notMem present staying, bookkeeping.nodup⟩, ?_, ?_,
    moved.unconsumed⟩
  · rw [forall_mem_cons]
    exact ⟨Nat.lt_succ_of_lt (bookkeeping.lt id request present),
      fun other mem => Nat.lt_succ_of_lt (bookkeeping.scheduled_lt other mem)⟩
  · rw [forall_mem_cons]
    refine ⟨fun found lookup => ?_, moved.leaving⟩
    rw [lookup_insert] at lookup
    cases lookup
    rfl

omit present

theorem erase (id : Nat) : Requests (requests.erase id) scheduled nextId := by
  exact ⟨fun other found lookup => bookkeeping.lt other found (lookup_of_lookup_erase lookup),
    bookkeeping.nodup, bookkeeping.scheduled_lt,
    fun other mem found lookup =>
      bookkeeping.leaving other mem found (lookup_of_lookup_erase lookup),
    fun other found record lookup =>
      bookkeeping.unconsumed other found record (lookup_of_lookup_erase lookup)⟩

end Requests

/-- Tasks come from different requests. -/
structure Tasks (tasks : Map Nat Task) (scheduled : List Nat) (nextId : Nat) : Prop where
  lt : ∀ id task, tasks.lookup id = some task → id < nextId
  scheduled : ∀ id task, tasks.lookup id = some task → task.request ∈ scheduled
  unique : ∀ id other task otherTask, tasks.lookup id = some task →
    tasks.lookup other = some otherTask → task.request = otherTask.request → id = other

namespace Tasks

variable {tasks : Map Nat Task} {scheduled : List Nat} {nextId id : Nat}
  {task : Task}

variable (bookkeeping : Tasks tasks scheduled nextId)

include bookkeeping

theorem next : Tasks tasks scheduled (nextId + 1) :=
  ⟨fun id task lookup => Nat.lt_succ_of_lt (bookkeeping.lt id task lookup),
    bookkeeping.scheduled, bookkeeping.unique⟩

theorem add (fresh : task.request ∉ scheduled) :
    Tasks (tasks.insert nextId task) (task.request :: scheduled) (nextId + 1) := by
  refine ⟨forall_lookup_insert (Nat.lt_succ_self _) bookkeeping.next.lt,
    forall_lookup_insert mem_cons_self fun id found lookup =>
      mem_cons_of_mem _ (bookkeeping.scheduled id found lookup),
    fun id other found otherFound lookup otherLookup same => ?_⟩
  rcases of_lookup_insert lookup with ⟨rfl, rfl⟩ | ⟨_, old⟩ <;>
    rcases of_lookup_insert otherLookup with ⟨rfl, rfl⟩ | ⟨_, otherOld⟩
  · rfl
  · exact absurd (same ▸ bookkeeping.scheduled other otherFound otherOld) fresh
  · exact absurd (same ▸ bookkeeping.scheduled id found old) fresh
  · exact bookkeeping.unique id other found otherFound old otherOld same

theorem update (present : tasks.lookup id = some task) (stage : Stage) :
    Tasks (tasks.insert id { task with stage }) scheduled nextId := by
  -- the moved task stands for the old one
  have old : ∀ other found, (tasks.insert id { task with stage }).lookup other = some found →
      ∃ before, tasks.lookup other = some before ∧ before.request = found.request := by
    exact forall_lookup_insert ⟨task, present, rfl⟩ fun _ found lookup => ⟨found, lookup, rfl⟩
  refine ⟨fun other found lookup => ?_, fun other found lookup => ?_,
    fun first second found otherFound lookup otherLookup same => ?_⟩
  · obtain ⟨before, lookup, -⟩ := old other found lookup
    exact bookkeeping.lt other before lookup
  · obtain ⟨before, lookup, request⟩ := old other found lookup
    exact request ▸ bookkeeping.scheduled other before lookup
  · obtain ⟨before, lookup, request⟩ := old first found lookup
    obtain ⟨otherBefore, otherLookup, otherRequest⟩ := old second otherFound otherLookup
    exact bookkeeping.unique first second before otherBefore lookup otherLookup
      (request.trans (same.trans otherRequest.symm))

theorem erase (id : Nat) : Tasks (tasks.erase id) scheduled nextId := by
  exact ⟨fun other found lookup => bookkeeping.lt other found (lookup_of_lookup_erase lookup),
    fun other found lookup =>
      bookkeeping.scheduled other found (lookup_of_lookup_erase lookup),
    fun first second found otherFound lookup otherLookup same =>
      bookkeeping.unique first second found otherFound (lookup_of_lookup_erase lookup)
        (lookup_of_lookup_erase otherLookup) same⟩

end Tasks

def Request.leases (core : Nat) (request : Request) : Bool :=
  request.core == core && request.permit.admitted

/-- The task holds a lease of the core that runs it. -/
def Task.leases (core : Nat) (task : Task) : Bool :=
  task.core == core && match task.stage with
    | .chosen _ _ => true
    | _ => false

def Task.runsOn (core : Nat) (task : Task) : Bool := task.core == core

/-- The counters of a core agree with the requests and the tasks. -/
structure Balanced (requests : Map Nat Request) (tasks : Map Nat Task)
    (id : Nat) (core : Core) : Prop where
  capacity : tasks.count (Task.runsOn id) + core.others + core.permits = finalizerCapacity
  leases : core.admission.inFlight =
    requests.count (Request.leases id) + tasks.count (Task.leases id)
  unbounded : core.admission.maxConcurrency = usizeMax

/-- What holds between any two steps. -/
structure Invariant (setting : Setting) (world : World) : Prop where
  requests : Requests world.requests world.scheduled world.nextId
  tasks : Tasks world.tasks world.scheduled world.nextId
  balanced : ∀ core, Balanced world.requests world.tasks core (world.cores core)
  writes : Writes setting.limits world.stores world.replacements

theorem invariant_initial (setting : Setting) : Invariant setting .initial where
  requests := ⟨by simp [World.initial], nodup_nil, by simp [World.initial],
    by simp [World.initial], by simp [World.initial]⟩
  tasks := ⟨by simp [World.initial], by simp [World.initial], by simp [World.initial]⟩
  balanced _ := ⟨rfl, rfl, rfl⟩
  writes := writes_initial setting.limits

section Steps

variable {setting : Setting} {world : World} {id : Nat} {request : Request} {task : Task}

variable {requests : Map Nat Request} {tasks : Map Nat Task} {core : Core}
  {key : CacheKey} {scheduled : List Nat}

/-- The counters of a core move with what holds its permits and leases. -/
theorem Balanced.shift {moved : Map Nat Request} {run : Map Nat Task}
    {next : Core} (balanced : Balanced requests tasks id core)
    (capacity : run.count (Task.runsOn id) + next.others + next.permits =
      tasks.count (Task.runsOn id) + core.others + core.permits)
    (leases : next.admission.inFlight +
      (requests.count (Request.leases id) + tasks.count (Task.leases id)) =
      core.admission.inFlight + (moved.count (Request.leases id) + run.count (Task.leases id)))
    (unbounded : next.admission.maxConcurrency = core.admission.maxConcurrency) :
    Balanced moved run id next := by
  refine ⟨capacity.trans balanced.capacity, ?_, unbounded.trans balanced.unbounded⟩
  have before := balanced.leases
  omega

theorem Invariant.setStore (inv : Invariant setting world) {store : Nat}
    {next : Moka.World} {operation : Operation} {answer : Moka.Answer}
    (taken : linearStep setting.limits (world.stores store) operation = some (next, answer)) :
    Invariant setting (world.setStore store next) :=
  { inv with writes := inv.writes.step taken }

theorem balanced_setCore (here : Balanced requests tasks id core)
    (elsewhere : ∀ other, other ≠ id → Balanced requests tasks other (world.cores other)) :
    ∀ other, Balanced requests tasks other ((world.setCore id core).cores other) :=
  (forall_update_iff _ fun other core => Balanced requests tasks other core).mpr
    ⟨here, elsewhere⟩

theorem Invariant.setCore (inv : Invariant setting world)
    (balanced : Balanced world.requests world.tasks id core) :
    Invariant setting (world.setCore id core) :=
  { inv with balanced := balanced_setCore balanced fun other _ => inv.balanced other }

variable (inv : Invariant setting world)

include inv

/-- A request enters with the lease that its lookup has taken. -/
theorem Invariant.addRequest (fresh : request.permit.consumed = false)
    (capacity : core.others + core.permits =
      (world.cores request.core).others + (world.cores request.core).permits)
    (unbounded : core.admission.maxConcurrency =
      (world.cores request.core).admission.maxConcurrency) (lease : core.admission.inFlight =
      (world.cores request.core).admission.inFlight + if request.permit.admitted then 1 else 0) :
    Invariant setting { world.setCore request.core core with
      requests := world.requests.insert world.nextId request
      nextId := world.nextId + 1 } := by
  have unused := notMem_of_forall_lookup_lt inv.requests.lt
  have count := fun core => count_insert_of_notMem unused (Request.leases core) request
  refine ⟨inv.requests.add fresh, inv.tasks.next, balanced_setCore ?_ fun other away => ?_,
    inv.writes⟩
  · have count := count request.core
    rw [show Request.leases request.core request = request.permit.admitted by
      simp [Request.leases]] at count
    refine (inv.balanced request.core).shift ?_ ?_ unbounded <;> dsimp only [World.setCore] <;>
      omega
  · have count := count other
    rw [show Request.leases other request = false by
      simp [Request.leases, Ne.symm away]] at count
    exact (inv.balanced other).shift rfl (by rw [count]; rfl) rfl

theorem Invariant.moveRequest (present : world.requests.lookup id = some request) {moved : Request}
    (same_core : moved.core = request.core)
    (same_lease : moved.permit.admitted = request.permit.admitted)
    (answered : ∀ record, moved.phase ≠ .found record)
    (allowed : id ∈ world.scheduled → moved.phase = .leaving) :
    Invariant setting { world with requests := world.requests.insert id moved } := by
  refine ⟨inv.requests.update present answered allowed, inv.tasks, fun other => ?_, inv.writes⟩
  have count := count_insert_of_lookup present (Request.leases other) moved
    (by simp [Request.leases, same_core, same_lease])
  exact (inv.balanced other).shift rfl (by rw [count]) rfl

theorem Invariant.leave (present : world.requests.lookup id = some request) :
    Invariant setting
      (if request.permit.admitted then
        { world with requests := world.requests.erase id }.release request.core
      else { world with requests := world.requests.erase id }) := by
  have count := fun core => count_erase present (Request.leases core)
  have unleased : ∀ other, Request.leases other request = false →
      Balanced (world.requests.erase id) world.tasks other (world.cores other) := by
    intro other unleased
    have count := count other
    rw [unleased] at count
    exact (inv.balanced other).shift rfl (by rw [count]; rfl) rfl
  split
  · next admitted =>
    refine ⟨inv.requests.erase id, inv.tasks, balanced_setCore ?_ fun other away =>
      unleased other (by simp [Request.leases, Ne.symm away]), inv.writes⟩
    have before := inv.balanced request.core
    have count := count request.core
    have leases := before.leases
    rw [show Request.leases request.core request = true by
      simp [Request.leases, admitted], if_pos rfl] at count
    refine before.shift rfl ?_ rfl
    simp only [World.release, World.setCore, release]
    omega
  · next unadmitted =>
    exact ⟨inv.requests.erase id, inv.tasks,
      fun other => unleased other (by simp [Request.leases, unadmitted]), inv.writes⟩

/-- A task enters the finalizer of the target core. -/
theorem Invariant.submitted (present : world.requests.lookup id = some request)
    (staying : request.phase ≠ .leaving) (from_request : task.request = id)
    (spawned : task.stage = .spawned) (free : (world.cores task.core).permits ≠ 0) :
    Invariant setting { world.setCore task.core
        { world.cores task.core with permits := (world.cores task.core).permits - 1 } with
      requests := world.requests.insert id { request with phase := .leaving }
      tasks := world.tasks.insert world.nextId task
      nextId := world.nextId + 1
      scheduled := id :: world.scheduled } := by
  subst from_request
  have fresh := notMem_of_forall_lookup_lt inv.tasks.lt
  have running := fun core => count_insert_of_notMem fresh (Task.runsOn core) task
  have leases : ∀ core, (world.tasks.insert world.nextId task).count (Task.leases core) =
      world.tasks.count (Task.leases core) := by
    intro core
    rw [count_insert_of_notMem fresh]
    simp [Task.leases, spawned]
  have requestLeases := fun core => count_insert_of_lookup present (Request.leases core)
    { request with phase := .leaving } rfl
  refine ⟨inv.requests.schedule present staying, inv.tasks.add
    (inv.requests.notMem present staying), balanced_setCore ?_ fun other away => ?_, inv.writes⟩
  · refine (inv.balanced task.core).shift ?_ (by rw [requestLeases, leases]) rfl
    have running := running task.core
    rw [show Task.runsOn task.core task = true by simp [Task.runsOn], if_pos rfl] at running
    dsimp only
    omega
  · refine (inv.balanced other).shift ?_ (by rw [requestLeases, leases]) rfl
    have running := running other
    rw [show Task.runsOn other task = false by simp [Task.runsOn, Ne.symm away]] at running
    rw [running]
    rfl

/-- A task goes to a stage, with the lease of its new stage instead of the old one. -/
theorem Invariant.moveTask (present : world.tasks.lookup id = some task) {stage : Stage}
    (capacity : core.others + core.permits =
      (world.cores task.core).others + (world.cores task.core).permits)
    (unbounded : core.admission.maxConcurrency = (world.cores task.core).admission.maxConcurrency)
    (lease : core.admission.inFlight + (if Task.leases task.core task then 1 else 0) =
      (world.cores task.core).admission.inFlight +
        if Task.leases task.core { task with stage } then 1 else 0) :
    Invariant setting ((world.setCore task.core core).setTask id task stage) := by
  have running := fun core =>
    count_insert_of_lookup present (Task.runsOn core) { task with stage } rfl
  refine ⟨inv.requests, inv.tasks.update present stage, balanced_setCore ?_ fun other away => ?_,
    inv.writes⟩
  · have running := running task.core
    have leases := count_insert_add present (Task.leases task.core) { task with stage }
    refine (inv.balanced task.core).shift ?_ ?_ unbounded <;>
      dsimp only [World.setTask, World.setCore] <;> omega
  · have leases := count_insert_of_lookup present (Task.leases other) { task with stage }
      (by simp [Task.leases, beq_eq_false_iff_ne.mpr (Ne.symm away)])
    exact (inv.balanced other).shift (by rw [← running other]; rfl) (by rw [← leases]; rfl) rfl

theorem Invariant.endTask (present : world.tasks.lookup id = some task)
    (capacity : core.others + core.permits =
      (world.cores task.core).others + (world.cores task.core).permits + 1)
    (unbounded : core.admission.maxConcurrency = (world.cores task.core).admission.maxConcurrency)
    (lease : core.admission.inFlight + (if Task.leases task.core task then 1 else 0) =
      (world.cores task.core).admission.inFlight) :
    Invariant setting { world.setCore task.core core with tasks := world.tasks.erase id } := by
  have running := fun core => count_erase present (Task.runsOn core)
  have leases := fun core => count_erase present (Task.leases core)
  refine ⟨inv.requests, inv.tasks.erase id, balanced_setCore ?_ fun other away => ?_, inv.writes⟩
  · have running := running task.core
    have leases := leases task.core
    rw [show Task.runsOn task.core task = true by simp [Task.runsOn], if_pos rfl] at running
    refine (inv.balanced task.core).shift ?_ ?_ unbounded <;> dsimp only [World.setCore] <;> omega
  · have running := running other
    have leases := leases other
    rw [show Task.runsOn other task = false by simp [Task.runsOn, Ne.symm away]] at running
    rw [show Task.leases other task = false by simp [Task.leases, Ne.symm away]] at leases
    exact (inv.balanced other).shift (by rw [running]; rfl) (by rw [leases]; rfl) rfl

omit inv

inductive Looked (world : World) (core : Nat) (key : CacheKey) (next : World)
    (result : Except PortErrorClass CacheLookup) : Prop where
  | unleased (same : next = world)
      (refused : ∀ record permit, result = .ok (.stale record permit) →
        permit = ⟨key, record.version, false, false⟩ ∧
          (world.cores core).admission.tryAcquire = none)
  | leased (record : CacheRecord) (acquired : RefreshAdmission)
      (taken : (world.cores core).admission.tryAcquire = some acquired)
      (next_eq : next = world.setCore core { world.cores core with admission := acquired })
      (result_eq : result = .ok (.stale record ⟨key, record.version, false, true⟩))

theorem setCore_self (world : World) (core : Nat) :
    world.setCore core (world.cores core) = world := by
  rw [World.setCore, update_eq_self]

theorem Looked.same {core : Nat} {result : Except PortErrorClass CacheLookup} (refused : ∀ record
      permit, result = .ok (.stale record permit) → permit = ⟨key, record.version, false, false⟩ ∧
      (world.cores core).admission.tryAcquire = none) :
    Looked world core key
      (world.setCore core { world.cores core with admission := (world.cores core).admission })
      result := by
  have unchanged : world.setCore core
      { world.cores core with admission := (world.cores core).admission } = world :=
    setCore_self world core
  exact .unleased unchanged refused

theorem lookup_looked (setting : Setting) (world : World) (core : Nat) (key : CacheKey)
    (now : Instant) (failure : Option PortErrorClass) :
    Looked world core key (world.lookup setting core key now failure).1
      (world.lookup setting core key now failure).2 := by
  unfold World.lookup lookupAt
  split
  · exact .same (by simp)
  · split
    · exact .same (by simp)
    · exact .same (by simp)
    · exact .same (by simp)
    · next record _ =>
      split
      · exact .same (by simp)
      · split
        · split
          · next acquired taken => exact .leased record acquired taken rfl rfl
          · next refused =>
            refine .same fun record permit same => ?_
            cases same
            exact ⟨rfl, refused⟩
        · exact .same (by simp)

theorem tryAcquire_eq_some {admission acquired : RefreshAdmission}
    (taken : admission.tryAcquire = some acquired) :
    acquired = { admission with inFlight := admission.inFlight + 1 } := by
  unfold tryAcquire at taken
  split at taken
  · cases taken
  · exact (Option.some.inj taken).symm

variable (inv : Invariant setting world)

include inv

variable (present : world.tasks.lookup id = some task)

include present

theorem Invariant.ended (unleased : Task.leases task.core task = false) :
    Invariant setting (world.endTask id task) := by
  refine inv.endTask present rfl rfl ?_
  rw [unleased]
  rfl

theorem Invariant.moved {stage : Stage} (unleased : Task.leases task.core task = false)
    (stays : Task.leases task.core { task with stage } = false) :
    Invariant setting (world.setTask id task stage) := by
  have moved := @moveTask _ _ _ _ (world.cores task.core) inv present stage rfl rfl
    (by rw [unleased, stays])
  rwa [setCore_self] at moved

theorem Invariant.released (leased : Task.leases task.core task = true) :
    (world.cores task.core).admission.inFlight =
      (world.cores task.core).admission.release.inFlight + 1 := by
  have leases := (inv.balanced task.core).leases
  have positive := count_pos_of_lookup present leased
  simp only [release]
  omega

theorem Invariant.endedLeased (leased : Task.leases task.core task = true) :
    Invariant setting ((world.release task.core).endTask id task) := by
  have ended := @endTask _ _ _ _ { world.cores task.core with
      admission := (world.cores task.core).admission.release
      permits := (world.cores task.core).permits + 1 } inv present rfl rfl
    (by rw [leased, inv.released present leased]; rfl)
  simp only [World.endTask, World.release, World.setCore, update_self, update_idem]
  exact ended

omit present

theorem Invariant.lookup {core : Nat} {now : Instant}
    {failure : Option PortErrorClass} {next : World} {output : Answer}
    (taken : step setting world (.lookup core key now failure) = some (next, output)) :
    Invariant setting next := by
  have looked := lookup_looked setting world core key now failure
  simp only [step] at taken
  generalize world.lookup setting core key now failure = found at looked taken
  obtain ⟨found, result⟩ := found
  cases looked with
  | unleased same refused =>
    obtain rfl : found = world := same
    dsimp only at taken
    split at taken <;> cases taken
    · next record permit =>
      obtain ⟨rfl, -⟩ := refused record permit rfl
      have added := @addRequest _ _
        ⟨core, ⟨key, record.version, false, false⟩, .found record⟩ (found.cores core) inv
        rfl rfl rfl rfl
      rw [setCore_self] at added
      exact added
    · exact inv
  | leased record acquired acquire next_eq result_eq =>
    obtain rfl : found = _ := next_eq
    obtain rfl : result = _ := result_eq
    obtain rfl := tryAcquire_eq_some acquire
    cases taken
    exact @addRequest _ _ ⟨core, ⟨key, record.version, false, true⟩, .found record⟩ _
      inv rfl rfl rfl rfl

theorem Invariant.prepare
    (present : world.tasks.lookup id = some task) (spawned : task.stage = .spawned)
    (prepared : Option CacheKey) (now : Instant) (failure : Option PortErrorClass) :
    Invariant setting (Refresh.prepare setting world id task prepared now failure).1 := by
  have unleased : Task.leases task.core task = false := by
    simp [Task.leases, spawned]
  have exchanging : ∀ key condition,
      Invariant setting (world.setTask id task (.exchanging key condition)) :=
    fun key condition => inv.moved present unleased (by simp [Task.leases])
  have ended := inv.ended present unleased
  unfold Refresh.prepare
  split
  · exact ended
  · next key =>
    split
    · exact exchanging key _
    · have looked := lookup_looked setting world task.core key now failure
      generalize world.lookup setting task.core key now failure = found at looked
      obtain ⟨found, result⟩ := found
      cases looked with
      | unleased same refused =>
        obtain rfl : found = world := same
        split
        · next same => cases same; exact exchanging key _
        · next record permit same =>
          cases same
          obtain ⟨rfl, -⟩ := refused record permit rfl
          exact exchanging key _
        · next same => cases same; exact exchanging key _
        · next same => cases same; exact ended
        · next same => cases same; exact ended
      | leased record acquired acquire next_eq result_eq =>
        obtain rfl : found = _ := next_eq
        obtain rfl : result = _ := result_eq
        obtain rfl := tryAcquire_eq_some acquire
        refine inv.moveTask present rfl rfl ?_
        rw [unleased]
        simp [Task.leases]

theorem Invariant.write
    (present : world.tasks.lookup id = some task) (unleased : Task.leases task.core task = false)
    {condition : CacheCondition} {entry : CacheEntry} {deadline : Deadline} {next : World}
    {output : Answer} (taken : Refresh.write setting world id task key condition entry deadline =
      some (next, output)) :
    Invariant setting next := by
  simp only [Refresh.write] at taken
  split at taken <;> cases taken
  next store result stepped =>
  have ended := (inv.setStore stepped).ended present unleased
  refine { ended with writes := ?_ }
  split
  · next version outcome =>
    split
    · next assigned => exact inv.writes.replace stepped assigned
    · exact inv.writes.step stepped
  · exact inv.writes.step stepped

theorem Invariant.answer
    (present : world.requests.lookup id = some request) (staying : request.phase ≠ .leaving)
    (record : CacheRecord) (decision : CacheDecision) (now : Instant) :
    Invariant setting (Refresh.answer world id request record decision now).1 := by
  have free := inv.requests.notMem present staying
  have same_lease : request.permit.tryConsume.1.admitted = request.permit.admitted := by
    unfold CacheRefreshPermit.tryConsume
    split <;> rfl
  unfold Refresh.answer
  split
  · exact inv.moveRequest present rfl rfl (by simp) fun _ => rfl
  · split
    · next permit consumed =>
      rw [consumed] at same_lease
      exact inv.moveRequest present rfl same_lease (by simp) fun mem =>
        absurd mem free
    · next permit consumed =>
      rw [consumed] at same_lease
      exact inv.moveRequest present rfl same_lease (by simp) fun _ => rfl

theorem Invariant.submit (present : world.requests.lookup id = some request)
    (staying : request.phase ≠ .leaving) (target : Nat) :
    Invariant setting (Refresh.submit setting world id request target).1 := by
  have left := @moveRequest _ _ _ _ inv present { request with phase := .leaving }
    rfl rfl (by simp) fun _ => rfl
  unfold Refresh.submit
  dsimp only
  split
  · exact left
  · split
    · exact left
    · next free =>
      exact @submitted _ _ _ _
        { request := id
          core := target
          sameStore := setting.store request.core == setting.store target
          staleKey := request.permit.key
          staleVersion := request.permit.version
          stage := .spawned } inv present staying rfl rfl free

omit inv

theorem invariant_step : Preserves (step setting) (Invariant setting) := by
  intro world action next output inv taken
  cases action with simp only [step] at taken
  | store store operation =>
    split at taken <;> cases taken
    next store_next answer stepped => exact inv.setStore stepped
  | lookup core key now failure => exact inv.lookup taken
  | answer id decision now =>
    split at taken <;> try cases taken
    next request present =>
    split at taken <;> try cases taken
    next record phase =>
    obtain rfl := eq_fst_of_some taken
    exact inv.answer present (by simp [phase]) record decision now
  | schedule id target =>
    split at taken <;> try cases taken
    next request present =>
    split at taken <;> try cases taken
    next phase =>
    obtain rfl := eq_fst_of_some taken
    exact inv.submit present (by simp [phase]) target
  | leave id =>
    split at taken <;> try cases taken
    next request present =>
    split at taken <;> cases taken
    exact inv.leave present
  | prepare id prepared now failure =>
    split at taken <;> try cases taken
    next task present =>
    split at taken <;> try cases taken
    next spawned =>
    obtain rfl := eq_fst_of_some taken
    exact inv.prepare present spawned prepared now failure
  | proceed id =>
    split at taken <;> try cases taken
    next task present =>
    split at taken <;> cases taken
    next key condition chosen =>
    have leased : Task.leases task.core task = true := by simp [Task.leases, chosen]
    refine inv.moveTask present rfl rfl ?_
    rw [leased, inv.released present leased]
    simp [Task.leases]
  | exchange id reply matchesQuery =>
    split at taken <;> try cases taken
    next task present =>
    split at taken <;> try cases taken
    next key condition exchanging =>
    have unleased : Task.leases task.core task = false := by
      simp [Task.leases, exchanging]
    split at taken
    · cases taken
      exact inv.ended present unleased
    · split at taken <;> cases taken
      · exact inv.moved present unleased (by simp [Task.leases])
      · exact inv.ended present unleased
  | write id unchanged now revision deadline =>
    split at taken <;> try cases taken
    next task present =>
    split at taken <;> try cases taken
    next key condition response upstream answered =>
    have unleased : Task.leases task.core task = false := by
      simp [Task.leases, answered]
    have ended := inv.ended present unleased
    split at taken
    · cases taken
      exact ended
    · split at taken
      · cases taken
        exact ended
      · split at taken
        · cases taken
          exact ended
        · cases taken
          exact ended
        · exact inv.write present unleased taken
  | enter id | exit id =>
    split at taken <;> cases taken
    next possible =>
    have before := inv.balanced id
    refine inv.setCore ⟨?_, before.leases, before.unbounded⟩
    have capacity := before.capacity
    dsimp only
    omega
  | shutdown id =>
    cases taken
    have before := inv.balanced id
    exact inv.setCore { before with }
  | cancelled id =>
    split at taken <;> try cases taken
    next task present =>
    split at taken <;> try cases taken
    split at taken <;> cases taken
    · next key condition chosen =>
      have leased : Task.leases task.core task = true := by simp [Task.leases, chosen]
      exact inv.endedLeased present leased
    · next unchosen =>
      refine inv.ended present ?_
      unfold Task.leases
      split
      · next key condition chosen => exact absurd chosen (unchosen key condition)
      · exact Bool.and_false _

end Steps

end FluxDns.Cache.Refresh
