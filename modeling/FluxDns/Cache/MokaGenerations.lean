import FluxDns.Cache.MokaRetention

/-!
# Generations of the Moka store

What a step of the store can do to the two counters that snapshots compare, and to the records that
they collect.  A record appears only when a write that has already advanced `next_version` inserts
it, and an `invalidate` that removed something advances the reset generation when it returns.
-/

namespace FluxDns.Cache.Moka

open AList World

variable {world next : World} {id : Nat} {action : Action} {call : Call} {count : Nat}
  {limits : Limits} {answer : Answer} {keys : List CacheKey}

inductive Inserts (world : World) : Action → CacheKey → CacheRecord → Prop
  | swap {id : Nat} {write : Write} {version : UInt64} {outcome : CacheWriteOutcome}
      (running : world.calls.lookup id = some (.swapInserting write version outcome)) :
      Inserts world (.advance id) write.key ⟨version, write.entry⟩

theorem Inserts.running {key : CacheKey} {record : CacheRecord}
    (inserts : Inserts world (.advance id) key record) :
    ∃ write version outcome, world.calls.lookup id = some (.swapInserting write version outcome) ∧
      key = write.key ∧ record = ⟨version, write.entry⟩ := by
  cases inserts with
  | swap running => exact ⟨_, _, _, running, rfl, rfl⟩

theorem not_inserts_of_invalidating
    (running : world.calls.lookup id = some (.invalidating keys count)) (key : CacheKey)
    (record : CacheRecord) : ¬Inserts world (.advance id) key record := by
  intro inserts
  obtain ⟨write, version, outcome, inserting, -⟩ := inserts.running
  rw [running] at inserting
  cases inserting

variable (world)

/-- The step ends an `invalidate` that found records. -/
def resets : Action → Bool
  | .advance id =>
    match world.calls.lookup id with
    | some (.invalidating [] count) => count != 0
    | _ => false
  | _ => false

def NoneInserting : Prop :=
  ∀ id write version outcome,
    world.calls.lookup id ≠ some (.swapInserting write version outcome)

/-- A running `invalidate` has found at least the keys that it still has to remove. -/
def Counted : Prop :=
  ∀ id keys count, world.calls.lookup id = some (.invalidating keys count) → keys.length ≤ count

/-- What a step does to the generations and to the stored records. -/
structure Motion (action : Action) (next : World) : Prop where
  clock_le : world.clock ≤ next.clock
  version_le : world.nextVersion ≤ next.nextVersion
  version_le_succ : next.nextVersion ≤ world.nextVersion + 1
  reset_eq : next.snapshotResetGeneration =
    world.snapshotResetGeneration + (resets world action).toNat
  cached : ∀ key record, next.cache.lookup key = some record →
    world.cache.lookup key = some record ∨ Inserts world action key record
  inserting : NoneInserting world → next.nextVersion = world.nextVersion → NoneInserting next
  invalidating : ∀ id keys count, world.calls.lookup id = some (.invalidating keys count) →
    (∃ rest, next.calls.lookup id = some (.invalidating rest count)) ∨
      action = .advance id ∧ keys = []
  counted : Counted world → Counted next

/-- The places that snapshots depend on. -/
def Call.isTracked : Call → Bool
  | .swapInserting _ _ _ | .invalidating _ _ => true
  | _ => false

/-- No version and no generation is given out, and no record appears. -/
structure Fades (next : World) : Prop where
  version : next.nextVersion = world.nextVersion := by rfl
  generation : next.snapshotResetGeneration = world.snapshotResetGeneration := by rfl
  cached : ∀ key record, next.cache.lookup key = some record →
    world.cache.lookup key = some record := by exact fun _ _ found => found

variable {world}

/-- A step that moves one call. -/
theorem Motion.of_call (id : Nat)
    (others : ∀ other, other ≠ id → next.calls.lookup other = world.calls.lookup other)
    (clock : world.clock = next.clock) (version_le : world.nextVersion ≤ next.nextVersion)
    (version_le_succ : next.nextVersion ≤ world.nextVersion + 1)
    (reset : next.snapshotResetGeneration =
      world.snapshotResetGeneration + (resets world action).toNat)
    (cached : ∀ key record, next.cache.lookup key = some record →
      world.cache.lookup key = some record ∨ Inserts world action key record)
    (inserting : ∀ write version outcome,
      next.calls.lookup id = some (.swapInserting write version outcome) →
        next.nextVersion ≠ world.nextVersion)
    (invalidating : ∀ keys count, world.calls.lookup id = some (.invalidating keys count) →
      (∃ rest, next.calls.lookup id = some (.invalidating rest count)) ∨
        action = .advance id ∧ keys = [])
    (counted : Counted world →
      ∀ keys count, next.calls.lookup id = some (.invalidating keys count) → keys.length ≤ count) :
    Motion world action next := by
  refine ⟨Nat.le_of_eq clock, version_le, version_le_succ, reset, cached, ?_, ?_, ?_⟩
  · intro none_inserting unchanged other write version outcome running
    by_cases same : other = id
    · subst same
      exact inserting write version outcome running unchanged
    · rw [others other same] at running
      exact none_inserting other write version outcome running
  · intro other keys count running
    by_cases same : other = id
    · subst same
      exact invalidating keys count running
    · exact .inl ⟨keys, by rw [others other same, running]⟩
  · intro before other keys count running
    by_cases same : other = id
    · subst same
      exact counted before keys count running
    · rw [others other same] at running
      exact before other keys count running

theorem Motion.of_untracked (id : Nat)
    (untracked : ∀ call, world.calls.lookup id = some call → call.isTracked = false)
    (reset : resets world action = false) (clock : next.clock = world.clock)
    (fades : Fades world next)
    (others : ∀ other, other ≠ id → next.calls.lookup other = world.calls.lookup other)
    (moved : ∀ call, next.calls.lookup id = some call → call.isTracked = false) :
    Motion world action next :=
  .of_call id others clock.symm (Nat.le_of_eq fades.version.symm)
    (Nat.le_succ_of_le (Nat.le_of_eq fades.version)) (by rw [fades.generation, reset]; rfl)
    (fun key record found => .inl (fades.cached key record found))
    (fun _ _ _ running => by cases moved _ running)
    (fun _ _ running => by cases untracked _ running)
    (fun _ _ _ running => by cases moved _ running)

variable (running : world.calls.lookup id = some call)

include running

variable (untracked : call.isTracked = false)

include untracked

theorem resets_advance_of_untracked : resets world (.advance id) = false := by
  simp only [resets, running]
  cases call <;> first | rfl | cases untracked

theorem Motion.of_running (clock : next.clock = world.clock) (fades : Fades world next)
    (others : ∀ other, other ≠ id → next.calls.lookup other = world.calls.lookup other)
    (moved : ∀ call, next.calls.lookup id = some call → call.isTracked = false) :
    Motion world (.advance id) next := by
  refine .of_untracked id ?_ (resets_advance_of_untracked running untracked) clock fades others
    moved
  intro other found
  rw [running] at found
  cases found
  exact untracked

theorem Motion.of_goto {place : Call} (moved : place.isTracked = false)
    (calls : next.calls = world.calls.insert id place) (clock : next.clock = world.clock)
    (fades : Fades world next) : Motion world (.advance id) next := by
  refine .of_running running untracked clock fades ?_ ?_ <;> rw [calls]
  · exact fun _ => lookup_insert_ne
  · rw [lookup_insert]
    rintro _ ⟨⟩
    exact moved

theorem Motion.of_finish (calls : next.calls = world.calls.erase id)
    (clock : next.clock = world.clock) (fades : Fades world next) :
    Motion world (.advance id) next := by
  refine .of_running running untracked clock fades ?_ ?_ <;> rw [calls]
  · exact fun _ => lookup_erase_ne
  · simp

omit untracked

omit running

/-- The decision of a write starts an insertion only together with a new version. -/
theorem decideSwap_motion (limits : Limits) {write : Write} {current : Option CacheRecord}
    {now : Instant} (running : world.calls.lookup id = some (.swapDeciding write current now)) :
    Motion world (.advance id) (decideSwap limits world id write current now).1 := by
  unfold decideSwap
  split
  · exact .of_finish running rfl rfl rfl {}
  split
  · exact .of_finish running rfl rfl rfl {}
  split
  · exact .of_finish running rfl rfl rfl {}
  · refine .of_call id (fun _ => lookup_insert_ne) rfl (Nat.le_succ _) (Nat.le_refl _) ?_
      (fun _ _ found => .inl found) (fun _ _ _ _ => Nat.succ_ne_self _) ?_ ?_
    · rw [resets_advance_of_untracked running rfl]
      rfl
    · simp [running]
    · simp [goto]

/-- The record of a write appears as the write returns. -/
theorem insert_motion {write : Write} {version : UInt64} {outcome : CacheWriteOutcome}
    (running : world.calls.lookup id = some (.swapInserting write version outcome)) :
    Motion world (.advance id) ((world.insert write.key ⟨version, write.entry⟩).finish id) := by
  refine .of_call id (fun _ => lookup_erase_ne) rfl (Nat.le_refl _) (Nat.le_succ _) ?_ ?_ ?_ ?_ ?_
  · simp only [resets, running]
    rfl
  · intro key record found
    simp only [finish, World.insert, lookup_insert_eq_ite] at found
    split at found
    · next same =>
      cases same
      cases found
      exact .inr (.swap running)
    · exact .inl found
  · simp [finish]
  · simp [running]
  · simp [finish]

theorem invalidateLocking_motion {scope : CacheInvalidation}
    (running : world.calls.lookup id = some (.invalidateLocking scope)) (keys : List CacheKey) :
    Motion world (.advance id) ((world.acquire id).goto id (.invalidating keys keys.length)) := by
  refine .of_call id (fun _ => lookup_insert_ne) rfl (Nat.le_refl _) (Nat.le_succ _) ?_
    (fun _ _ found => .inl found) ?_ ?_ ?_
  · rw [resets_advance_of_untracked running rfl]
    rfl
  · simp [goto]
  · simp [running]
  · rw [goto, lookup_insert]
    rintro _ _ _ ⟨⟩
    exact Nat.le_refl _

theorem discard_motion {key : CacheKey}
    (running : world.calls.lookup id = some (.invalidating (key :: keys) count)) :
    Motion world (.advance id) ((world.discard key).goto id (.invalidating keys count)) := by
  refine .of_call id (fun _ => lookup_insert_ne) rfl (Nat.le_refl _) (Nat.le_succ _) ?_
    (fun _ _ found => .inl (lookup_of_lookup_erase found)) ?_ ?_ ?_
  · simp only [resets, running]
    rfl
  · simp [goto]
  · rw [running]
    rintro _ _ ⟨⟩
    exact .inl ⟨keys, lookup_insert _⟩
  · rw [goto, lookup_insert]
    rintro counted _ _ ⟨⟩
    exact Nat.le_of_succ_le (counted id _ _ running)

/-- An `invalidate` that found records ends with new generations. -/
theorem reset_motion {bumped : World}
    (running : world.calls.lookup id = some (.invalidating [] count))
    (bump : bumped = if count = 0 then world
      else { world with
        nextVersion := world.nextVersion + 1
        snapshotResetGeneration := world.snapshotResetGeneration + 1 }) :
    Motion world (.advance id) (bumped.finish id) := by
  have calls : bumped.calls = world.calls := by rw [bump]; split <;> rfl
  refine .of_call id ?_ ?_ ?_ ?_ ?_ ?_ ?_ ?_ ?_
  · intro other different
    rw [finish, calls, lookup_erase_ne different]
  · rw [bump]
    split <;> rfl
  · rw [bump]
    split
    · exact Nat.le_refl _
    · exact Nat.le_succ _
  · rw [bump]
    split
    · exact Nat.le_succ _
    · exact Nat.le_refl _
  · simp only [resets, running, bump]
    split
    · next zero => rw [zero]; rfl
    · next nonzero => rw [bne_iff_ne.mpr nonzero]; rfl
  · rw [bump]
    split <;> exact fun _ _ found => .inl found
  · simp [finish]
  · rw [running]
    rintro _ _ ⟨⟩
    exact .inr ⟨rfl, rfl⟩
  · simp [finish]

theorem advance_motion (taken : advance limits world id = some (next, answer)) :
    Motion world (.advance id) next := by
  cases running : world.calls.lookup id with
  | none => simp [advance, running] at taken
  | some call =>
    cases call with simp only [advance, running, finishGet] at taken
    | getRemoving _ now | swapRemoving _ now =>
      cases taken
      exact .of_goto running rfl rfl rfl rfl { cached := fun _ _ => lookup_of_lookup_erase }
    | swapDeciding write current now =>
      have moved := decideSwap_motion limits running
      rw [Option.some.inj taken] at moved
      exact moved
    | swapInserting write version outcome =>
      cases taken
      exact insert_motion running
    | invalidateLocking scope =>
      repeat' split at taken
      · cases taken
      · cases taken
        exact .of_finish running rfl rfl rfl {}
      · cases taken
        exact invalidateLocking_motion running _
    | invalidating keys count =>
      cases keys with
      | cons key keys =>
        cases taken
        exact discard_motion running
      | nil =>
        cases taken
        exact reset_motion running rfl
    | shutdownClearing =>
      cases taken
      refine .of_finish running rfl rfl rfl { cached := ?_ }
      intro key record found
      cases found
    | _ =>
      repeat' split at taken
      all_goals cases taken
      all_goals
        first
        | exact .of_goto running rfl rfl rfl rfl {}
        | exact .of_finish running rfl rfl rfl {}

/-- A new call takes a number that no running call has. -/
theorem start_motion (inv : Invariant world) (untracked : call.isTracked = false)
    (reset : resets world action = false) : Motion world action (world.start call) := by
  refine .of_untracked world.nextCall ?_ reset rfl {} ?_ ?_
  · intro other running
    cases Nat.lt_irrefl _ (inv.call_bound _ _ running)
  · intro other different
    exact lookup_insert_ne different
  · intro other found
    rw [World.start, lookup_insert] at found
    cases found
    exact untracked

/-- A step outside the calls. -/
theorem Motion.of_calls_eq (reset : resets world action = false) (calls : next.calls = world.calls)
    (clock : world.clock ≤ next.clock) (fades : Fades world next) :
    Motion world action next where
  clock_le := clock
  version_le := Nat.le_of_eq fades.version.symm
  version_le_succ := Nat.le_succ_of_le (Nat.le_of_eq fades.version)
  reset_eq := by
    rw [fades.generation, reset]
    rfl
  cached key record found := .inl (fades.cached key record found)
  inserting none_inserting _ := by
    rw [NoneInserting, calls]
    exact none_inserting
  invalidating id keys count running := .inl ⟨keys, by rw [calls, running]⟩
  counted counted := by
    rw [Counted, calls]
    exact counted

theorem step_motion (inv : Invariant world)
    (taken : step limits world action = some (next, answer)) :
    Motion world action next := by
  cases action with simp only [step] at taken
  | advance id => exact advance_motion taken
  | evict key | expire key =>
    repeat' split at taken
    all_goals cases taken
    all_goals
      first
      | exact .of_calls_eq rfl rfl (Nat.le_refl _) {}
      | exact .of_calls_eq rfl rfl (Nat.le_refl _) { cached := fun _ _ => lookup_of_lookup_erase }
  | tick duration =>
    cases taken
    exact .of_calls_eq rfl rfl (Nat.le_add_right _ _) {}
  | shutdown =>
    cases taken
    exact start_motion inv rfl rfl
  | get | compareAndSwap | invalidate =>
    split at taken <;> cases taken
    · exact .of_calls_eq rfl rfl (Nat.le_refl _) {}
    · exact start_motion inv rfl rfl

theorem step_counters_le (taken : step limits world action = some (next, answer)) :
    next.nextVersion ≤ world.nextVersion + 1 ∧
      next.snapshotResetGeneration ≤ world.snapshotResetGeneration + 1 := by
  cases action with
  | advance id =>
    have motion := advance_motion taken
    refine ⟨motion.version_le_succ, ?_⟩
    rw [motion.reset_eq]
    exact Nat.add_le_add_left (Bool.toNat_le _) _
  | _ =>
    simp only [step] at taken
    repeat' split at taken
    all_goals cases taken
    all_goals exact ⟨Nat.le_succ _, Nat.le_succ _⟩

end FluxDns.Cache.Moka
