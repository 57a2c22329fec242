import FluxDns.Cache.Moka

/-!
# Retention of written records in the Moka store

A successful write promises that its record stays readable until it is evicted, invalidated,
replaced or out of retention.  Two steps can break the promise: the removal inside a `get`, which is
not protected by the lock of the writers, and the expiry of an entry, which is the one of the record
that the entry was created for.
-/

namespace FluxDns.Cache.Moka

open AList Execution World Call Option CacheRecord

variable {world : World} {id : Nat} {call : Call} {limits : Limits} {next : World} {answer : Answer}
  {move : Transition World Action Answer}

/-- What holds between any two steps. -/
structure Invariant (world : World) : Prop where
  call_bound : ∀ id call, world.calls.lookup id = some call → id < world.nextCall
  holder : ∀ id call, world.calls.lookup id = some call → call.holdsLock → world.holder = some id
  cached_promised : ∀ key record, world.cache.lookup key = some record →
    world.promised.lookup key = some record
  reading_past : ∀ id write now, world.calls.lookup id = some (.swapReading write now) →
    now ≤ world.clock
  removing_stale : ∀ id write now record, world.calls.lookup id = some (.swapRemoving write now) →
    world.cache.lookup write.key = some record → record.isVisible world.clock = false
  inserting_outcome : ∀ id write version outcome,
    world.calls.lookup id = some (.swapInserting write version outcome) →
      outcome = .inserted version ∨ outcome = .replaced version

theorem isVisible_antitone {record : CacheRecord} {earlier later : Instant}
    (ordered : earlier ≤ later) (ended : record.isVisible earlier = false) :
    record.isVisible later = false := by
  simp only [isVisible, decide_eq_false_iff_not, not_lt] at *
  exact Nat.le_trans ended ordered

theorem invariant_initial : Invariant initial := by
  constructor <;> simp [initial]

/-- The next place of a call fits the lock and the cache. -/
structure Fits (world : World) (id : Nat) (call : Call) : Prop where
  bound : id < world.nextCall
  lock : call.holdsLock → world.holder = some id
  reading : ∀ write now, call = .swapReading write now → now ≤ world.clock
  removing : ∀ write now record, call = .swapRemoving write now →
    world.cache.lookup write.key = some record → record.isVisible world.clock = false
  inserting : ∀ write version outcome, call = .swapInserting write version outcome →
    outcome = .inserted version ∨ outcome = .replaced version

variable (inv : Invariant world)

include inv

theorem Invariant.goto (fits : Fits world id call) : Invariant (world.goto id call) := by
  have parts := inv
  cases parts
  obtain ⟨bound, lock, reading, removing, inserting⟩ := fits
  constructor
  case cached_promised => exact inv.cached_promised
  all_goals
    simp only [World.goto, lookup_insert_eq_ite]
    grind

theorem Invariant.start (outside : call.holdsLock = false) : Invariant (world.start call) := by
  have parts := inv
  cases parts
  constructor
  case cached_promised => exact inv.cached_promised
  all_goals
    simp only [World.start, lookup_insert_eq_ite]
    grind [holdsLock]

theorem Invariant.finish (id : Nat) : Invariant (world.finish id) := by
  have parts := inv
  cases parts
  constructor
  case cached_promised => exact inv.cached_promised
  all_goals
    simp only [World.finish, lookup_erase_eq_ite]
    grind

theorem Invariant.remove (key : CacheKey) : Invariant (world.remove key) := by
  have parts := inv
  cases parts
  constructor
  all_goals
    simp only [World.remove, lookup_erase_eq_ite]
    grind

theorem Invariant.discard (key : CacheKey) : Invariant (world.discard key) := by
  have parts := inv
  cases parts
  constructor
  all_goals
    simp only [World.discard, lookup_erase_eq_ite]
    grind

/-- Only the holder of the lock writes, so no other call is about to remove the key. -/
theorem Invariant.insert {write : Write} {version : UInt64} {outcome : CacheWriteOutcome}
    (writing : world.calls.lookup id = some (.swapInserting write version outcome))
    (record : CacheRecord) : Invariant (world.insert write.key record) := by
  have parts := inv
  cases parts
  constructor
  case removing_stale =>
    intro other removal now stored removing
    have writer : some id = some other :=
      (inv.holder id _ writing rfl).symm.trans (inv.holder other _ removing rfl)
    rw [some.inj writer] at writing
    cases writing.symm.trans removing
  all_goals
    simp only [World.insert, lookup_insert_eq_ite]
    grind

theorem Invariant.tick (duration : Duration) :
    Invariant { world with clock := world.clock + duration } := by
  refine { inv with reading_past := ?_, removing_stale := ?_ }
  · intro id write now reading
    exact Nat.le_trans (inv.reading_past id write now reading) (Nat.le_add_right _ _)
  · intro id write now record removing found
    exact isVisible_antitone (Nat.le_add_right _ _)
      (inv.removing_stale id write now record removing found)

theorem Invariant.counters (state : MokaState) (nextVersion reset evictions : Nat) :
    Invariant { world with
      state := state
      nextVersion := nextVersion
      snapshotResetGeneration := reset
      evictionCount := evictions } :=
  { inv with }

/-- The lock is taken while no call holds it. -/
theorem Invariant.acquire (free : world.holder = none) (id : Nat) :
    Invariant (world.acquire id) := by
  refine { inv with holder := ?_ }
  intro other call running held
  have holder := inv.holder other call running held
  rw [free] at holder
  cases holder

omit inv

/-- The place touches neither the cache nor the clock. -/
def Call.isQuiet : Call → Bool
  | .swapReading _ _ | .swapRemoving _ _ | .swapInserting _ _ _ => false
  | _ => true

theorem Invariant.turn (inv : Invariant world) {next : Call}
    (running : world.calls.lookup id = some call) (quiet : next.isQuiet = true)
    (lock : next.holdsLock = false ∨ world.holder = some id) : Invariant (world.goto id next) := by
  refine inv.goto ⟨inv.call_bound id call running, fun held => lock.resolve_left (by simp [held]),
    ?_, ?_, ?_⟩ <;> intros <;> simp_all [isQuiet]

theorem Invariant.finishGet (inv : Invariant world) (id : Nat) (record : Option CacheRecord)
    (now : Instant) : Invariant (finishGet world id record now).1 := by
  unfold Moka.finishGet
  split
  · exact inv.finish id
  · exact (inv.counters _ _ _ _).finish id

theorem Invariant.decideSwap (limits : Limits) (inv : Invariant world)
    (running : world.calls.lookup id = some call) (held : world.holder = some id) (write : Write)
    (current : Option CacheRecord) (now : Instant) :
    Invariant (decideSwap limits world id write current now).1 := by
  unfold Moka.decideSwap
  split
  · exact (inv.counters _ _ _ _).finish id
  split
  · exact inv.finish id
  split
  · exact inv.finish id
  · have counted := inv.counters world.state (world.nextVersion + 1)
      world.snapshotResetGeneration world.evictionCount
    refine counted.goto ⟨counted.call_bound id call running, fun _ => held, by simp, by simp, ?_⟩
    intro other version outcome equal
    cases equal
    split
    · exact .inr rfl
    · exact .inl rfl

theorem Invariant.advance (inv : Invariant world)
    (taken : advance limits world id = some (next, answer)) : Invariant next := by
  cases running : world.calls.lookup id with
  | none => simp [Moka.advance, running] at taken
  | some call =>
    cases call with simp only [Moka.advance, running] at taken
    | getStarted | getReading =>
      repeat' split at taken
      all_goals
        cases taken
        exact inv.turn running rfl (.inl rfl)
    | getRemoving key now =>
      cases taken
      exact (inv.remove key).turn running rfl (.inl rfl)
    | getFinishing record now =>
      split at taken <;> try cases taken
      have finished := inv.finishGet id record now
      rw [some.inj taken] at finished
      exact finished
    | swapLocking write | invalidateLocking scope =>
      split at taken <;> try cases taken
      next free =>
      have acquired := inv.acquire (by simpa using free) id
      split at taken <;> cases taken
      · exact inv.finish id
      · exact acquired.turn running rfl (.inr rfl)
    | swapLocked write =>
      cases taken
      refine inv.goto ⟨inv.call_bound id _ running, fun _ => ?_, ?_, by simp, by simp⟩
      · exact inv.holder id _ running rfl
      · intro other now equal
        cases equal
        exact Nat.le_refl _
    | swapReading write now =>
      have held := inv.holder id _ running rfl
      split at taken
      · cases taken
        exact inv.turn running rfl (.inr held)
      · next record found =>
        split at taken <;> cases taken
        · exact inv.turn running rfl (.inr held)
        · next ended =>
          refine inv.goto ⟨inv.call_bound id _ running, fun _ => held, by simp, ?_, by simp⟩
          intro other later stored equal present
          cases equal
          rw [found] at present
          cases present
          exact isVisible_antitone (inv.reading_past id write now running) (by simpa using ended)
    | swapRemoving write now =>
      cases taken
      exact (inv.remove write.key).turn running rfl (.inr (inv.holder id _ running rfl))
    | swapDeciding write current now =>
      have decided := inv.decideSwap limits running (inv.holder id _ running rfl) write current now
      rw [some.inj taken] at decided
      exact decided
    | swapInserting write version outcome =>
      cases taken
      exact (inv.insert running _).finish id
    | invalidating keys count =>
      cases keys with
      | cons key keys =>
        cases taken
        exact (inv.discard key).turn running rfl (.inr (inv.holder id _ running rfl))
      | nil =>
        cases taken
        split
        · exact inv.finish id
        · exact (inv.counters _ _ _ _).finish id
    | shutdownLocking =>
      split at taken <;> cases taken
      have counted := inv.counters { world.state with shuttingDown := true }
        world.nextVersion world.snapshotResetGeneration world.evictionCount
      exact counted.turn running rfl (.inl rfl)
    | shutdownClearing =>
      cases taken
      have cleared : Invariant { world with cache := ∅, expiry := ∅, promised := ∅ } :=
        { inv with cached_promised := by simp, removing_stale := by simp }
      exact cleared.finish id

theorem step_preserves (limits : Limits) : Preserves (step limits) Invariant := by
  intro world action next answer inv taken
  cases action with simp only [step] at taken
  | shutdown =>
    cases taken
    exact inv.start rfl
  | advance id => exact inv.advance taken
  | evict key =>
    split at taken <;> cases taken
    exact (inv.counters _ _ _ _).discard key
  | expire key =>
    repeat' split at taken
    all_goals cases taken
    · exact { inv.remove key with }
    · exact { inv with }
  | tick duration =>
    cases taken
    exact inv.tick duration
  | _ =>
    split at taken <;> cases taken
    · exact inv
    · exact inv.start rfl

theorem reachable_le_invariant : Reachable (step limits) initial ≤ Invariant :=
  fun _ => (step_preserves limits).of_reachable invariant_initial

/-- The removals that do not look at the stored record: by a `get`, and by the expiry of the
entry. -/
inductive Removes (world : World) : Action → CacheKey → Prop
  | get {id : Nat} {key : CacheKey} {now : Instant}
      (running : world.calls.lookup id = some (.getRemoving key now)) :
      Removes world (.advance id) key
  | expire (key : CacheKey) : Removes world (.expire key) key

/-- All that a step can do to the stored records, the promises and the clock. -/
inductive Effect (world : World) (action : Action) :
    (Map CacheKey CacheRecord) → (Map CacheKey CacheRecord) →
      Instant → Prop
  | keep : Effect world action world.cache world.promised world.clock
  | remove {key : CacheKey} (removes : Removes world action key) :
      Effect world action (world.cache.erase key) world.promised world.clock
  | swap {id : Nat} {write : Write} {now : Instant}
      (running : world.calls.lookup id = some (.swapRemoving write now)) :
      Effect world action (world.cache.erase write.key) world.promised world.clock
  | discard (key : CacheKey) :
      Effect world action (world.cache.erase key) (world.promised.erase key) world.clock
  | insert (key : CacheKey) (record : CacheRecord) :
      Effect world action (world.cache.insert key record) (world.promised.insert key record)
        world.clock
  | clear : Effect world action ∅ ∅ world.clock
  | tick (duration : Duration) :
      Effect world action world.cache world.promised (world.clock + duration)

theorem advance_effect (taken : advance limits world id = some (next, answer)) :
    Effect world (.advance id) next.cache next.promised next.clock := by
  cases running : world.calls.lookup id with
  | none => simp [advance, running] at taken
  | some call =>
    cases call with simp only [advance, running, finishGet, decideSwap] at taken
    | getRemoving key now =>
      cases taken
      exact .remove (.get running)
    | swapRemoving write now =>
      cases taken
      exact .swap running
    | swapInserting write version outcome =>
      cases taken
      exact .insert write.key _
    | invalidating keys count =>
      cases keys with
      | cons key keys =>
        cases taken
        exact .discard key
      | nil =>
        cases taken
        split <;> exact .keep
    | shutdownClearing =>
      cases taken
      exact .clear
    | _ =>
      repeat' split at taken
      all_goals
        cases taken
        try exact .keep

theorem step_effect {action : Action} (taken : step limits world action = some (next, answer)) :
    Effect world action next.cache next.promised next.clock := by
  cases action with simp only [step] at taken
  | advance id => exact advance_effect taken
  | evict key =>
    split at taken <;> cases taken
    exact .discard key
  | expire key =>
    repeat' split at taken
    all_goals cases taken
    · exact .remove (.expire key)
    · exact .keep
  | tick duration =>
    cases taken
    exact .tick duration
  | _ =>
    repeat' split at taken
    all_goals
      cases taken
      exact .keep

/-- Every promised record whose retention has not ended is found under its key. -/
def Retained (world : World) : Prop :=
  ∀ key record, world.promised.lookup key = some record →
    world.clock < record.entry.retentionDeadline → world.cache.lookup key = some record

/-- Neither a `get` nor the expiry of an entry removes a record that is within its retention. -/
def RemovesOnlyEnded (transition : Transition World Action Answer) : Prop :=
  ∀ key record, Removes transition.before transition.action key →
    transition.before.cache.lookup key = some record →
    record.isVisible transition.before.clock = false

theorem Retained.erase (retained : Retained world) {removed : CacheKey}
    (ended : ∀ record, world.cache.lookup removed = some record →
      record.isVisible world.clock = false)
    (key : CacheKey) (record : CacheRecord) (promised : world.promised.lookup key = some record)
    (within : world.clock < record.entry.retentionDeadline) :
    (world.cache.erase removed).lookup key = some record := by
  have found := retained key record promised within
  have different : key ≠ removed := by
    intro same
    have invisible := ended record (same ▸ found)
    simp only [isVisible, decide_eq_false_iff_not] at invisible
    exact invisible within
  rw [lookup_erase_ne different, found]

theorem retained_step (inv : Invariant move.before) (retained : Retained move.before)
    (taken : step limits move.before move.action = some (move.after, move.output))
    (guarded : RemovesOnlyEnded move) : Retained move.after := by
  obtain ⟨world, action, answer, next⟩ := move
  have effect := step_effect taken
  unfold Retained
  generalize next.cache = cache at effect
  generalize next.promised = promises at effect
  generalize next.clock = clock at effect
  cases effect with
  | keep => exact retained
  | remove removes => exact retained.erase fun record => guarded _ record removes
  | swap running => exact retained.erase fun record => inv.removing_stale _ _ _ record running
  | discard removed =>
    intro key record promised within
    rw [lookup_erase_eq_ite] at promised ⊢
    split at promised
    · cases promised
    · next different => rw [if_neg different, retained key record promised within]
  | insert written stored =>
    intro key record promised within
    rw [lookup_insert_eq_ite] at promised ⊢
    split at promised
    · next same => rw [if_pos same, promised]
    · next different => rw [if_neg different, retained key record promised within]
  | clear =>
    intro key record promised
    simp at promised
  | tick duration =>
    intro key record promised within
    exact retained key record promised (Nat.lt_of_le_of_lt (Nat.le_add_right _ _) within)

/-- A removal of a record within its retention breaks the promise of its write. -/
theorem removesOnlyEnded_of_retained (inv : Invariant move.before)
    (taken : step limits move.before move.action = some (move.after, move.output))
    (retained : Retained move.after) : RemovesOnlyEnded move := by
  obtain ⟨world, action, answer, next⟩ := move
  intro key record removes found
  by_contra visible
  have within : world.clock < record.entry.retentionDeadline := by
    simpa [isVisible] using visible
  have promised := inv.cached_promised key record found
  cases removes with
  | get running =>
    simp only [step, advance, running] at taken
    cases taken
    have kept := retained key record promised within
    simp [World.goto, World.remove] at kept
  | expire =>
    simp only [step, found] at taken
    split at taken <;> cases taken
    have kept := retained key record promised within
    simp at kept

/-- In an interleaving every written record stays readable until it is evicted, invalidated,
replaced or out of retention exactly when no `get` and no expiry removes a record within its
retention. -/
theorem records_retained_iff (limits : Limits) (actions : List Action) :
    (∀ transition ∈ transitions (step limits) initial actions,
      Retained transition.after) ↔
    ∀ transition ∈ transitions (step limits) initial actions,
      RemovesOnlyEnded transition := by
  constructor
  · intro retained transition member
    obtain ⟨invariant, taken⟩ := (step_preserves limits).of_mem_transitions invariant_initial member
    exact removesOnlyEnded_of_retained invariant taken (retained transition member)
  · intro guarded
    have both := forall_after_of_guarded
      (fun world => Invariant world ∧ Retained world) RemovesOnlyEnded
      (fun transition start taken met =>
        ⟨step_preserves limits _ _ _ _ start.1 taken, retained_step start.1 start.2 taken met⟩)
      ⟨invariant_initial, by simp [Retained, initial]⟩ guarded
    exact fun transition member => (both transition member).2

/-- An empty response for concrete runs. -/
def sampleResponse : CanonicalResponse where
  message := .ask (Metadata.new .response) ⟨⟨[[97]], true⟩, 1, 1⟩ none
  responseClass := .noData
  ttl := ⟨none, none⟩
  question := ⟨⟨⟨[[97]], true⟩, 1, 1, rfl, rfl⟩, rfl, rfl, rfl, by simp [Message.ask]⟩
  id_eq := rfl
  class_eq := rfl
  ttl_eq := rfl

/-- An entry for concrete runs that expires at an instant and has no stale window. -/
def sampleEntry (insertedAt expiresAt : Instant) : CacheEntry where
  response := sampleResponse
  upstream := sampleUpstream
  insertedAt := insertedAt
  expiresAt := expiresAt
  staleUntil := none
  responseClass := .noData
  producerRevision := 1
  quality := .negative
  checksum := 0
  formatVersion := cacheEntryFormatVersion

def sampleKey : CacheKey := ⟨.global, [1], 1⟩

def sampleLimits : Limits := ⟨none, fun _ => 0⟩

/-- The write of an entry under the sample key, on the condition that there is none. -/
def sampleWrite (entry : CacheEntry) : Write := ⟨sampleKey, .absent, entry⟩

/-- A `get` finds the first record out of retention, and removes the key only after a second write
has replaced the record. -/
def racingRemoval : List Action :=
  [.compareAndSwap (sampleWrite (sampleEntry 0 second)) ⟨1000 * second⟩,
    .advance 0, .advance 0, .advance 0, .advance 0, .advance 0,
    .tick (61 * second),
    .get sampleKey ⟨1000 * second⟩, .advance 1, .advance 1,
    .compareAndSwap (sampleWrite (sampleEntry (61 * second) (121 * second))) ⟨1000 * second⟩,
    .advance 2, .advance 2, .advance 2, .advance 2, .advance 2, .advance 2,
    .advance 1]

/-- A record that lives for 300 seconds replaces one that lives for a second, whose expiry it
keeps. -/
def carriedExpiry : List Action :=
  [.compareAndSwap (sampleWrite (sampleEntry 0 second)) ⟨1000 * second⟩,
    .advance 0, .advance 0, .advance 0, .advance 0, .advance 0,
    .compareAndSwap ⟨sampleKey, .version 1, sampleEntry 0 (300 * second)⟩ ⟨1000 * second⟩,
    .advance 1, .advance 1, .advance 1, .advance 1, .advance 1,
    .tick (62 * second), .expire sampleKey,
    .get sampleKey ⟨1000 * second⟩, .advance 2, .advance 2, .advance 2]

/-- Both runs lose a record that was written successfully; the second has no racing calls. -/
theorem written_records_lost :
    (((transitions (step sampleLimits) initial racingRemoval).map
      (·.output)).drop 16 = [.swapped (.ok (.inserted 2)), .running] ∧
    ¬ ∀ transition ∈ transitions (step sampleLimits) initial racingRemoval,
      Retained transition.after) ∧
    ((transitions (step sampleLimits) initial carriedExpiry).map (·.output)).drop 11 =
      [.swapped (.ok (.replaced 2)), .done, .done, .running, .running, .running,
        .got (.ok none)] ∧
    ¬ ∀ transition ∈ transitions (step sampleLimits) initial carriedExpiry,
      Retained transition.after := by
  refine ⟨⟨rfl, fun retained => ?_⟩, rfl, fun retained => ?_⟩
  · have last := retained
      ((transitions (step sampleLimits) initial racingRemoval).get ⟨17, by decide⟩)
      (List.get_mem _ _)
    have found := last sampleKey ⟨2, sampleEntry (61 * second) (121 * second)⟩ rfl (by decide)
    cases found
  · have last := retained
      ((transitions (step sampleLimits) initial carriedExpiry).get ⟨17, by decide⟩)
      (List.get_mem _ _)
    have found := last sampleKey ⟨2, sampleEntry 0 (300 * second)⟩ rfl (by decide)
    cases found

end FluxDns.Cache.Moka
