import FluxDns.Cache.MokaGenerations
import FluxDns.Cache.SnapshotOwner

/-!
# Steps of the snapshot owner

All that a step of the owner can do, and what holds between any two steps: every writer works for
the current source or for an older one, and a writer that holds the publish lock works for the
current source.
-/

namespace FluxDns.Cache.SnapshotOwner

open Execution Function Moka Option Attempt

variable {world next : World} {worker : Worker} {attempt : Attempt} {limits : Nat → Limits}
  {action : Action} {output : Output} {actions : List Action} {own : Option Attempt}

inductive Effect (limits : Nat → Limits) (world : World) : Action → Output → World → Prop
  | store {id : Nat} {action : Moka.Action} {store : Moka.World} {answer : Moka.Answer}
      (taken : Moka.step (limits id) (world.stores id) action = some (store, answer)) :
      Effect limits world (.store id action) (.stored answer)
        { world with
          stores := update world.stores id store
          attempts := fun worker => (world.attempts worker).map (·.forget id store)
          notes := world.notes.step id (world.stores id) action }
  | idle : Effect limits world .wake .quiet world
  | skip (running : world.stopped = false)
      (unchanged : world.lastPersistedSourceGeneration =
        some (snapshotGeneration (world.stores world.source.store))) :
      Effect limits world .wake .skipped world
  | decide (free : world.attempts .periodic = none) (running : world.stopped = false)
      (changed : world.lastPersistedSourceGeneration ≠
        some (snapshotGeneration (world.stores world.source.store))) :
      Effect limits world .wake .quiet { world with deciding := true }
  | prepare (deciding : world.deciding = true) : Effect limits world .prepare .quiet
        ({ world with deciding := false }.setAttempt .periodic (some world.prepared))
  | read {worker : Worker} {attempt : Attempt} (running : world.attempts worker = some attempt)
      (place : attempt.phase = .reading) :
      Effect limits world (.advance worker) .quiet
        (world.setAttempt worker (some { attempt with
          generation := some (snapshotGeneration (world.stores attempt.ticket.source.store))
          phase := .spawned }))
  | enter {worker : Worker} {attempt : Attempt} (running : world.attempts worker = some attempt)
      (place : attempt.phase = .spawned)
      (free : (world.stores attempt.ticket.source.store).holder = none) :
      Effect limits world (.advance worker) .quiet (world.goto worker attempt .admitted)
  | capture {worker : Worker} {attempt : Attempt} (running : world.attempts worker = some attempt)
      (place : attempt.phase = .admitted) :
      Effect limits world (.advance worker) .quiet
        (world.goto worker attempt (.capturing (world.stores attempt.ticket.source.store).clock
          (world.stores attempt.ticket.source.store).cache.keys []))
  | write {worker : Worker} {attempt : Attempt} {now : Instant} {content : Content}
      (running : world.attempts worker = some attempt)
      (place : attempt.phase = .capturing now [] content) :
      Effect limits world (.advance worker) .quiet (world.goto worker attempt (.written content))
  | check {worker : Worker} {attempt : Attempt} {content : Content}
      (running : world.attempts worker = some attempt) (place : attempt.phase = .written content)
      (free : world.publish = none)
      (current : snapshotPublishIsCurrent world attempt.ticket = true) :
      Effect limits world (.advance worker) .quiet
        { world.goto worker attempt (.publishing content) with publish := some worker }
  | publish {worker : Worker} {attempt : Attempt} {content : Content}
      (running : world.attempts worker = some attempt)
      (place : attempt.phase = .publishing content) :
      Effect limits world (.advance worker) (.published attempt.ticket content)
        { world.goto worker attempt (.replaced content) with
          files := update world.files attempt.ticket.source.settings.path (some content) }
  | release {worker : Worker} {attempt : Attempt} {content : Content}
      (running : world.attempts worker = some attempt)
      (place : attempt.phase = .replaced content) :
      Effect limits world (.advance worker) .quiet
        { world.goto worker attempt (.finished content) with publish := world.released worker }
  | complete {worker : Worker} {attempt : Attempt} {content : Content}
      (running : world.attempts worker = some attempt)
      (place : attempt.phase = .finished content) (unlocked : world.deciding = false) :
      Effect limits world (.advance worker) .quiet
        ((complete world attempt).setAttempt worker none)
  | visit {worker : Worker} {attempt : Attempt} {now : Instant} {pending : List CacheKey}
      {content : Content} {key : CacheKey} {record : CacheRecord}
      (running : world.attempts worker = some attempt)
      (place : attempt.phase = .capturing now pending content)
      (found : (world.stores attempt.ticket.source.store).cache.lookup key = some record) :
      Effect limits world (.visit worker key) .quiet
        (world.goto worker attempt
          (.capturing now (pending.filter (· ≠ key)) (visited now key record content)))
  /-- The store is shutting down, or the writer is superseded. -/
  | abandon (worker : Worker) :
      Effect limits world (.advance worker) .quiet (world.setAttempt worker none)
  | fail (worker : Worker) : Effect limits world (.fail worker) .quiet
        { world.setAttempt worker none with publish := world.released worker }
  | switch {ownerRevision : UInt64} {store : Nat} {settings : CacheSnapshotSettings}
      (unlocked : world.deciding = false) (free : world.publish = none) :
      Effect limits world (.publishSwitch ownerRevision store settings) .quiet
        { world with
          source := world.nextSource ownerRevision store settings
          lastPersistedSourceGeneration := none }
  | stop (unlocked : world.deciding = false) (free : world.publish = none) :
      Effect limits world .shutdown .quiet
        { world with
          stopped := true
          source := world.lastSource
          ending := some world.lastSource }
  | stopAgain (stopped : world.stopped = true) : Effect limits world .shutdown .quiet world
  | final {source : SnapshotSource} (ending : world.ending = some source) :
      Effect limits world .startFinal .quiet
        ({ world with ending := none }.setAttempt .final (some (world.lastAttempt source)))
  | giveUp : Effect limits world .giveUp .quiet { world with ending := none }

section Inversion

variable {limits : Nat → Limits} {world next : World} {output : Output} {worker : Worker}

theorem wake_effect (taken : wake world = some (next, output)) :
    Effect limits world .wake output next := by
  unfold wake at taken
  split at taken
  · cases taken
  next ready =>
  split at taken
  · cases taken
    exact .idle
  next awake =>
  rw [not_or, Bool.not_eq_true] at ready awake
  split at taken <;> cases taken
  · next unchanged => exact .skip awake.1 unchanged
  · next changed => exact .decide (not_isSome_iff_eq_none.mp ready.2) awake.1 changed

theorem advance_effect (taken : advance world worker = some (next, output)) :
    Effect limits world (.advance worker) output next := by
  unfold advance at taken
  split at taken
  · cases taken
  next attempt running =>
  split at taken
  · next place =>
    cases taken
    exact .read running place
  · next place =>
    dsimp only at taken
    split at taken
    · cases taken
    next free =>
    split at taken <;> cases taken
    · exact .abandon worker
    · exact .enter running place (not_isSome_iff_eq_none.mp free)
  · next place =>
    cases taken
    exact .capture running place
  · next place =>
    cases taken
    exact .write running place
  · cases taken
  · next place =>
    split at taken
    · cases taken
    next free =>
    split at taken <;> cases taken
    · next current =>
      rw [not_or] at free
      exact .check running place (not_isSome_iff_eq_none.mp free.2) current
    · exact .abandon worker
  · next place =>
    cases taken
    exact .publish running place
  · next place =>
    cases taken
    exact .release running place
  · next place =>
    split at taken <;> cases taken
    next unlocked => exact .complete running place (Bool.not_eq_true _ ▸ unlocked)

theorem visit_effect {key : CacheKey} (taken : visit world worker key = some (next, output)) :
    Effect limits world (.visit worker key) output next := by
  unfold visit at taken
  split at taken
  · cases taken
  next attempt running =>
  split at taken <;> cases taken
  next now pending content record place found => exact .visit running place found

theorem fail_effect (taken : fail world worker = some (next, output)) :
    Effect limits world (.fail worker) output next := by
  unfold fail at taken
  split at taken
  case h_4 =>
    cases taken
    exact .fail worker
  all_goals cases taken

theorem unlocked_iff : world.unlocked = true ↔ world.deciding = false ∧ world.publish = none := by
  rw [World.unlocked, Bool.and_eq_true, Bool.not_eq_true', isNone_iff_eq_none]

theorem publishSwitch_effect {ownerRevision : UInt64} {store : Nat}
    {settings : CacheSnapshotSettings}
    (taken : publishSwitch world ownerRevision store settings = some (next, output)) :
    Effect limits world (.publishSwitch ownerRevision store settings) output next := by
  unfold publishSwitch at taken
  split at taken <;> cases taken
  next unlocked =>
  obtain ⟨deciding, free⟩ := unlocked_iff.mp unlocked
  exact .switch deciding free

theorem shutdown_effect (taken : shutdown world = some (next, output)) :
    Effect limits world .shutdown output next := by
  unfold shutdown at taken
  split at taken <;> try cases taken
  next unlocked =>
  split at taken <;> cases taken
  · next stopped => exact .stopAgain stopped
  · obtain ⟨deciding, free⟩ := unlocked_iff.mp unlocked
    exact .stop deciding free

theorem startFinal_effect (taken : startFinal world = some (next, output)) :
    Effect limits world .startFinal output next := by
  unfold startFinal at taken
  split at taken
  · cases taken
  next source ending =>
  split at taken <;> cases taken
  exact .final ending

theorem step_effect {action : Action} (taken : step limits world action = some (next, output)) :
    Effect limits world action output next := by
  cases action with
  | store id action =>
    simp only [step, stepStore] at taken
    split at taken <;> cases taken
    next store answer moved => exact .store moved
  | wake => exact wake_effect taken
  | prepare =>
    simp only [step, prepare] at taken
    split at taken <;> cases taken
    next deciding => exact .prepare deciding
  | advance worker => exact advance_effect taken
  | visit worker key => exact visit_effect taken
  | fail worker => exact fail_effect taken
  | publishSwitch ownerRevision store settings => exact publishSwitch_effect taken
  | shutdown => exact shutdown_effect taken
  | startFinal => exact startFinal_effect taken
  | giveUp =>
    cases taken
    exact .giveUp

end Inversion

/-- The source is the other one or has been replaced before it. -/
def SnapshotSource.Upto (source other : SnapshotSource) : Prop :=
  source.generation < other.generation ∨ source = other

def Phase.holdsPublish : Phase → Bool
  | .publishing _ | .replaced _ => true
  | _ => false

/-- What holds of a writer between any two steps. -/
structure Lawful.Writer (world : World) (worker : Worker) (attempt : Attempt) : Prop where
  upto : attempt.ticket.source.Upto world.source
  locked : attempt.phase.holdsPublish = true →
    world.publish = some worker ∧ attempt.ticket.source = world.source
  reset_le : attempt.ticket.resetGeneration.toNat ≤
    (world.stores attempt.ticket.source.store).snapshotResetGeneration
  final : worker = .final → world.stopped = true

/-- What holds between any two steps. -/
structure Lawful (world : World) : Prop where
  stores : ∀ id, Invariant (world.stores id)
  ending : ∀ source, world.ending = some source →
    source.Upto world.source ∧ world.stopped = true
  writers : ∀ worker attempt, world.attempts worker = some attempt →
    Lawful.Writer world worker attempt

/-- The counters of the owner and of its stores are below their limits. -/
structure InRange (world : World) : Prop where
  version : ∀ id, (world.stores id).nextVersion < u64Size
  reset : ∀ id, (world.stores id).snapshotResetGeneration < u64Size
  source : world.source.generation + 1 < u64Size

theorem InRange.saturatingSucc (in_range : InRange world) :
    saturatingSucc world.source.generation = world.source.generation + 1 := by
  have bound := in_range.source
  exact Nat.min_eq_left (Nat.le_sub_one_of_lt bound)

/-- A fact about every writer after one of them has been replaced. -/
theorem forall_attempts_update {attempts : Worker → Option Attempt} {fact : Worker → Attempt → Prop}
    (others : ∀ other attempt, other ≠ worker → attempts other = some attempt → fact other attempt)
    (mine : ∀ attempt, own = some attempt → fact worker attempt) :
    ∀ other attempt, update attempts worker own other = some attempt →
      fact other attempt :=
  (forall_update_iff attempts fun other own => ∀ attempt, own = some attempt →
    fact other attempt).mpr ⟨mine, fun other differs attempt => others other attempt differs⟩

section Forget

variable (id : Nat) (store : Moka.World) (attempt : Attempt)

@[simp]
theorem forget_ticket : (attempt.forget id store).ticket = attempt.ticket := by
  unfold forget
  split <;> rfl

@[simp]
theorem forget_generation : (attempt.forget id store).generation = attempt.generation := by
  unfold forget
  split <;> rfl

theorem forget_holdsPublish :
    (attempt.forget id store).phase.holdsPublish = attempt.phase.holdsPublish := by
  obtain ⟨ticket, generation, phase⟩ := attempt
  unfold forget
  split <;> cases phase <;> rfl

end Forget

/-- A writer is not affected by a step that leaves the source and its lock alone. -/
theorem Lawful.Writer.frame (lawful : Lawful.Writer world worker attempt)
    (source : next.source = world.source)
    (publish : world.publish = some worker → next.publish = some worker) (reset : ∀ id,
      (world.stores id).snapshotResetGeneration ≤ (next.stores id).snapshotResetGeneration)
    (stopped : world.stopped = true → next.stopped = true) :
    Lawful.Writer next worker attempt where
  upto := source ▸ lawful.upto
  locked held := by
    obtain ⟨holder, same⟩ := lawful.locked held
    exact ⟨publish holder, same.trans source.symm⟩
  reset_le := Nat.le_trans lawful.reset_le (reset _)
  final last := stopped (lawful.final last)

theorem Lawful.Writer.change (lawful : Lawful.Writer world worker attempt) {changed : Attempt}
    (ticket : changed.ticket = attempt.ticket)
    (locked : changed.phase.holdsPublish = true → attempt.phase.holdsPublish = true) :
    Lawful.Writer world worker changed where
  upto := ticket ▸ lawful.upto
  locked held := ticket ▸ lawful.locked (locked held)
  reset_le := ticket ▸ lawful.reset_le
  final := lawful.final

theorem Lawful.Writer.overtaken (lawful : Lawful.Writer world worker attempt)
    (free : world.publish = none) (newer : world.source.generation < next.source.generation)
    (stores : next.stores = world.stores) (stopped : world.stopped = true → next.stopped = true) :
    Lawful.Writer next worker attempt where
  upto := by
    rcases lawful.upto with older | same
    · exact .inl (Nat.lt_trans older newer)
    · exact .inl (same ▸ newer)
  locked held := by
    have holder := (lawful.locked held).1
    rw [free] at holder
    cases holder
  reset_le := stores ▸ lawful.reset_le
  final last := stopped (lawful.final last)

theorem toNat_ofNat_of_lt {number : Nat} (bound : number < u64Size) :
    (UInt64.ofNat number).toNat = number :=
  UInt64.toNat_ofNat_of_lt' bound

theorem toNat_ofNat_le (number : Nat) : (UInt64.ofNat number).toNat ≤ number := by
  exact Nat.mod_le _ _

/-- One writer is replaced, in the same stores and for the same source. -/
structure Replaces (worker : Worker) (own : Option Attempt) (world next : World) : Prop where
  attempts : next.attempts = update world.attempts worker own := by rfl
  stores : next.stores = world.stores := by rfl
  source : next.source = world.source := by rfl
  stopped : next.stopped = world.stopped := by rfl

/-- Nothing else but the publish lock changes for the other writers. -/
structure Spares (worker : Worker) (own : Option Attempt) (world next : World) : Prop
    extends Replaces worker own world next where
  ending : ∀ source, next.ending = some source → world.ending = some source := by
    exact fun _ found => found
  publish : ∀ other, other ≠ worker → world.publish = some other → next.publish = some other := by
    exact fun _ _ held => held

theorem Lawful.update (lawful : Lawful world) (spares : Spares worker own world next)
    (mine : ∀ attempt, own = some attempt → Lawful.Writer next worker attempt) :
    Lawful next where
  stores := spares.stores ▸ lawful.stores
  ending ended found := by
    rw [spares.source, spares.stopped]
    exact lawful.ending ended (spares.ending ended found)
  writers := by
    rw [spares.attempts]
    refine forall_attempts_update (fun other attempt different running => ?_) mine
    exact (lawful.writers other attempt running).frame spares.source
      (spares.publish other different) (fun _ => by rw [spares.stores])
      fun before => spares.stopped.trans before

/-- One writer goes on within its ticket and its locks. -/
theorem Lawful.goOn (lawful : Lawful world) {changed : Attempt}
    (running : world.attempts worker = some attempt) (ticket : changed.ticket = attempt.ticket)
    (locked : changed.phase.holdsPublish = true → attempt.phase.holdsPublish = true) :
    Lawful (world.setAttempt worker (some changed)) := by
  refine lawful.update {} ?_
  intro own same
  cases same
  exact ((lawful.writers worker attempt running).change ticket locked).frame rfl id
    (fun _ => Nat.le_refl _) id

/-- One writer ends. -/
theorem Lawful.drop (lawful : Lawful world) (worker : Worker) :
    Lawful (world.setAttempt worker none) :=
  lawful.update { attempts := rfl } nofun

theorem released_of_ne {other : Worker} (different : other ≠ worker)
    (held : world.publish = some other) : world.released worker = some other := by
  rw [World.released, if_neg, held]
  rw [held, some.injEq]
  exact different

/-- The owner does not look at the fields that a completed write changes. -/
theorem complete_eq (world : World) (attempt : Attempt) : ∃ persisted, complete world attempt =
      { world with lastPersistedSourceGeneration := persisted } := by
  unfold complete
  repeat' split
  all_goals exact ⟨_, rfl⟩

theorem snapshotPublishIsCurrent_iff {ticket : Ticket} :
    snapshotPublishIsCurrent world ticket = true ↔
      world.source.generation = ticket.source.generation ∧
      world.source.store = ticket.source.store ∧
      (world.stopped = false ∨ ticket.allowStopped = true) ∧
      snapshotResetGeneration (world.stores ticket.source.store) = ticket.resetGeneration := by
  rw [snapshotPublishIsCurrent, decide_eq_true_iff]

theorem SnapshotSource.Upto.eq {source other : SnapshotSource} (upto : source.Upto other)
    (same : other.generation = source.generation) : source = other := by
  rcases upto with older | equal
  · exact absurd same (Nat.ne_of_gt older)
  · exact equal

theorem Lawful.step (lawful : Lawful world) (in_range : InRange world)
    (taken : step limits world action = some (next, output)) : Lawful next := by
  have newer : world.source.generation < saturatingSucc world.source.generation := by
    rw [in_range.saturatingSucc]
    exact Nat.lt_succ_self _
  cases step_effect taken with
  | store moved =>
    next id action store answer =>
    have motion := Moka.step_motion (lawful.stores id) moved
    refine ⟨?_, lawful.ending, ?_⟩
    · exact (forall_update_iff world.stores fun _ => Invariant).mpr
        ⟨Moka.step_preserves _ _ _ _ _ (lawful.stores id) moved, fun other _ => lawful.stores other⟩
    · intro worker attempt found
      obtain ⟨before, running, rfl⟩ := map_eq_some_iff.mp found
      have kept := (lawful.writers worker before running).change (forget_ticket id store before)
        (fun held => forget_holdsPublish id store before ▸ held)
      refine kept.frame rfl (fun held => held) ?_ (fun stopped => stopped)
      refine (forall_update_iff world.stores fun other after =>
        (world.stores other).snapshotResetGeneration ≤ after.snapshotResetGeneration).mpr
        ⟨?_, fun _ _ => Nat.le_refl _⟩
      rw [motion.reset_eq]
      exact Nat.le_add_right _ _
  | idle | skip | stopAgain => exact lawful
  | decide => exact ⟨lawful.stores, lawful.ending, fun worker attempt running =>
    (lawful.writers worker attempt running).frame rfl id (fun _ => Nat.le_refl _) id⟩
  | prepare =>
    refine lawful.update {} ?_
    intro own same
    cases same
    exact ⟨.inr rfl, nofun, toNat_ofNat_le _, nofun⟩
  | read running | enter running | capture running | write running | visit running =>
    exact lawful.goOn running rfl nofun
  | check running place free current =>
    next worker attempt content =>
    have law := lawful.writers worker attempt running
    obtain ⟨generation, -⟩ := snapshotPublishIsCurrent_iff.mp current
    refine lawful.update { publish := ?_ } ?_
    · intro other different held
      rw [free] at held
      cases held
    · intro own same
      cases same
      exact { law with locked := fun _ => ⟨rfl, law.upto.eq generation⟩ }
  | publish running place =>
    next worker attempt content =>
    have law := lawful.writers worker attempt running
    refine lawful.update {} ?_
    intro own same
    cases same
    exact { law with locked := fun _ => law.locked (by rw [place]; rfl) }
  | release running place =>
    next worker attempt content =>
    have law := lawful.writers worker attempt running
    refine lawful.update { publish := fun _ => released_of_ne } ?_
    intro own same
    cases same
    exact { law with locked := nofun }
  | complete running place unlocked =>
    next worker attempt content =>
    obtain ⟨persisted, same⟩ := complete_eq world attempt
    rw [same]
    exact lawful.update { attempts := rfl } nofun
  | abandon worker => exact lawful.drop worker
  | fail worker =>
    exact lawful.update { attempts := rfl, publish := fun _ => released_of_ne } nofun
  | switch unlocked free =>
    refine ⟨lawful.stores, ?_, ?_⟩
    · intro source found
      obtain ⟨upto, stopped⟩ := lawful.ending source found
      refine ⟨.inl ?_, stopped⟩
      rcases upto with older | same
      · exact Nat.lt_trans older newer
      · exact same ▸ newer
    · intro worker attempt running
      exact (lawful.writers worker attempt running).overtaken free newer rfl id
  | stop unlocked free =>
    refine ⟨lawful.stores, ?_, ?_⟩
    · intro source found
      cases found
      exact ⟨.inr rfl, rfl⟩
    · intro worker attempt running
      exact (lawful.writers worker attempt running).overtaken free newer rfl fun _ => rfl
  | final ending =>
    next source =>
    obtain ⟨upto, stopped⟩ := lawful.ending source ending
    refine lawful.update { ending := nofun } ?_
    intro own same
    cases same
    exact ⟨upto, nofun, toNat_ofNat_le _, fun _ => stopped⟩
  | giveUp =>
    refine ⟨lawful.stores, nofun, ?_⟩
    intro worker attempt running
    exact (lawful.writers worker attempt running).frame rfl id (fun _ => Nat.le_refl _) id

/-- The owner has been started and its worker has not run yet. -/
structure Started (world : World) : Prop where
  stores : ∀ id, Invariant (world.stores id)
  calls : ∀ id, (world.stores id).calls = ∅
  attempts : ∀ worker, world.attempts worker = none
  running : world.stopped = false
  deciding : world.deciding = false
  publish : world.publish = none
  ending : world.ending = none
  notes : world.notes = ⟨[], []⟩

theorem Started.lawful (started : Started world) : Lawful world where
  stores := started.stores
  ending source found := by
    rw [started.ending] at found
    cases found
  writers worker attempt found := by
    rw [started.attempts worker] at found
    cases found

/-- Every step of a run within the counters is taken from a lawful state. -/
theorem Started.lawful_before {initial : World} (started : Started initial)
    (in_range : ∀ move ∈ transitions (step limits) initial actions, InRange move.before) :
    ∀ move ∈ transitions (step limits) initial actions, Lawful move.before ∧
      step limits move.before move.action =
        some (move.after, move.output) :=
  forall_before_of_guarded Lawful (fun move => InRange move.before)
    (fun _ lawful taken in_range => lawful.step in_range taken) started.lawful in_range

theorem source_generation_le (taken : step limits world action = some (next, output)) :
    next.source.generation ≤ world.source.generation + 1 := by
  cases step_effect taken with
  | switch | stop => exact Nat.min_le_left _ _
  | complete =>
    next worker attempt content running place unlocked =>
    obtain ⟨persisted, same⟩ := complete_eq world attempt
    rw [same]
    exact Nat.le_succ _
  | _ => exact Nat.le_succ _

theorem stores_counters_le (taken : step limits world action = some (next, output)) (id : Nat) :
    (next.stores id).nextVersion ≤ (world.stores id).nextVersion + 1 ∧
      (next.stores id).snapshotResetGeneration ≤
        (world.stores id).snapshotResetGeneration + 1 := by
  cases step_effect taken with
  | store moved =>
    exact (forall_update_iff world.stores fun other after =>
      after.nextVersion ≤ (world.stores other).nextVersion + 1 ∧
        after.snapshotResetGeneration ≤ (world.stores other).snapshotResetGeneration + 1).mpr
      ⟨Moka.step_counters_le moved, fun _ _ => ⟨Nat.le_succ _, Nat.le_succ _⟩⟩ id
  | complete =>
    next worker attempt content running place unlocked =>
    obtain ⟨persisted, same⟩ := complete_eq world attempt
    rw [same]
    exact ⟨Nat.le_succ _, Nat.le_succ _⟩
  | _ => exact ⟨Nat.le_succ _, Nat.le_succ _⟩

/-- A run that is short enough stays within the counters. -/
theorem inRange_of_length {initial : World}
    (versions : ∀ id, (initial.stores id).nextVersion + actions.length ≤ u64Size)
    (resets : ∀ id, (initial.stores id).snapshotResetGeneration + actions.length ≤ u64Size)
    (sources : initial.source.generation + actions.length < u64Size) :
    ∀ move ∈ transitions (step limits) initial actions, InRange move.before := by
  intro move mem
  refine ⟨fun id => ?_, fun id => ?_, ?_⟩
  · exact Nat.lt_of_lt_of_le (measure_before_lt_of_length
      (fun world : World => (world.stores id).nextVersion)
      (fun _ taken => (stores_counters_le taken id).1) mem) (versions id)
  · exact Nat.lt_of_lt_of_le (measure_before_lt_of_length
      (fun world : World => (world.stores id).snapshotResetGeneration)
      (fun _ taken => (stores_counters_le taken id).2) mem) (resets id)
  · exact Nat.lt_of_le_of_lt (measure_before_lt_of_length
      (fun world : World => world.source.generation)
      (fun _ taken => source_generation_le taken) mem) sources

end FluxDns.Cache.SnapshotOwner
