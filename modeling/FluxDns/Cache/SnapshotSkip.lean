import FluxDns.Cache.SnapshotFence

/-!
# Skipped periods

A period is skipped when the generation of the store is still the one of the last write.  A write
takes its version before it inserts its record, but holds the lock of the store meanwhile, and a
capture passes through this lock after it has read the generation: while the generation stays the
same, the capture misses nothing.
-/

namespace FluxDns.Cache.SnapshotOwner

open Execution Function Moka Option List Attempt

variable {store : Moka.World} {number : Nat} {content : Content}

variable (store)

/-- Every visible record of the store is in the content. -/
def Covers (content : Content) : Prop :=
  ∀ key record, store.cache.lookup key = some record → record.isVisible store.clock = true →
    ∃ stored, (key, stored) ∈ content ∧ stored.entry = record.entry

/-- The capture has taken every visible record whose key is not pending, and nothing is being
inserted. -/
structure Capturing (pending : List CacheKey) (content : Content) : Prop where
  none_inserting : NoneInserting store
  same : ∀ key record stored, store.cache.lookup key = some record → (key, stored) ∈ content →
    stored = record
  complete : ∀ key record, store.cache.lookup key = some record →
    record.isVisible store.clock = true → key ∈ pending ∨ (key, record) ∈ content

/-- How far a writer has come with the records of its store, while its generation is the same. -/
def Phase.UpToDate : Phase → Prop
  | .reading | .spawned => True
  | .admitted => NoneInserting store
  | .capturing now pending content => now ≤ store.clock ∧ Capturing store pending content
  | .written content | .publishing content | .replaced content | .finished content =>
    Capturing store [] content

variable {store}

theorem Capturing.covers (capturing : Capturing store [] content) : Covers store content := by
  intro key record found visible
  rcases capturing.complete key record found visible with pending | taken
  · cases pending
  · exact ⟨record, taken, rfl⟩

section Store

variable {store next : Moka.World} {action : Moka.Action} {content : Content} {record : CacheRecord}
  {pending : List CacheKey}

theorem isVisible_of_later {earlier later : Instant} (ordered : earlier ≤ later)
    (visible : record.isVisible later = true) : record.isVisible earlier = true := by
  by_contra hidden
  rw [Moka.isVisible_antitone ordered (Bool.eq_false_iff.mpr hidden)] at visible
  cases visible

variable (motion : Motion store action next)

include motion

/-- While nothing is being inserted, records only disappear. -/
theorem lookup_of_noneInserting (none_inserting : NoneInserting store) {key : CacheKey}
    (found : next.cache.lookup key = some record) : store.cache.lookup key = some record := by
  rcases motion.cached key record found with before | inserts
  · exact before
  · cases inserts with
    | swap running => exact absurd running (none_inserting _ _ _ _)

theorem Covers.moved (none_inserting : NoneInserting store) (covers : Covers store content) :
    Covers next content := by
  intro key record found visible
  exact covers key record (lookup_of_noneInserting motion none_inserting found)
    (isVisible_of_later motion.clock_le visible)

/-- A capture goes on over a step of the store that does not advance the generation. -/
theorem Capturing.moved (unchanged : next.nextVersion = store.nextVersion)
    (capturing : Capturing store pending content) :
    Capturing next (pending.filter fun key => (next.cache.lookup key).isSome) content where
  none_inserting := motion.inserting capturing.none_inserting unchanged
  same key record stored found :=
    capturing.same key record stored
      (lookup_of_noneInserting motion capturing.none_inserting found)
  complete key record found visible := by
    have before := lookup_of_noneInserting motion capturing.none_inserting found
    rcases capturing.complete key record before
      (isVisible_of_later motion.clock_le visible) with waiting | taken
    · refine .inl (mem_filter.mpr ⟨waiting, ?_⟩)
      rw [found]
      rfl
    · exact .inr taken

theorem Phase.UpToDate.moved (unchanged : next.nextVersion = store.nextVersion) {phase : Phase}
    (up_to_date : phase.UpToDate store) : (phase.forget next).UpToDate next := by
  cases phase with
  | reading | spawned => trivial
  | admitted => exact motion.inserting up_to_date unchanged
  | capturing now pending content =>
    exact ⟨Nat.le_trans up_to_date.1 motion.clock_le, up_to_date.2.moved motion unchanged⟩
  | written | publishing | replaced | finished => exact Capturing.moved motion unchanged up_to_date

omit motion

theorem visited_complete {now : Instant} {key : CacheKey} (past : now ≤ store.clock)
    (capturing : Capturing store pending content) (found : store.cache.lookup key = some record) :
    Capturing store (pending.filter (· ≠ key)) (visited now key record content) where
  none_inserting := capturing.none_inserting
  same other current stored present mem := by
    rcases mem_visited mem with old | new
    · exact capturing.same other current stored present old
    · cases new
      rw [found] at present
      exact some.inj present
  complete other current present visible := by
    by_cases here : other = key
    · subst here
      rw [found] at present
      cases present
      right
      unfold visited
      split
      · exact mem_append_right _ (mem_singleton_self _)
      · next seen =>
        rw [not_and_or, not_not] at seen
        rcases seen with hidden | taken
        · exact absurd (isVisible_of_later past visible) hidden
        · obtain ⟨pair, mem, own⟩ := mem_map.mp taken
          have stored := capturing.same other record pair.2 found (own ▸ mem)
          rw [← stored, ← own]
          exact mem
    · rcases capturing.complete other current present visible with waiting | taken
      · exact .inl (mem_filter.mpr ⟨waiting, decide_eq_true here⟩)
      · right
        unfold visited
        split
        · exact mem_append_left _ taken
        · exact taken

end Store

/-- The content with which the writer has replaced the file. -/
def Phase.replacement : Phase → Option Content
  | .replaced content | .finished content => some content
  | _ => none

variable (world : World)

/-- What holds of a writer between any two steps. -/
structure Tracked.Writer (attempt : Attempt) : Prop where
  generation_le : ∀ generation, attempt.generation = some generation →
    generation.toNat ≤ (world.stores attempt.ticket.source.store).nextVersion
  up_to_date : ∀ generation, attempt.generation = some generation →
    (world.stores attempt.ticket.source.store).nextVersion = generation.toNat →
    attempt.phase.UpToDate (world.stores attempt.ticket.source.store)
  file : world.stopped = false → attempt.ticket.source = world.source → ∀ content,
    attempt.phase.replacement = some content →
    world.files attempt.ticket.source.settings.path = some content

/-- The periodic worker is writing the current source. -/
def Busy : Prop :=
  world.deciding = true ∨
    ∃ attempt, world.attempts .periodic = some attempt ∧ attempt.ticket.source = world.source

/-- The file of the current source covers its store. -/
def Persisted : Prop :=
  NoneInserting (world.stores world.source.store) ∧
    ∃ content, world.files world.source.settings.path = some content ∧
      Covers (world.stores world.source.store) content

/-- What holds between any two steps. -/
structure Tracked : Prop where
  writers : ∀ worker attempt, world.attempts worker = some attempt → Tracked.Writer world attempt
  generation_le : world.stopped = false → ∀ generation,
    world.lastPersistedSourceGeneration = some generation →
    generation.toNat ≤ (world.stores world.source.store).nextVersion
  /-- The worker only writes after the generation has changed. -/
  outdated : world.stopped = false → Busy world → ∀ generation,
    world.lastPersistedSourceGeneration = some generation →
    generation.toNat ≠ (world.stores world.source.store).nextVersion
  persisted : world.stopped = false → ∀ generation,
    world.lastPersistedSourceGeneration = some generation →
    (world.stores world.source.store).nextVersion = generation.toNat → Persisted world

/-- The start of the owner has found a complete file for its store, or none at all. -/
def Recovered : Prop :=
  ∀ generation, world.lastPersistedSourceGeneration = some generation →
    generation = snapshotGeneration (world.stores world.source.store) ∧
    ∃ content, world.files world.source.settings.path = some content ∧
      Covers (world.stores world.source.store) content

theorem Started.tracked {world : World} (started : Started world) (recovered : Recovered world) :
    Tracked world where
  writers worker attempt running := by
    rw [started.attempts worker] at running
    cases running
  generation_le _ generation same := by
    rw [(recovered generation same).1]
    exact toNat_ofNat_le _
  outdated _ busy := by
    rcases busy with deciding | ⟨attempt, running, -⟩
    · rw [started.deciding] at deciding
      cases deciding
    · rw [started.attempts .periodic] at running
      cases running
  persisted _ generation same _ := by
    refine ⟨?_, (recovered generation same).2⟩
    intro id write version outcome inserting
    rw [started.calls] at inserting
    cases inserting

section Steps

variable {world next : World}

variable {worker : Worker} {attempt : Attempt} {action : Moka.Action} {store : Moka.World}
  {own : Option Attempt} {id : Nat}

/-- Nothing else changes that matters to the last persisted generation. -/
structure KeepsFiles (worker : Worker) (own : Option Attempt) (world next : World) : Prop
    extends Replaces worker own world next where
  files : next.files = world.files := by rfl
  persisted : next.lastPersistedSourceGeneration = world.lastPersistedSourceGeneration := by rfl

theorem Tracked.update (tracked : Tracked world)
    (replaces : KeepsFiles worker own world next) (busy : Busy next → Busy world)
    (mine : ∀ attempt, own = some attempt → Tracked.Writer world attempt) : Tracked next := by
  obtain ⟨⟨attempts, stores, source, stopped⟩, files, persisted⟩ := replaces
  have transfer : ∀ attempt, Tracked.Writer world attempt → Tracked.Writer next attempt := by
    intro attempt writer
    refine ⟨?_, ?_, ?_⟩
    · rw [stores]
      exact writer.generation_le
    · rw [stores]
      exact writer.up_to_date
    · rw [stopped, source, files]
      exact writer.file
  refine ⟨?_, ?_, ?_, ?_⟩
  · rw [attempts]
    exact forall_attempts_update
      (fun other attempt _ running => transfer attempt (tracked.writers other attempt running))
      fun attempt same => transfer attempt (mine attempt same)
  · rw [stopped, persisted, stores, source]
    exact tracked.generation_le
  · rw [stopped, persisted, stores, source]
    exact fun running busier => tracked.outdated running (busy busier)
  · rw [stopped, persisted, stores, source, Persisted, stores, source, files]
    exact tracked.persisted

/-- A writer that goes on with its ticket or ends does not start a new write. -/
theorem busy_of_update (replaces : Replaces worker own world next)
    (deciding : next.deciding = world.deciding)
    (ticket : ∀ changed, own = some changed → ∃ attempt, world.attempts worker = some attempt ∧
      changed.ticket = attempt.ticket)
    (busy : Busy next) : Busy world := by
  rcases busy with decided | ⟨other, found, current⟩
  · exact .inl (deciding ▸ decided)
  · rw [replaces.attempts] at found
    rw [replaces.source] at current
    by_cases same : Worker.periodic = worker
    · subst same
      obtain ⟨attempt, running, equal⟩ := ticket other found
      exact .inr ⟨attempt, running, equal ▸ current⟩
    · rw [update_of_ne same] at found
      exact .inr ⟨other, found, current⟩

/-- One writer goes on before its publication. -/
theorem Tracked.goOn (tracked : Tracked world) {changed : Attempt}
    (running : world.attempts worker = some attempt)
    (replaces : KeepsFiles worker (some changed) world next)
    (ticket : changed.ticket = attempt.ticket) (deciding : next.deciding = world.deciding)
    (mine : Tracked.Writer world changed) : Tracked next := by
  refine tracked.update replaces ?_ ?_
  · refine busy_of_update replaces.toReplaces deciding fun own same => ⟨attempt, running, ?_⟩
    cases same
    exact ticket
  · intro own same
    cases same
    exact mine

theorem Tracked.drop (tracked : Tracked world) (replaces : KeepsFiles worker none world next)
    (deciding : next.deciding = world.deciding) : Tracked next :=
  tracked.update replaces (busy_of_update replaces.toReplaces deciding nofun) nofun

/-- One writer enters a phase in which it has not yet replaced the file. -/
theorem Tracked.enter {before phase : Phase} (tracked : Tracked world)
    (running : world.attempts worker = some attempt) (place : attempt.phase = before)
    (replaces : KeepsFiles worker (some { attempt with phase }) world next)
    (unpublished : phase.replacement = none) (deciding : next.deciding = world.deciding)
    (up_to_date : before.UpToDate (world.stores attempt.ticket.source.store) →
      phase.UpToDate (world.stores attempt.ticket.source.store)) : Tracked next := by
  subst place
  have writer := tracked.writers worker attempt running
  refine tracked.goOn running replaces rfl deciding ⟨writer.generation_le, fun generation same
    unchanged => up_to_date (writer.up_to_date generation same unchanged), ?_⟩
  intro _ _ content replaced
  rw [unpublished] at replaced
  cases replaced

theorem Tracked.Writer.moved (writer : Tracked.Writer world attempt)
    (motion : Motion (world.stores id) action store)
    (stores : next.stores = Function.update world.stores id store)
    (source : next.source = world.source) (stopped : next.stopped = world.stopped)
    (files : next.files = world.files) : Tracked.Writer next (attempt.forget id store) := by
  have replacement : (attempt.forget id store).phase.replacement = attempt.phase.replacement := by
    obtain ⟨ticket, generation, phase⟩ := attempt
    unfold forget
    split <;> cases phase <;> rfl
  by_cases same : attempt.ticket.source.store = id
  · subst same
    refine ⟨?_, ?_, ?_⟩
    · intro generation read
      rw [forget_ticket, stores, update_self]
      rw [forget_generation] at read
      exact Nat.le_trans (writer.generation_le generation read) motion.version_le
    · intro generation read
      rw [forget_ticket, stores, update_self]
      rw [forget_generation] at read
      intro unchanged
      have lower := writer.generation_le generation read
      have version : store.nextVersion =
          (world.stores attempt.ticket.source.store).nextVersion :=
        Nat.le_antisymm (unchanged ▸ lower) motion.version_le
      rw [forget, if_pos rfl]
      exact (writer.up_to_date generation read (version ▸ unchanged)).moved motion version
    · rw [forget_ticket, stopped, source, files, replacement]
      exact writer.file
  · refine ⟨?_, ?_, ?_⟩
    · rw [forget_ticket, forget_generation, stores, update_of_ne same]
      exact writer.generation_le
    · rw [forget_ticket, forget_generation, stores, update_of_ne same, forget, if_neg same]
      exact writer.up_to_date
    · rw [forget_ticket, stopped, source, files, replacement]
      exact writer.file

theorem Persisted.moved (persisted : Persisted world)
    (motion : Motion (world.stores id) action store)
    (stores : next.stores = Function.update world.stores id store)
    (source : next.source = world.source) (files : next.files = world.files)
    (unchanged : (next.stores next.source.store).nextVersion =
      (world.stores world.source.store).nextVersion) : Persisted next := by
  obtain ⟨none_inserting, content, found, covers⟩ := persisted
  rw [Persisted, source, files]
  rw [stores, source] at unchanged
  rw [stores]
  by_cases same : world.source.store = id
  · rw [same, update_self] at unchanged ⊢
    rw [same] at none_inserting covers
    exact ⟨motion.inserting none_inserting unchanged, content, found,
      covers.moved motion none_inserting⟩
  · rw [update_of_ne same]
    exact ⟨none_inserting, content, found, covers⟩

/-- A step of a store keeps the file complete as long as the generation stays the same. -/
theorem Tracked.moved {notes : Notes} (tracked : Tracked world)
    (motion : Motion (world.stores id) action store) :
    Tracked { world with
      stores := Function.update world.stores id store
      attempts := fun worker => (world.attempts worker).map (·.forget id store)
      notes := notes } := by
  have grows : ∀ other, (world.stores other).nextVersion ≤
      (Function.update world.stores id store other).nextVersion :=
    (forall_update_iff world.stores fun other after =>
      (world.stores other).nextVersion ≤ after.nextVersion).mpr
      ⟨motion.version_le, fun _ _ => Nat.le_refl _⟩
  refine ⟨?_, ?_, ?_, ?_⟩
  · intro worker attempt found
    obtain ⟨before, running, rfl⟩ := map_eq_some_iff.mp found
    exact (tracked.writers worker before running).moved motion rfl rfl rfl rfl
  · intro running generation same
    exact Nat.le_trans (tracked.generation_le running generation same) (grows _)
  · intro running busy generation same
    have before : Busy world := by
      rcases busy with decided | ⟨attempt, found, current⟩
      · exact .inl decided
      · obtain ⟨earlier, own, rfl⟩ := map_eq_some_iff.mp found
        exact .inr ⟨earlier, own, forget_ticket id store earlier ▸ current⟩
    have below := Nat.lt_of_le_of_ne (tracked.generation_le running generation same)
      (tracked.outdated running before generation same)
    exact Nat.ne_of_lt (Nat.lt_of_lt_of_le below (grows _))
  · intro running generation same unchanged
    have lower := tracked.generation_le running generation same
    have version := Nat.le_antisymm (grows world.source.store) (unchanged ▸ lower)
    exact (tracked.persisted running generation same (version.trans unchanged)).moved motion rfl rfl
      rfl version.symm

variable (lawful : Lawful world)

include lawful

/-- The final writer runs only after the owner has stopped. -/
theorem Lawful.eq_periodic (active : world.stopped = false)
    (running : world.attempts worker = some attempt) : worker = .periodic := by
  cases worker with
  | periodic => rfl
  | final =>
    rw [(lawful.writers .final attempt running).final rfl] at active
    cases active

variable (tracked : Tracked world)

include tracked

/-- Only the periodic worker publishes while the owner runs, and its last generation is outdated
then. -/
theorem Tracked.publish
    (running : world.attempts worker = some attempt) (place : attempt.phase = .publishing content) :
    Tracked { world.goto worker attempt (.replaced content) with
      files := Function.update world.files attempt.ticket.source.settings.path
        (some content) } := by
  have current : attempt.ticket.source = world.source :=
    ((lawful.writers worker attempt running).locked (by rw [place]; rfl)).2
  have busy : world.stopped = false → Busy world := by
    intro active
    cases lawful.eq_periodic active running
    exact .inr ⟨attempt, running, current⟩
  refine ⟨?_, tracked.generation_le, ?_, ?_⟩
  · refine forall_attempts_update (fun other own different found => ?_) fun own same => ?_
    · have writer := tracked.writers other own found
      refine ⟨writer.generation_le, writer.up_to_date, fun active => ?_⟩
      exact absurd ((lawful.eq_periodic active found).trans
        (lawful.eq_periodic active running).symm) different
    · cases same
      have writer := tracked.writers worker attempt running
      refine ⟨writer.generation_le, fun generation read unchanged => ?_, fun _ _ taken same => ?_⟩
      · have up_to_date := writer.up_to_date generation read unchanged
        rw [place] at up_to_date
        exact up_to_date
      · cases same
        exact update_self _ _ _
  · exact fun active _ => tracked.outdated active (busy active)
  · intro active generation same unchanged
    exact absurd unchanged.symm (tracked.outdated active (busy active) generation same)

/-- The last persisted generation is set for a file that covers the store. -/
theorem Tracked.complete (running : world.attempts worker = some attempt)
    (place : attempt.phase = .finished content) (unlocked : world.deciding = false) :
    Tracked ((complete world attempt).setAttempt worker none) := by
  unfold SnapshotOwner.complete
  split
  · exact tracked.drop {} rfl
  next generation read =>
  split
  · next current =>
    obtain ⟨newest, active⟩ := current
    have writer := tracked.writers worker attempt running
    have same : attempt.ticket.source = world.source :=
      (lawful.writers worker attempt running).upto.eq newest
    refine ⟨?_, ?_, ?_, ?_⟩
    · refine forall_attempts_update (fun other own _ found => ?_) nofun
      exact ⟨(tracked.writers other own found).generation_le,
        (tracked.writers other own found).up_to_date, (tracked.writers other own found).file⟩
    · intro _ last found
      split at found <;> cases found
      exact same ▸ writer.generation_le generation read
    · intro _ busy
      rcases busy with decided | ⟨other, found, -⟩
      · rw [unlocked] at decided
        cases decided
      · cases lawful.eq_periodic active running
        cases found
    · intro _ last found unchanged
      split at found <;> cases found
      have up_to_date := writer.up_to_date generation read (same.symm ▸ unchanged)
      have file := writer.file active same content (by rw [place]; rfl)
      rw [place, same] at up_to_date
      rw [same] at file
      exact ⟨Capturing.none_inserting up_to_date, content, file, Capturing.covers up_to_date⟩
  · exact tracked.drop {} rfl

theorem Tracked.switch
    {source : SnapshotSource} (newer : world.source.generation < source.generation) :
    Tracked { world with source := source, lastPersistedSourceGeneration := none } := by
  refine ⟨?_, nofun, nofun, nofun⟩
  intro worker attempt running
  have writer := tracked.writers worker attempt running
  refine ⟨writer.generation_le, writer.up_to_date, fun _ current => ?_⟩
  have upto := (lawful.writers worker attempt running).upto
  rw [show attempt.ticket.source = source from current] at upto
  rcases upto with older | equal
  · exact absurd newer (Nat.lt_asymm older)
  · exact absurd newer (equal ▸ Nat.lt_irrefl _)

theorem Tracked.step {limits : Nat → Limits} {action : Action} {output : Output}
    (in_range : InRange world) (taken : step limits world action = some (next, output)) :
    Tracked next := by
  cases step_effect taken with
  | store moved =>
    next id action store answer =>
    exact tracked.moved (step_motion (lawful.stores id) moved)
  | idle | skip | stopAgain => exact tracked
  | decide free active changed =>
    refine ⟨fun worker attempt running => ?_, tracked.generation_le, ?_, tracked.persisted⟩
    · have writer := tracked.writers worker attempt running
      exact { writer with }
    · intro _ _ generation same unchanged
      refine changed (same.trans (congrArg some ?_))
      rw [snapshotGeneration, ← unchanged, UInt64.ofNat_toNat]
  | prepare deciding =>
    refine tracked.update {} (fun _ => .inl deciding) ?_
    intro own same
    cases same
    exact ⟨nofun, nofun, nofun⟩
  | read running place =>
    refine tracked.goOn running { attempts := rfl } rfl rfl ⟨?_, fun _ _ _ => trivial, nofun⟩
    intro generation read
    cases read
    exact toNat_ofNat_le _
  | enter running place free =>
    refine tracked.enter running place { attempts := rfl } rfl rfl fun _ => ?_
    intro id write version outcome inserting
    have held := (lawful.stores _).holder id _ inserting rfl
    rw [free] at held
    cases held
  | capture running place =>
    refine tracked.enter running place { attempts := rfl } rfl rfl fun before => ?_
    refine ⟨Nat.le_refl _, before, fun _ _ _ _ mem => (nomatch mem),
      fun key record found _ => .inl ?_⟩
    rw [← AList.mem_keys, ← AList.lookup_isSome, found]
    rfl
  | write running place =>
    exact tracked.enter running place { attempts := rfl } rfl rfl fun before => before.2
  | check running place free current =>
    exact tracked.enter running place { attempts := rfl } rfl rfl id
  | publish running place => exact tracked.publish lawful running place
  | release running place =>
    have writer := tracked.writers _ _ running
    refine tracked.goOn running { attempts := rfl } rfl rfl
      ⟨writer.generation_le, ?_, fun active current content same => ?_⟩
    · have up_to_date := writer.up_to_date
      rw [place] at up_to_date
      exact up_to_date
    · exact writer.file active current content (by rw [place]; exact same)
  | complete running place unlocked => exact tracked.complete lawful running place unlocked
  | visit running place found =>
    exact tracked.enter running place { attempts := rfl } rfl rfl fun before =>
      ⟨before.1, visited_complete before.1 before.2 found⟩
  | abandon | fail => exact tracked.drop {} rfl
  | switch unlocked free =>
    refine tracked.switch lawful ?_
    rw [World.nextSource, in_range.saturatingSucc]
    exact Nat.lt_succ_self _
  | stop unlocked free =>
    refine ⟨fun worker attempt running => ?_, nofun, nofun, nofun⟩
    have writer := tracked.writers worker attempt running
    exact ⟨writer.generation_le, writer.up_to_date, nofun⟩
  | final ending =>
    next source =>
    have stopped := (lawful.ending source ending).2
    refine ⟨forall_attempts_update (fun other own _ found => ?_) fun own same => ?_, ?_, ?_, ?_⟩
    · have writer := tracked.writers other own found
      exact { writer with }
    · cases same
      exact ⟨nofun, nofun, nofun⟩
    all_goals
      intro active
      cases stopped.symm.trans active
  | giveUp =>
    refine { tracked with writers := fun worker attempt running => ?_ }
    have writer := tracked.writers worker attempt running
    exact { writer with }

end Steps

/-- Within the counters, whenever a period is skipped the file of the source contains every visible
record of its store. -/
theorem skipped_period_covered (limits : Nat → Limits) (initial : World)
    (started : Started initial) (recovered : Recovered initial) (actions : List Action)
    (in_range : ∀ transition ∈ transitions (step limits) initial actions,
      InRange transition.before) :
    ∀ transition ∈ transitions (step limits) initial actions, transition.output = .skipped →
      ∃ content,
        transition.before.files transition.before.source.settings.path = some content ∧
        Covers (transition.before.stores transition.before.source.store) content := by
  rintro ⟨world, action, output, next⟩ member skipped
  obtain ⟨⟨lawful, tracked⟩, taken⟩ := forall_before_of_guarded
    (fun world => Lawful world ∧ Tracked world) (fun transition => InRange transition.before)
    (fun _ before taken guard => ⟨before.1.step guard taken, before.2.step before.1 guard taken⟩)
    ⟨started.lawful, started.tracked recovered⟩ in_range _ member
  dsimp only at skipped taken
  cases step_effect taken with
  | skip active unchanged =>
    refine (tracked.persisted active _ unchanged ?_).2
    exact (toNat_ofNat_of_lt ((in_range _ member).version _)).symm
  | _ => cases skipped

def Output.isSkipped : Output → Bool
  | .skipped => true
  | _ => false

theorem eq_skipped {output : Output} (skipped : output.isSkipped = true) : output = .skipped := by
  cases output <;> first | rfl | cases skipped

/-- A written snapshot and a period without a change. -/
def skippedRun : List Action :=
  capturedRun ++ advances 4 ++ [.wake]

theorem skipped_period_covered_skippedRun :
    ∃ transition ∈ transitions (step fun _ => sampleLimits) sampleOwner skippedRun,
      transition.output = .skipped ∧
      ∃ content, transition.before.files transition.before.source.settings.path = some content ∧
        Covers (transition.before.stores transition.before.source.store) content := by
  have skipped : ((transitions (step fun _ => sampleLimits) sampleOwner
      skippedRun).getLast?.map (·.output.isSkipped)) = some true := by
    decide +kernel
  obtain ⟨last, found, same⟩ := map_eq_some_iff.mp skipped
  have member := mem_of_getLast? found
  exact ⟨last, member, eq_skipped same, skipped_period_covered _ sampleOwner sampleOwner_started
    nofun skippedRun (sampleOwner_inRange (by decide)) last member (eq_skipped same)⟩

/-- The store answers and has assigned a number of versions. -/
structure Assigned (number : Nat) (store : Moka.World) : Prop where
  version : store.nextVersion = number
  free : store.holder = none
  answering : store.state.shuttingDown = false
  clock : store.clock = 0

open AList in
theorem assigned_write (assigned : Assigned number store)
    (empty : store.cache.lookup sampleKey = none) :
    ∃ next, run (Moka.step sampleLimits) store (writeActions store.nextCall) = some next ∧
      Assigned (number + 1) next ∧ next.cache.lookup sampleKey =
        some ⟨UInt64.ofNat (number + 1), sampleEntry 0 second⟩ := by
  obtain ⟨version, free, answering, clock⟩ := assigned
  have early : Deadline.isExpired ⟨1000 * second⟩ 0 = false := by decide
  simp [writeActions, run, Moka.step, Moka.advance, Moka.World.start, Moka.World.goto,
    Moka.World.acquire, Moka.World.finish, Moka.World.insert, decideSwap, sampleWrite,
    sampleLimits, CacheCondition.holds, version, free, answering, clock, empty, early]
  exact ⟨rfl, rfl, answering, rfl⟩

theorem assigned_evict (assigned : Assigned number store) {record : CacheRecord}
    (found : store.cache.lookup sampleKey = some record) :
    ∃ next, run (Moka.step sampleLimits) store [.evict sampleKey] = some next ∧
      Assigned number next ∧ next.cache.lookup sampleKey = none := by
  simp only [run, Moka.step, found, isSome_some, if_true]
  exact ⟨_, rfl, { assigned with }, AList.lookup_erase _ _⟩

/-- Writes and evictions in turn assign any number of versions. -/
theorem assigned_cycles (count : Nat) (assigned : Assigned number store)
    (empty : store.cache.lookup sampleKey = none) :
    ∃ actions next, run (Moka.step sampleLimits) store actions = some next ∧
      Assigned (number + count) next ∧ next.cache.lookup sampleKey = none := by
  induction count with
  | zero => exact ⟨[], store, rfl, assigned, empty⟩
  | succ count induction =>
    obtain ⟨actions, middle, reached, counted, absent⟩ := induction
    obtain ⟨written, taken, more, found⟩ := assigned_write counted absent
    obtain ⟨next, evicted, same, gone⟩ := assigned_evict more found
    refine ⟨actions ++ (writeActions middle.nextCall ++ [.evict sampleKey]), next, ?_, same,
      gone⟩
    rw [run_append, reached, bind_some, run_append, taken, bind_some, evicted]

/-- The owner waits for its next period after a snapshot of the empty store. -/
structure Resting (world : World) (store : Moka.World) : Prop where
  store : world.stores 0 = store
  source : world.source = sampleOwner.source
  persisted : world.lastPersistedSourceGeneration = some 0
  active : world.stopped = false
  unlocked : world.deciding = false
  idle : world.attempts .periodic = none
  file : world.files "cache.bin" = some []

theorem Resting.run {world : World} {next : Moka.World} (resting : Resting world store)
    {actions : List Moka.Action}
    (reached : run (Moka.step sampleLimits) store actions = some next) :
    ∃ after, run (step fun _ => sampleLimits) world
      (actions.map (Action.store 0)) = some after ∧ Resting after next := by
  induction actions generalizing world store with
  | nil =>
    cases reached
    exact ⟨world, rfl, resting⟩
  | cons action actions induction =>
    rw [run] at reached
    split at reached <;> try cases reached
    next middle answer moved =>
    rw [← resting.store] at moved
    simp only [map_cons, run, step, stepStore, moved]
    refine induction { resting with store := ?_, idle := ?_ } reached
    · exact update_self 0 middle world.stores
    · dsimp only
      rw [resting.idle]
      rfl

/-- The snapshot of the empty store. -/
def emptyRun : List Action :=
  [.wake, .prepare] ++ advances 8

theorem emptyRun_rests : ∃ world,
    run (step fun _ => sampleLimits) sampleOwner emptyRun = some world ∧
      Resting world Moka.World.initial :=
  ⟨_, rfl, rfl, rfl, rfl, rfl, rfl, rfl, rfl⟩

/-- After as many writes as there are generations, a period is skipped although the file has no
record. -/
theorem wrapped_generation_skipped : ∃ actions,
    ∃ transition ∈ transitions (step fun _ => sampleLimits) sampleOwner actions,
      transition.output = .skipped ∧
      ¬∃ content,
        transition.before.files transition.before.source.settings.path = some content ∧
        Covers (transition.before.stores transition.before.source.store) content := by
  obtain ⟨snapshot, written, rests⟩ := emptyRun_rests
  have fresh : Assigned 0 Moka.World.initial := ⟨rfl, rfl, rfl, rfl⟩
  obtain ⟨cycles, full, cycled, counted, absent⟩ :=
    assigned_cycles (2 ^ 64 - 1) fresh (AList.lookup_empty _)
  obtain ⟨wrapped, stored, assigned, found⟩ := assigned_write counted absent
  have reached : run (Moka.step sampleLimits) Moka.World.initial
      (cycles ++ writeActions full.nextCall) = some wrapped := by
    rw [run_append, cycled, bind_some, stored]
  obtain ⟨world, moved, resting⟩ := rests.run reached
  have whole : run (step fun _ => sampleLimits) sampleOwner
      (emptyRun ++ (cycles ++ writeActions full.nextCall).map (Action.store 0)) = some world := by
    rw [run_append, written, bind_some, moved]
  have skips : step (fun _ => sampleLimits) world .wake = some (world, .skipped) := by
    have generation : snapshotGeneration wrapped = 0 := by
      rw [snapshotGeneration, assigned.version]
      rfl
    simp [step, wake, resting.unlocked, resting.idle, resting.active, resting.source,
      resting.persisted, resting.store, sampleOwner, generation]
  refine ⟨_, _, mem_transitions_of_run whole skips, rfl, ?_⟩
  rintro ⟨content, file, covers⟩
  rw [resting.source] at file covers
  have empty : content = [] := some.inj (file.symm.trans resting.file)
  rw [show world.stores sampleOwner.source.store = wrapped from resting.store] at covers
  obtain ⟨record, member, -⟩ := covers sampleKey _ found (by rw [assigned.clock]; decide)
  rw [empty] at member
  cases member

end FluxDns.Cache.SnapshotOwner
