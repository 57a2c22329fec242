import FluxDns.Cache.SnapshotSteps

/-!
# Fences of snapshots

A writer publishes only for the current source.  It also compares the reset generation of its store
before it publishes, but `invalidate` does not take the publish lock: an `invalidate` that ends
between the check and the replacement of the file does not stop the old records.
-/

namespace FluxDns.Cache.SnapshotOwner

open Execution Function Moka List Option

variable {world next : World} {attempt : Attempt} {limits : Nat → Limits} {output : Output}
  {worker : Worker} {action : Action} {ticket : Ticket} {record : CacheRecord} (notes : Notes)

/-- The removal is noted, whether or not its call has returned. -/
def Notes.Has (removal : Removal) : Prop :=
  removal ∈ notes.removed ∨ ∃ call, (call, removal) ∈ notes.removing

/-- All that a step of a store can do to the notes. -/
inductive Notes.Effect (notes : Notes) (id : Nat) (store : Moka.World) : Moka.Action → Notes → Prop
  | keep {action : Moka.Action} (writes : ∀ key record, ¬Inserts store action key record)
      (returns : ∀ call count, action = .advance call →
        store.calls.lookup call ≠ some (.invalidating [] count)) :
      Notes.Effect notes id store action notes
  | remove {call count : Nat} {key : CacheKey} {keys : List CacheKey} {record : CacheRecord}
      (running : store.calls.lookup call = some (.invalidating (key :: keys) count))
      (found : store.cache.lookup key = some record) :
      Notes.Effect notes id store (.advance call)
        { notes with removing := (call, ⟨id, key, record.entry⟩) :: notes.removing }
  | finish {call count : Nat} (running : store.calls.lookup call = some (.invalidating [] count))
      {next : Notes}
      (removing : ∀ entry ∈ next.removing, entry ∈ notes.removing ∧
        ¬(entry.1 = call ∧ entry.2.store = id))
      (removed : ∀ removal ∈ next.removed, removal ∈ notes.removed ∨
        (call, removal) ∈ notes.removing ∧ removal.store = id) :
      Notes.Effect notes id store (.advance call) next
  | insert {call : Nat} {write : Write} {version : UInt64} {outcome : CacheWriteOutcome}
      (running : store.calls.lookup call = some (.swapInserting write version outcome))
      {next : Notes}
      (removing : ∀ entry ∈ next.removing, entry ∈ notes.removing ∧
        entry.2 ≠ ⟨id, write.key, write.entry⟩)
      (removed : ∀ removal ∈ next.removed, removal ∈ notes.removed ∧
        removal ≠ ⟨id, write.key, write.entry⟩) :
      Notes.Effect notes id store (.advance call) next

theorem Notes.advance_effect (id : Nat) (store : Moka.World) (call : Nat) :
    Notes.Effect notes id store (.advance call) (notes.advance id store call) := by
  unfold Notes.advance
  split
  · next key keys count running =>
    split
    · refine .keep (not_inserts_of_invalidating running) fun other found same => ?_
      cases same
      rw [running]
      nofun
    · next record found => exact .remove running found
  · next count running =>
    refine .finish running ?_ ?_
    · intro entry mem
      obtain ⟨noted, kept⟩ := mem_filter.mp mem
      refine ⟨noted, fun own => ?_⟩
      simp [own] at kept
    · intro removal mem
      simp only [mem_append, List.mem_map, mem_filter, decide_eq_true_eq] at mem
      rcases mem with ⟨entry, ⟨noted, same, own⟩, rfl⟩ | before
      · exact .inr ⟨same ▸ noted, own⟩
      · exact .inl before
  · next write version outcome running =>
    refine .insert running ?_ ?_
    · intro entry mem
      simpa [mem_filter] using mem
    · intro removal mem
      simpa [mem_filter] using mem
  · next removing returning inserting =>
    refine .keep ?_ ?_
    · rintro _ _ ⟨found⟩
      exact inserting _ _ _ found
    · intro other count same found
      cases same
      exact returning count found

theorem Notes.step_effect (id : Nat) (store : Moka.World) (action : Moka.Action) :
    Notes.Effect notes id store action (notes.step id store action) := by
  cases action with
  | advance call => exact notes.advance_effect id store call
  | _ => exact .keep (fun _ _ inserts => nomatch inserts) fun _ _ same => nomatch same

/-- The records that the writer has taken so far. -/
def Phase.content : Phase → Content
  | .reading | .spawned | .admitted => []
  | .capturing _ _ content | .written content | .publishing content | .replaced content
  | .finished content => content

def Removal.Among (removal : Removal) (content : Content) : Prop :=
  ∃ record, (removal.key, record) ∈ content ∧ record.entry = removal.entry

/-- What holds of a writer and of the removals in its store. -/
structure Fenced.Writer (world : World) (attempt : Attempt) : Prop where
  /-- The reset generation is the current one from the check to the replacement. -/
  current : ∀ content, attempt.phase = .publishing content →
    attempt.ticket.resetGeneration.toNat =
      (world.stores attempt.ticket.source.store).snapshotResetGeneration
  /-- A writer that has taken a record before its removal has an old reset generation. -/
  outdated : ∀ removal ∈ world.notes.removed, removal.store = attempt.ticket.source.store →
    removal.Among attempt.phase.content →
    attempt.ticket.resetGeneration.toNat <
      (world.stores attempt.ticket.source.store).snapshotResetGeneration

/-- What holds of the removals between any two steps. -/
structure Fenced (world : World) : Prop where
  counted : ∀ id, Counted (world.stores id)
  /-- A removal waits for the end of a call that will advance the reset generation. -/
  running : ∀ entry ∈ world.notes.removing, ∃ keys count,
    (world.stores entry.2.store).calls.lookup entry.1 = some (.invalidating keys count) ∧ count ≠ 0
  absent : ∀ removal, world.notes.Has removal → ∀ record,
    (world.stores removal.store).cache.lookup removal.key = some record →
      record.entry ≠ removal.entry
  writers : ∀ worker attempt, world.attempts worker = some attempt → Fenced.Writer world attempt

theorem Started.fenced (started : Started world) : Fenced world where
  counted id call keys count running := by
    rw [started.calls id] at running
    cases running
  running entry noted := by
    rw [started.notes] at noted
    cases noted
  absent removal noted := by
    rw [started.notes] at noted
    rcases noted with noted | ⟨call, noted⟩ <;> cases noted
  writers worker attempt found := by
    rw [started.attempts worker] at found
    cases found

/-- No `invalidate` ends while a writer of its store is between its check and its replacement. -/
def undisturbed (transition : Transition World Action Output) : Bool :=
  match transition.action with
  | .store id action =>
    !resets (transition.before.stores id) action ||
      [Worker.periodic, Worker.final].all fun worker =>
        !(transition.before.attempts worker).any fun attempt =>
          match attempt.phase with
          | .publishing _ => attempt.ticket.source.store == id
          | _ => false
  | _ => true

/-- A reset spares the store of a writer that is about to replace the file. -/
theorem resets_eq_false_of_undisturbed {action : Moka.Action} {content : Content}
    (quiet : undisturbed ⟨world, .store attempt.ticket.source.store action, output, next⟩ = true)
    (running : world.attempts worker = some attempt) (place : attempt.phase = .publishing content) :
    resets (world.stores attempt.ticket.source.store) action = false := by
  simp only [undisturbed, Bool.or_eq_true, Bool.not_eq_true'] at quiet
  rcases quiet with quiet | quiet
  · exact quiet
  · have spared := all_eq_true.mp quiet worker (by cases worker <;> simp)
    simp [running, place] at spared

section Store

variable {limits : Limits} {world : World} {id : Nat} {action : Moka.Action}
  {store : Moka.World} {answer : Moka.Answer} {notes : Notes}

variable (motion : Motion (world.stores id) action store)

include motion

/-- An `invalidate` goes on unless it is its own last step. -/
theorem invalidating_update {other call : Nat} {keys : List CacheKey} {count : Nat}
    (running : (world.stores other).calls.lookup call = some (.invalidating keys count))
    (busy : other = id → action = .advance call → keys ≠ []) :
    ∃ rest, (Function.update world.stores id store other).calls.lookup call =
      some (.invalidating rest count) := by
  by_cases same : other = id
  · subst same
    rw [update_self]
    rcases motion.invalidating call keys count running with goes_on | ⟨own, empty⟩
    · exact goes_on
    · exact absurd empty (busy rfl own)
  · rw [update_of_ne same]
    exact ⟨keys, running⟩

theorem Fenced.running_store (fenced : Fenced world)
    (effect : Notes.Effect world.notes id (world.stores id) action notes) :
    ∀ entry ∈ notes.removing, ∃ keys count,
      (Function.update world.stores id store entry.2.store).calls.lookup entry.1 =
        some (.invalidating keys count) ∧ count ≠ 0 := by
  intro entry noted
  -- A call that was noted before goes on when the step is not the end of this very call.
  have older : entry ∈ world.notes.removing →
      (∀ keys count, entry.2.store = id → action = .advance entry.1 →
        (world.stores id).calls.lookup entry.1 = some (.invalidating keys count) → keys ≠ []) →
      ∃ keys count, (Function.update world.stores id store entry.2.store).calls.lookup entry.1 =
        some (.invalidating keys count) ∧ count ≠ 0 := by
    intro before busy
    obtain ⟨keys, count, running, nonzero⟩ := fenced.running entry before
    obtain ⟨rest, goes_on⟩ := invalidating_update motion running fun own advanced =>
      busy keys count own advanced (own ▸ running)
    exact ⟨rest, count, goes_on, nonzero⟩
  cases effect with
  | keep writes returns =>
    refine older noted fun keys count own advanced running empty => ?_
    subst empty
    exact returns entry.1 count advanced running
  | remove running found =>
    rcases mem_cons.mp noted with rfl | before
    · obtain ⟨rest, goes_on⟩ := invalidating_update motion running fun _ _ => cons_ne_nil _ _
      refine ⟨rest, _, goes_on, ?_⟩
      exact Nat.ne_of_gt (Nat.lt_of_lt_of_le (Nat.succ_pos _) (fenced.counted id _ _ _ running))
    · refine older before fun keys count own advanced same empty => ?_
      cases advanced
      rw [running] at same
      cases same
      cases empty
  | finish running removing removed =>
    obtain ⟨before, other⟩ := removing entry noted
    refine older before fun keys count own advanced same => ?_
    cases advanced
    exact absurd ⟨rfl, own⟩ other
  | insert running removing removed =>
    refine older (removing entry noted).1 fun keys count own advanced same => ?_
    cases advanced
    rw [running] at same
    cases same

theorem Fenced.absent_store (fenced : Fenced world)
    (taken : Moka.step limits (world.stores id) action = some (store, answer))
    (effect : Notes.Effect world.notes id (world.stores id) action notes) :
    ∀ removal, notes.Has removal → ∀ record,
      (Function.update world.stores id store removal.store).cache.lookup removal.key =
        some record → record.entry ≠ removal.entry := by
  intro removal noted record found
  -- What was noted before stays absent when the step does not insert it.
  have older : world.notes.Has removal →
      (Inserts (world.stores id) action removal.key record → removal.store = id →
        record.entry ≠ removal.entry) → record.entry ≠ removal.entry := by
    intro before inserts
    by_cases same : removal.store = id
    · rw [same, update_self] at found
      rcases motion.cached _ _ found with present | inserted
      · exact fenced.absent removal before record (same ▸ present)
      · exact inserts inserted same
    · rw [update_of_ne same] at found
      exact fenced.absent removal before record found
  cases effect with
  | keep writes returns => exact older noted fun inserts _ => absurd inserts (writes _ _)
  | remove running present =>
    rcases noted with before | ⟨call, mem⟩
    · exact older (.inl before) fun inserts _ =>
        absurd inserts (not_inserts_of_invalidating running _ _)
    · rcases mem_cons.mp mem with new | before
      · cases new
        simp only [Moka.step, Moka.advance, running] at taken
        cases taken
        simp [Moka.World.goto, Moka.World.discard] at found
      · exact older (.inr ⟨call, before⟩) fun inserts _ =>
          absurd inserts (not_inserts_of_invalidating running _ _)
  | finish running removing removed =>
    have before : world.notes.Has removal := by
      rcases noted with mem | ⟨call, mem⟩
      · rcases removed removal mem with before | ⟨before, -⟩
        · exact .inl before
        · exact .inr ⟨_, before⟩
      · exact .inr ⟨call, (removing _ mem).1⟩
    exact older before fun inserts _ =>
      absurd inserts (not_inserts_of_invalidating running _ _)
  | insert running removing removed =>
    next call write version outcome =>
    have before : world.notes.Has removal ∧ removal ≠ ⟨id, write.key, write.entry⟩ := by
      rcases noted with mem | ⟨call, mem⟩
      · exact ⟨.inl (removed removal mem).1, (removed removal mem).2⟩
      · exact ⟨.inr ⟨call, (removing _ mem).1⟩, (removing _ mem).2⟩
    refine older before.1 fun inserts own same => ?_
    obtain ⟨written, _, _, inserting, key, value⟩ := inserts.running
    rw [running] at inserting
    cases inserting
    rw [value] at same
    cases removal
    cases own
    cases key
    cases same
    exact before.2 rfl

omit motion

theorem forget_content (attempt : Attempt) :
    (attempt.forget id store).phase.content = attempt.phase.content := by
  obtain ⟨ticket, generation, phase⟩ := attempt
  unfold Attempt.forget
  split <;> cases phase <;> rfl

theorem forget_publishing {attempt : Attempt} {content : Content}
    (place : (attempt.forget id store).phase = .publishing content) :
    attempt.phase = .publishing content := by
  unfold Attempt.forget at place
  split at place
  · cases attempt with
    | mk ticket generation phase => cases phase <;> first | exact place | cases place
  · exact place

/-- A removal that counts as done after the step did so before, or its call ends here with a new
reset generation. -/
theorem Fenced.removed_store (fenced : Fenced world) {removal : Removal}
    (effect : Notes.Effect world.notes id (world.stores id) action notes)
    (noted : removal ∈ notes.removed) :
    removal ∈ world.notes.removed ∨
      removal.store = id ∧ resets (world.stores id) action = true := by
  cases effect with
  | keep | remove => exact .inl noted
  | finish running removing removed =>
    rcases removed removal noted with before | ⟨before, own⟩
    · exact .inl before
    · obtain ⟨keys, count, invalidating, nonzero⟩ := fenced.running _ before
      rw [own, running] at invalidating
      cases invalidating
      refine .inr ⟨own, ?_⟩
      simp only [resets, running]
      exact bne_iff_ne.mpr nonzero
  | insert running removing removed => exact .inl (removed removal noted).1

theorem Fenced.writers_store (fenced : Fenced world) (lawful : Lawful world)
    (motion : Motion (world.stores id) action store) {next : World} {output : Output}
    (quiet : undisturbed ⟨world, .store id action, output, next⟩ = true)
    (stores : next.stores = Function.update world.stores id store)
    (effect : Notes.Effect world.notes id (world.stores id) action next.notes) {worker : Worker}
    {attempt : Attempt} (running : world.attempts worker = some attempt) :
    Fenced.Writer next (attempt.forget id store) := by
  have writer := fenced.writers worker attempt running
  constructor
  · intro content place
    have publishing := forget_publishing place
    rw [forget_ticket, writer.current content publishing, stores]
    by_cases same : attempt.ticket.source.store = id
    · subst same
      rw [update_self, motion.reset_eq, resets_eq_false_of_undisturbed quiet running publishing]
      rfl
    · rw [update_of_ne same]
  · intro removal noted own among
    rw [forget_ticket] at own ⊢
    rw [forget_content] at among
    rw [stores]
    by_cases same : attempt.ticket.source.store = id
    · subst same
      rw [update_self, motion.reset_eq]
      rcases fenced.removed_store effect noted with before | ⟨-, resets⟩
      · exact Nat.lt_add_right _ (writer.outdated removal before own among)
      · rw [resets]
        exact Nat.lt_succ_of_le (lawful.writers worker attempt running).reset_le
    · rw [update_of_ne same]
      rcases fenced.removed_store effect noted with before | ⟨here, -⟩
      · exact writer.outdated removal before own among
      · exact absurd (own.symm.trans here) same

end Store

theorem Fenced.Writer.of_empty (empty : attempt.phase.content = [])
    (outside : attempt.phase.holdsPublish = false) : Fenced.Writer world attempt where
  current content place := by
    rw [place] at outside
    cases outside
  outdated removal noted own among := by
    obtain ⟨record, mem, -⟩ := among
    rw [empty] at mem
    cases mem

theorem Fenced.Writer.change {changed : Attempt} (writer : Fenced.Writer world attempt)
    (ticket : changed.ticket = attempt.ticket)
    (content : changed.phase.content = attempt.phase.content)
    (outside : ∀ content, changed.phase ≠ .publishing content) : Fenced.Writer world changed where
  current content place := absurd place (outside content)
  outdated removal noted own among := by
    rw [ticket] at own ⊢
    rw [content] at among
    exact writer.outdated removal noted own among

theorem mem_visited {now : Instant} {key : CacheKey} {content : Content}
    {pair : CacheKey × CacheRecord} (mem : pair ∈ visited now key record content) :
    pair ∈ content ∨ pair = (key, record) := by
  unfold visited at mem
  split at mem
  · rcases mem_append.mp mem with old | new
    · exact .inl old
    · exact .inr (mem_singleton.mp new)
  · exact .inl mem

variable (fenced : Fenced world)

include fenced

/-- One writer is replaced and neither the stores nor the notes change. -/
theorem Fenced.update {own : Option Attempt}
    (attempts : next.attempts = Function.update world.attempts worker own)
    (stores : next.stores = world.stores) (notes : next.notes = world.notes)
    (mine : ∀ attempt, own = some attempt → Fenced.Writer world attempt) : Fenced next := by
  have transfer : ∀ attempt, Fenced.Writer world attempt → Fenced.Writer next attempt := by
    intro attempt writer
    constructor
    · rw [stores]
      exact writer.current
    · rw [stores, notes]
      exact writer.outdated
  refine ⟨stores ▸ fenced.counted, ?_, ?_, ?_⟩
  · rw [stores, notes]
    exact fenced.running
  · rw [stores, notes]
    exact fenced.absent
  · rw [attempts]
    exact forall_attempts_update
      (fun other attempt _ running => transfer attempt (fenced.writers other attempt running))
      fun attempt same => transfer attempt (mine attempt same)

theorem Fenced.goOn {changed : Attempt}
    (attempts : next.attempts = Function.update world.attempts worker (some changed))
    (stores : next.stores = world.stores) (notes : next.notes = world.notes)
    (mine : Fenced.Writer world changed) : Fenced next := by
  refine fenced.update attempts stores notes fun own same => ?_
  cases same
  exact mine

/-- No writer changes. -/
theorem Fenced.frame (attempts : next.attempts = world.attempts)
    (stores : next.stores = world.stores) (notes : next.notes = world.notes) : Fenced next := by
  have same : next.attempts =
      Function.update world.attempts .periodic (world.attempts .periodic) := by
    rw [attempts, update_eq_self]
  exact fenced.update same stores notes (fenced.writers .periodic)

theorem Fenced.visit {now : Instant} {pending remaining : List CacheKey}
    {content extended : Content} {key : CacheKey} (running : world.attempts worker = some attempt)
    (place : attempt.phase = .capturing now pending content)
    (found : (world.stores attempt.ticket.source.store).cache.lookup key = some record)
    (taken : extended = visited now key record content) :
    Fenced.Writer world { attempt with phase := .capturing now remaining extended } where
  current := nofun
  outdated removal noted own among := by
    obtain ⟨stored, mem, same⟩ := among
    have inside : (removal.key, stored) ∈ extended := mem
    rw [taken] at inside
    rcases mem_visited inside with old | new
    · refine (fenced.writers worker attempt running).outdated removal noted own ?_
      rw [place]
      exact ⟨stored, old, same⟩
    · cases new
      refine absurd same (fenced.absent removal (.inl noted) record ?_)
      rw [own]
      exact found

theorem Fenced.step (lawful : Lawful world) (in_range : InRange world)
    (quiet : undisturbed ⟨world, action, output, next⟩ = true)
    (taken : step limits world action = some (next, output)) : Fenced next := by
  cases step_effect taken with
  | store moved =>
    next id action store answer =>
    have motion := step_motion (lawful.stores id) moved
    have effect := world.notes.step_effect id (world.stores id) action
    refine ⟨?_, fenced.running_store motion effect, fenced.absent_store motion moved effect, ?_⟩
    · exact (forall_update_iff world.stores fun _ => Counted).mpr
        ⟨motion.counted (fenced.counted id), fun other _ => fenced.counted other⟩
    · intro worker attempt found
      obtain ⟨before, running, rfl⟩ := map_eq_some_iff.mp found
      exact fenced.writers_store lawful motion quiet rfl effect running
  | idle | skip | stopAgain => exact fenced
  | decide | switch | stop | giveUp => exact fenced.frame rfl rfl rfl
  | prepare | read | enter | capture | final => exact fenced.goOn rfl rfl rfl (.of_empty rfl rfl)
  | write running place | publish running place | release running place =>
    exact fenced.goOn rfl rfl rfl
      ((fenced.writers _ _ running).change rfl (by rw [place]; rfl) nofun)
  | check running place free current =>
    next worker attempt content =>
    obtain ⟨-, -, -, reset⟩ := snapshotPublishIsCurrent_iff.mp current
    refine fenced.goOn rfl rfl rfl ⟨fun _ _ => ?_, ?_⟩
    · rw [← reset]
      exact toNat_ofNat_of_lt (in_range.reset _)
    · have outdated := (fenced.writers worker attempt running).outdated
      rw [place] at outdated
      exact outdated
  | complete running place unlocked =>
    next worker attempt content =>
    obtain ⟨persisted, same⟩ := complete_eq world attempt
    rw [same]
    exact fenced.update rfl rfl rfl nofun
  | visit running place found =>
    exact fenced.goOn rfl rfl rfl (fenced.visit running place found rfl)
  | abandon | fail => exact fenced.update rfl rfl rfl nofun

omit fenced

/-- The step has made the source before it an old one. -/
def Supersedes (transition : Transition World Action Output) : Prop :=
  (∃ ownerRevision store settings,
    transition.action = .publishSwitch ownerRevision store settings) ∨
  transition.action = .shutdown ∧ transition.before.stopped = false

variable {content : Content}

theorem Lawful.published (lawful : Lawful world)
    (taken : SnapshotOwner.step limits world action = some (next, .published ticket content)) :
    ticket.source = world.source := by
  generalize same : Output.published ticket content = output at taken
  cases step_effect taken with
  | publish running place =>
    cases same
    exact ((lawful.writers _ _ running).locked (by rw [place]; rfl)).2
  | _ => cases same

/-- A publication after an undisturbed check has no removed record. -/
theorem Fenced.published (fenced : Fenced world)
    (taken : SnapshotOwner.step limits world action = some (next, .published ticket content))
    {removal : Removal} (noted : removal ∈ world.notes.removed)
    (own : removal.store = ticket.source.store) : ¬removal.Among content := by
  generalize same : Output.published ticket content = output at taken
  cases step_effect taken with
  | publish running place =>
    cases same
    intro among
    have writer := fenced.writers _ _ running
    have older := writer.outdated removal noted own (by rw [place]; exact among)
    rw [writer.current _ place] at older
    exact Nat.lt_irrefl _ older
  | _ => cases same

theorem source_generation_mono (in_range : InRange world)
    (taken : step limits world action = some (next, output)) :
    world.source.generation ≤ next.source.generation := by
  have newer : world.source.generation ≤ saturatingSucc world.source.generation := by
    rw [in_range.saturatingSucc]
    exact Nat.le_succ _
  cases step_effect taken with
  | switch | stop => exact newer
  | complete =>
    next worker attempt content running place unlocked =>
    obtain ⟨persisted, same⟩ := complete_eq world attempt
    rw [same]
    exact Nat.le_refl _
  | _ => exact Nat.le_refl _

theorem Supersedes.generation_lt {move : Transition World Action Output}
    (supersedes : Supersedes move) (in_range : InRange move.before)
    (taken : step limits move.before move.action = some (move.after, move.output)) :
    move.before.source.generation < move.after.source.generation := by
  obtain ⟨before, action, output, after⟩ := move
  have newer : before.source.generation < saturatingSucc before.source.generation := by
    rw [in_range.saturatingSucc]
    exact Nat.lt_succ_self _
  dsimp only at taken
  have effect := step_effect taken
  rcases supersedes with ⟨ownerRevision, store, settings, switching⟩ | ⟨stopping, running⟩
  · subst switching
    cases effect with
    | switch => exact newer
  · subst stopping
    cases effect with
    | stop => exact newer
    | stopAgain stopped =>
      rw [running] at stopped
      cases stopped

/-- Within the counters and while no `invalidate` ends between a check and its replacement, no
publication contains a record that a returned `invalidate` has removed, and none is made for a
source that a switch or a shutdown has superseded. -/
theorem publications_fenced (limits : Nat → Limits) (initial : World) (started : Started initial)
    (actions : List Action)
    (in_range : ∀ transition ∈ transitions (step limits) initial actions, InRange transition.before)
    (quiet : ∀ transition ∈ transitions (step limits) initial actions,
      undisturbed transition = true) :
    (∀ transition ∈ transitions (step limits) initial actions, ∀ ticket content,
      transition.output = .published ticket content →
      ∀ removal ∈ transition.before.notes.removed, removal.store = ticket.source.store →
        ¬removal.Among content) ∧
    (transitions (step limits) initial actions).Pairwise fun earlier later =>
      ∀ ticket content, later.output = .published ticket content → Supersedes earlier →
        earlier.before.source.generation < ticket.source.generation := by
  have lawful := started.lawful_before in_range
  constructor
  · intro transition member ticket content published removal noted own
    have both := forall_before_of_guarded (fun world => Lawful world ∧ Fenced world)
      (fun transition => InRange transition.before ∧ undisturbed transition = true)
      (fun transition before taken guard => ⟨before.1.step guard.1 taken,
        before.2.step before.1 guard.1 guard.2 taken⟩)
      ⟨started.lawful, started.fenced⟩
      (fun transition member => ⟨in_range transition member, quiet transition member⟩)
      transition member
    rw [published] at both
    exact both.1.2.published both.2 noted own
  · have ordered := pairwise_of_stable (fun _ => True)
      (fun bound (world : World) => bound ≤ world.source.generation)
      (fun transition => InRange transition.before) (fun _ _ _ _ => trivial)
      (fun _ _ lower taken guard => Nat.le_trans lower (source_generation_mono guard.2 taken))
      trivial in_range
    refine (Pairwise.and_mem.mp ordered).imp ?_
    rintro earlier later ⟨first, second, keeps⟩ ticket content published supersedes
    have taken := (lawful later second).2
    rw [published] at taken
    rw [(lawful later second).1.published taken]
    exact Nat.lt_of_lt_of_le
      (supersedes.generation_lt (in_range earlier first) (lawful earlier first).2)
      (keeps _ (Nat.le_refl _))

def sampleOwner : World where
  stores _ := Moka.World.initial
  source := ⟨1, 1, 0, ⟨true, "cache.bin"⟩⟩
  lastPersistedSourceGeneration := none
  stopped := false
  deciding := false
  publish := none
  attempts _ := none
  ending := none
  files _ := none
  notes := ⟨[], []⟩

theorem sampleOwner_started : Started sampleOwner where
  stores _ := invariant_initial
  calls _ := rfl
  attempts _ := rfl
  running := rfl
  deciding := rfl
  publish := rfl
  ending := rfl
  notes := rfl

theorem sampleOwner_inRange {actions : List Action} (short : actions.length < 1000) :
    ∀ move ∈ transitions (step fun _ => sampleLimits) sampleOwner actions,
      InRange move.before := by
  have small : 1001 < u64Size := by decide
  refine inRange_of_length (fun _ => ?_) (fun _ => ?_) ?_
  · change 0 + actions.length ≤ u64Size
    omega
  · change 0 + actions.length ≤ u64Size
    omega
  · change 1 + actions.length < u64Size
    omega

/-- A write that takes the place of an absent record, by the call with a number. -/
def writeActions (call : Nat) : List Moka.Action :=
  .compareAndSwap (sampleWrite (sampleEntry 0 second)) ⟨1000 * second⟩ ::
    replicate 5 (.advance call)

/-- Steps of the periodic writer. -/
def advances (count : Nat) : List Action := replicate count (.advance .periodic)

/-- A record is stored and taken by a writer that has not yet checked its ticket. -/
def capturedRun : List Action :=
  (writeActions 0).map (.store 0) ++ [.wake, .prepare] ++ advances 3 ++
    .visit .periodic sampleKey :: advances 1

/-- Everything is removed from the store. -/
def clearRun : List Action :=
  .store 0 (.invalidate .all ⟨1000 * second⟩) :: replicate 3 (.store 0 (.advance 1))

/-- The store is cleared before the check, and the next period writes the empty store. -/
def clearedRun : List Action :=
  capturedRun ++ clearRun ++ advances 1 ++ [.wake, .prepare] ++ advances 6

/-- The store is cleared between the check and the replacement of the file. -/
def disturbedRun : List Action :=
  capturedRun ++ advances 1 ++ clearRun ++ advances 1

def Output.publication : Output → Option (Ticket × Content)
  | .published ticket content => some (ticket, content)
  | _ => none

theorem exists_published {actions : List Action} {removed : List Removal}
    (ends : ((transitions (step fun _ => sampleLimits) sampleOwner actions).getLast?.map
      fun last => (last.output.publication, last.before.notes.removed)) =
        some (some (ticket, content), removed)) :
    ∃ last ∈ transitions (step fun _ => sampleLimits) sampleOwner actions,
      last.output = .published ticket content ∧ last.before.notes.removed = removed := by
  obtain ⟨last, found, same⟩ := map_eq_some_iff.mp ends
  obtain ⟨published, removed⟩ := Prod.mk.inj same
  refine ⟨last, mem_of_getLast? found, ?_, removed⟩
  cases output : last.output <;> rw [output] at published <;> cases published
  rfl

/-- The removal of the stored record. -/
abbrev sampleRemoval : Removal := ⟨0, sampleKey, sampleEntry 0 second⟩

theorem publications_fenced_clearedRun :
    ∃ transition ∈ transitions (step fun _ => sampleLimits) sampleOwner clearedRun,
      ∃ ticket content, transition.output = .published ticket content ∧
        sampleRemoval ∈ transition.before.notes.removed ∧ ¬sampleRemoval.Among content := by
  have fenced := publications_fenced (fun _ => sampleLimits) sampleOwner sampleOwner_started
    clearedRun (sampleOwner_inRange (by decide)) (by decide)
  obtain ⟨last, member, published, removed⟩ := @exists_published
    ⟨⟨1, 1, 0, ⟨true, "cache.bin"⟩⟩, 1, false⟩ [] clearedRun [sampleRemoval] (by decide +kernel)
  have noted : sampleRemoval ∈ last.before.notes.removed := removed ▸ mem_singleton_self _
  exact ⟨last, member, _, _, published, noted, fenced.1 last member _ _ published _ noted rfl⟩

/-- The old records are published although `invalidate` has returned. -/
theorem disturbedRun_republishes :
    ∃ transition ∈ transitions (step fun _ => sampleLimits) sampleOwner disturbedRun,
      ∃ ticket content, transition.output = .published ticket content ∧
        ∃ removal ∈ transition.before.notes.removed, removal.store = ticket.source.store ∧
          removal.Among content := by
  obtain ⟨last, member, published, removed⟩ := @exists_published
    ⟨⟨1, 1, 0, ⟨true, "cache.bin"⟩⟩, 0, false⟩ [(sampleKey, ⟨1, sampleEntry 0 second⟩)]
    disturbedRun [sampleRemoval] (by decide +kernel)
  exact ⟨last, member, _, _, published, sampleRemoval, removed ▸ mem_singleton_self _, rfl, _,
    mem_singleton_self _, rfl⟩

end FluxDns.Cache.SnapshotOwner
