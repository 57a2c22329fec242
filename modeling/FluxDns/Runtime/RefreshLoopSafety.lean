import FluxDns.Runtime.RefreshLoops

/-!
# Which refresh loops survive reloads

A cancelled loop shuts down all workers of the runtime that it has loaded.  As long as no other loop
depends on that runtime any more, a loop whose resource stays with automatic updates never returns.
-/

namespace FluxDns.Runtime.RefreshLoops

open Config Resource Execution AList ResourceSchedule Option World Function Loop List

def Running (workers : Workers) : Prop :=
  ∀ id schedule, workers.lookup id = some schedule → schedule.stopped = none

/-- The same resources, with the same schedules stopped. -/
def Alike (before after : Workers) : Prop :=
  ∀ id, (after.lookup id).map (·.stopped) = (before.lookup id).map (·.stopped)

theorem Alike.running {before after : Workers} (alike : Alike before after)
    (running : Running before) : Running after := by
  intro id schedule found
  have same := alike id
  rw [found, map_some] at same
  obtain ⟨old, old_found, old_stopped⟩ := map_eq_some_iff.mp same.symm
  exact old_stopped ▸ running id old old_found

theorem Alike.lookup_eq_none {before after : Workers} (alike : Alike before after) {id : ConfigId}
    (missing : before.lookup id = none) : after.lookup id = none := by
  have same := alike id
  rw [missing, map_none] at same
  exact map_eq_none_iff.mp same

theorem alike_insert {workers : Workers} {resource : ConfigId} {schedule moved : ResourceSchedule}
    (found : workers.lookup resource = some schedule) (same : moved.stopped = schedule.stopped) :
    Alike workers (workers.insert resource moved) := by
  intro id
  rw [lookup_insert_eq_ite]
  split
  · next at_resource =>
    subst at_resource
    rw [found, map_some, map_some, same]
  · rfl

theorem alike_apply (outcome : Outcome) (resource : ConfigId) (workers : Workers) :
    Alike workers (outcome.apply resource workers) := by
  unfold Outcome.apply
  split
  · exact fun _ => rfl
  · next schedule found =>
    cases outcome with
    | succeeded completedAt =>
      exact alike_insert found (schedule.stopped_recordSuccess completedAt)
    | failed failedAt => exact alike_insert found (schedule.stopped_recordFailure failedAt)
    | abandoned => exact fun _ => rfl

theorem lookup_shutdownResourceRefresh_eq_none {workers : Workers} {id : ConfigId}
    (missing : workers.lookup id = none) : (shutdownResourceRefresh workers).lookup id = none := by
  rw [shutdownResourceRefresh, lookup_mapValues, missing]
  rfl

theorem running_buildResourceWorkers (resources : List (ConfigId × ResourceSchedulePolicy × Nat)) :
    Running (buildResourceWorkers resources) := by
  -- the workers built so far are running
  have fold : ∀ workers, Running workers → Running (resources.foldl
      (fun workers resource => workers.insert resource.1
        (new resource.2.1 resource.2.2)) workers) := by
    induction resources with
    | nil => exact fun workers running => running
    | cons resource resources induction =>
      intro workers running
      exact induction _ (forall_lookup_insert rfl running)
  exact fold ∅ (by simp [Running])

theorem running_mergeStateFrom {compatible : ConfigId → Bool} {candidate incoming : Workers}
    (running : Running candidate) (incoming_running : Running incoming) :
    Running (mergeStateFrom compatible candidate incoming) := by
  intro id schedule found
  rw [mergeStateFrom, lookup_mapValues] at found
  obtain ⟨old, old_found, merged⟩ := map_eq_some_iff.mp found
  have old_running := running id old old_found
  split at merged
  · split at merged
    · next incomingSchedule incoming_found =>
      rw [← merged]
      exact stopped_mergeStableStateFrom old_running
        (incoming_running id incomingSchedule incoming_found)
    · exact merged ▸ old_running
  · exact merged ▸ old_running

/-- The runtime that a loop works with. -/
def Phase.runtime : Phase → Option Nat
  | .loaded _ index | .due index | .refreshing index | .failed index | .sleeping index => some index
  | .waiting | .checking | .loading | .returned _ => none

/-- What holds of a loop. -/
structure Tracked (runtimes : Nat → Workers) (current : Nat) (reload : Reload) (id : Nat)
    (loop : Loop) : Prop where
  started : loop.since ≤ current ∨ (loop.since ≤ current + 1 ∧ loop.phase = .waiting ∧
    ∃ tasks spawned, reload = .staged tasks spawned ∧ id ∈ spawned)
  index_le : ∀ index, loop.phase.runtime = some index → index ≤ current
  /-- A loop that is not cancelled reads its decision from running workers. -/
  loaded : loop.cancelled = false → ∀ now index, loop.phase = .loaded now index →
    loop.since ≤ index ∧ Running (runtimes index)
  /-- It only returns without its resource. -/
  returned : loop.cancelled = false → ∀ error, loop.phase = .returned error →
    ∃ index, loop.since ≤ index ∧ index ≤ current ∧ (runtimes index).lookup loop.resource = none

/-- What holds between any two steps. -/
structure Invariant (world : World) : Prop where
  current : Running (world.runtimes world.current)
  staged : ∀ tasks spawned, world.reload = .staged tasks spawned →
    Running (world.runtimes (world.current + 1))
  loops : ∀ id loop, world.loops.lookup id = some loop →
    Tracked world.runtimes world.current world.reload id loop

section Steps

variable {world : World} {id : Nat} {loop : Loop} {index : Nat} {runtimes : Nat → Workers}
  {current : Nat} {reload : Reload}
  {state : List ResourceTask × List Nat × (Map Nat Loop) × Nat}
  {previous : Map Nat Loop}

theorem Invariant.insert (inv : Invariant world)
    (tracked : Tracked world.runtimes world.current world.reload id loop) :
    Invariant { world with loops := world.loops.insert id loop } :=
  ⟨inv.current, inv.staged, forall_lookup_insert tracked inv.loops⟩

theorem Invariant.alike (inv : Invariant world) {workers : Workers}
    (alike : Alike (world.runtimes index) workers) :
    Invariant (world.setRuntime index workers) := by
  have similar : ∀ other, Alike (world.runtimes other)
      ((world.setRuntime index workers).runtimes other) :=
    (forall_update_iff world.runtimes fun other => Alike (world.runtimes other)).mpr
      ⟨alike, fun _ _ _ => rfl⟩
  refine ⟨(similar _).running inv.current,
    fun tasks spawned staged => (similar _).running (inv.staged tasks spawned staged),
    fun other found lookup => ?_⟩
  have tracked := inv.loops other found lookup
  refine ⟨tracked.started, tracked.index_le, fun uncancelled now at_index phase => ?_,
    fun uncancelled error phase => ?_⟩
  · obtain ⟨since, running⟩ := tracked.loaded uncancelled now at_index phase
    exact ⟨since, (similar _).running running⟩
  · obtain ⟨missing, since, upto, none⟩ := tracked.returned uncancelled error phase
    exact ⟨missing, since, upto, (similar _).lookup_eq_none none⟩

variable (tracked : Tracked runtimes current reload id loop)

include tracked

/-- Only a loop of the staged runtime begins after the current one. -/
theorem Tracked.since_le
    (settled : ∀ tasks spawned, reload = .staged tasks spawned → id ∉ spawned) :
    loop.since ≤ current := by
  refine tracked.started.resolve_right ?_
  rintro ⟨-, -, tasks, spawned, staged, listed⟩
  exact settled tasks spawned staged listed

theorem Tracked.move (running : loop.phase ≠ .waiting) {phase : Phase}
    (index_le : ∀ index, phase.runtime = some index → index ≤ current)
    (unloaded : ∀ now index, phase ≠ .loaded now index)
    (unreturned : ∀ error, phase ≠ .returned error) :
    Tracked runtimes current reload id { loop with phase } := by
  have since : loop.since ≤ current :=
    tracked.started.resolve_right fun started => running started.2.1
  exact ⟨.inl since, index_le, fun _ now index same => absurd same (unloaded now index),
    fun _ error same => absurd same (unreturned error)⟩

theorem Tracked.end_cancelled (running : loop.phase ≠ .waiting) (cancelled : loop.cancelled = true)
    (error : TaskError) :
    Tracked runtimes current reload id { loop with phase := .returned error } := by
  have since : loop.since ≤ current :=
    tracked.started.resolve_right fun started => running started.2.1
  refine ⟨.inl since, fun index same => ?_, fun uncancelled => ?_, fun uncancelled => ?_⟩
  · cases same
  · simp [cancelled] at uncancelled
  · simp [cancelled] at uncancelled

omit tracked

/-- The loop reads its decision from this runtime next, and was not cancelled. -/
def Loop.awaits (index : Nat) (loop : Loop) : Bool :=
  !loop.cancelled && match loop.phase with
    | .loaded _ loaded => loaded == index
    | _ => false

def Loop.shutsDown (world : World) (loop : Loop) : Action → Option Nat
  | .decide _ =>
    match loop.phase with
    | .loaded now index =>
      match resourceRefreshDecision (world.runtimes index) loop.resource now with
      | some (.stopped _) => some index
      | _ => none
    | _ => none
  | .react _ =>
    match loop.phase with
    | .failed index => if loop.cancelled then some index else none
    | _ => none
  | .interrupt _ =>
    match loop.phase with
    | .sleeping index => if loop.cancelled then some index else none
    | _ => none
  | _ => none

/-- The runtime whose refresh a step shuts down. -/
def shutsDown (world : World) (action : Action) : Option Nat :=
  match action.loop.bind world.loops.lookup with
  | some loop => loop.shutsDown world action
  | none => none

/-- No loop depends on the runtime any more. -/
def Abandoned (world : World) (index : Nat) : Prop :=
  index ≠ world.current ∧ world.loops.count (awaits index) = 0

instance (world : World) (index : Nat) : Decidable (Abandoned world index) :=
  inferInstanceAs (Decidable (_ ∧ _))

variable (present : world.loops.lookup id = some loop)

include present

theorem Invariant.shutdown (inv : Invariant world) (at_index : loop.phase.runtime = some index)
    (cancelled : loop.cancelled = true) (abandoned : Abandoned world index) :
    Invariant (world.shutdown id loop index) := by
  have tracked := inv.loops id loop present
  have index_le := tracked.index_le index at_index
  have same : ∀ other, other ≠ index →
      (update world.runtimes index (shutdownResourceRefresh (world.runtimes index))) other =
        world.runtimes other := fun other different => update_of_ne different _ _
  have still_missing : ∀ other resource, (world.runtimes other).lookup resource = none →
      ((update world.runtimes index
        (shutdownResourceRefresh (world.runtimes index))) other).lookup resource = none := by
    intro other resource missing
    by_cases at_other : other = index
    · subst at_other
      rw [update_self]
      exact lookup_shutdownResourceRefresh_eq_none missing
    · rw [same other at_other]
      exact missing
  have stopped : Invariant
      (world.setRuntime index (shutdownResourceRefresh (world.runtimes index))) := by
    refine ⟨?_, fun tasks spawned staged => ?_, fun other found lookup => ?_⟩
    · simp only [setRuntime, same _ (Ne.symm abandoned.1)]
      exact inv.current
    · simp only [setRuntime, same (world.current + 1) (by omega)]
      exact inv.staged tasks spawned staged
    · have tracked := inv.loops other found lookup
      refine ⟨tracked.started, tracked.index_le, fun uncancelled now loaded phase => ?_,
        fun uncancelled error phase => ?_⟩
      · obtain ⟨since, running⟩ := tracked.loaded uncancelled now loaded phase
        refine ⟨since, ?_⟩
        have elsewhere : loaded ≠ index := by
          rintro rfl
          have awaits : awaits loaded found = true := by
            simp [awaits, uncancelled, phase]
          have positive := count_pos_of_lookup lookup awaits
          exact Nat.ne_of_gt positive abandoned.2
        simp only [setRuntime, same loaded elsewhere]
        exact running
      · obtain ⟨at_missing, since, upto, missing⟩ := tracked.returned uncancelled error phase
        exact ⟨at_missing, since, upto, still_missing at_missing found.resource missing⟩
  refine stopped.insert ?_
  have running : loop.phase ≠ .waiting := by
    intro waiting
    rw [waiting] at at_index
    cases at_index
  exact (stopped.loops id loop present).end_cancelled running cancelled .cancelled

theorem Invariant.decide (inv : Invariant world)
    {now : Nat} (phase : loop.phase = .loaded now index)
    (harmless : ∀ shut, loop.shutsDown world (.decide id) = some shut → Abandoned world shut) :
    Invariant (world.decide id loop now index) := by
  have tracked := inv.loops id loop present
  have running : loop.phase ≠ .waiting := by simp [phase]
  have index_le := tracked.index_le index (by simp [phase, Phase.runtime])
  unfold World.decide
  split
  · next missing =>
    have missing : (world.runtimes index).lookup loop.resource = none :=
      map_eq_none_iff.mp missing
    refine inv.insert ?_
    rcases Bool.eq_false_or_eq_true loop.cancelled with cancelled | cancelled
    · exact tracked.end_cancelled running cancelled _
    · have since := (tracked.loaded cancelled now index phase).1
      refine ⟨.inl (Nat.le_trans since index_le), fun other same => ?_,
        fun _ other_now other same => ?_, fun _ error same => ?_⟩
      · cases same
      · cases same
      · exact ⟨index, since, index_le, missing⟩
  · exact inv.insert (tracked.move running
      (by simp only [Phase.runtime]; rintro _ ⟨⟩; exact index_le) (by simp) (by simp))
  · exact inv.insert (tracked.move running
      (by simp only [Phase.runtime]; rintro _ ⟨⟩; exact index_le) (by simp) (by simp))
  · next reason stopped =>
    have shuts : loop.shutsDown world (.decide id) = some index := by
      simp only [Loop.shutsDown, phase, stopped]
    cases cancelled : loop.cancelled with
    | true =>
      exact inv.shutdown present (by simp [phase, Phase.runtime]) cancelled (harmless index shuts)
    | false =>
      -- a loop that was not cancelled finds its schedule running
      obtain ⟨schedule, found, decision⟩ := map_eq_some_iff.mp stopped
      have still := (tracked.loaded cancelled now index phase).2 loop.resource schedule found
      rw [decision_eq_stopped decision] at still
      cases still

theorem Invariant.stepLoop (inv : Invariant world) {action : Action} {next : World}
    (harmless : ∀ shut, loop.shutsDown world action = some shut → Abandoned world shut)
    (taken : stepLoop world id loop action = some next) : Invariant next := by
  have tracked := inv.loops id loop present
  cases action with simp only [RefreshLoops.stepLoop] at taken
  | check other =>
    split at taken <;> cases taken
    next phase =>
    have running : loop.phase ≠ .waiting := by simp [phase]
    refine inv.insert ?_
    split
    · next cancelled => exact tracked.end_cancelled running cancelled _
    · exact tracked.move running (by simp [Phase.runtime]) (by simp) (by simp)
  | load other now =>
    split at taken <;> cases taken
    next phase =>
    have running : loop.phase ≠ .waiting := by simp [phase]
    have since : loop.since ≤ world.current :=
      tracked.started.resolve_right fun started => running started.2.1
    refine inv.insert ⟨.inl since, ?_, ?_, ?_⟩
    · simp [Phase.runtime]
    · rintro _ _ _ ⟨⟩
      exact ⟨since, inv.current⟩
    · simp
  | decide other =>
    split at taken <;> cases taken
    next now index phase => exact inv.decide present phase harmless
  | begin other =>
    split at taken <;> try cases taken
    next index phase =>
    have running : loop.phase ≠ .waiting := by simp [phase]
    have index_le := tracked.index_le index (by simp [phase, Phase.runtime])
    split at taken <;> try cases taken
    split at taken <;> cases taken
    · exact inv.insert (tracked.move running (by simp [Phase.runtime]) (by simp) (by simp))
    · have moved := inv.insert (@Tracked.move _ _ _ _ _ tracked running
        (.refreshing index) (by simp only [Phase.runtime]; rintro _ ⟨⟩; exact index_le)
        (by simp) (by simp))
      exact { moved with }
  | finish other outcome published =>
    split at taken <;> cases taken
    next index phase =>
    have running : loop.phase ≠ .waiting := by simp [phase]
    have index_le := tracked.index_le index (by simp [phase, Phase.runtime])
    have applied := inv.alike (alike_apply outcome loop.resource (world.runtimes index))
    have tracked := applied.loops id loop present
    have moved := applied.insert (@Tracked.move _ _ _ _ _ tracked running
      (if published then .checking else .failed index)
      (by
        split
        · simp [Phase.runtime]
        · rintro _ ⟨⟩
          exact index_le)
      (by split <;> simp) (by split <;> simp))
    exact { moved with }
  | react other =>
    split at taken <;> try cases taken
    next index phase =>
    have running : loop.phase ≠ .waiting := by simp [phase]
    split at taken <;> cases taken
    · next cancelled =>
      exact inv.shutdown present (by simp [phase, Phase.runtime]) cancelled
        (harmless index (by simp [Loop.shutsDown, phase, cancelled]))
    · exact inv.insert (tracked.move running (by simp [Phase.runtime]) (by simp) (by simp))
  | wake other =>
    split at taken <;> cases taken
    next index phase =>
    exact inv.insert (tracked.move (by simp [phase]) (by simp [Phase.runtime]) (by simp) (by simp))
  | interrupt other =>
    split at taken <;> try cases taken
    next index phase =>
    split at taken <;> cases taken
    next cancelled =>
    exact inv.shutdown present (by simp [phase, Phase.runtime]) cancelled
      (harmless index (by simp [Loop.shutsDown, phase, cancelled]))
  | stage | abort | commit | cancelRemoved | complete => cases taken

omit present

/-- What preparing loops adds to the loops there were. -/
structure Prepared (previous : Map Nat Loop) (since : Nat)
    (state : List ResourceTask × List Nat × (Map Nat Loop) × Nat) : Prop where
  loops : ∀ id loop, state.2.2.1.lookup id = some loop → previous.lookup id = some loop ∨
    (id ∈ state.2.1 ∧ loop.since = since ∧ loop.cancelled = false ∧ loop.phase = .waiting)

theorem Prepared.task {since : Nat}
    (prepared : Prepared previous since state) (tasks : List ResourceTask) (resource : ConfigId) :
    Prepared previous since (prepareResourceTask tasks since state resource) := by
  have known := prepared.loops
  unfold prepareResourceTask
  dsimp only
  split
  · exact ⟨known⟩
  · refine ⟨fun id loop found => ?_⟩
    rw [lookup_insert_eq_ite] at found
    split at found
    · next same =>
      cases found
      exact .inr ⟨by simp [same], rfl, rfl, rfl⟩
    · rcases known id loop found with old | ⟨listed, rest⟩
      · exact .inl old
      · exact .inr ⟨mem_append_left _ listed, rest⟩

theorem Prepared.tasks {since : Nat} (tasks : List ResourceTask) (resources : List ConfigId)
    (prepared : Prepared previous since state) :
    Prepared previous since (resources.foldl (prepareResourceTask tasks since) state) := by
  induction resources generalizing state with
  | nil => exact prepared
  | cons resource resources induction => exact induction (prepared.task tasks resource)

theorem Invariant.stage (inv : Invariant world) (idle : world.reload = .idle)
    (resources : List (ConfigId × ResourceSchedulePolicy × Nat)) (compatible : ConfigId → Bool) :
    Invariant (world.stage resources compatible) := by
  have merged : Running (mergeStateFrom compatible (buildResourceWorkers resources)
      (world.runtimes world.current)) :=
    running_mergeStateFrom (running_buildResourceWorkers resources) inv.current
  unfold World.stage prepareResourceTasks
  dsimp only
  generalize mergeStateFrom compatible (buildResourceWorkers resources)
    (world.runtimes world.current) = candidate at merged
  have prepared := Prepared.tasks world.tasks (resourceWorkerIds candidate)
    (show Prepared world.loops (world.current + 1) ([], [], world.loops, world.nextLoop) from
      ⟨fun id loop found => .inl found⟩)
  have kept : ∀ index, index ≤ world.current →
      update world.runtimes (world.current + 1) candidate index = world.runtimes index :=
    fun index below => update_of_ne (by omega) _ _
  refine ⟨?_, fun tasks spawned staged => ?_, fun id loop found => ?_⟩
  · simp only [setRuntime, kept world.current (Nat.le_refl _)]
    exact inv.current
  · simp only [setRuntime, update_self]
    exact merged
  · rcases prepared.loops id loop found with old | ⟨listed, since, uncancelled, phase⟩
    · have tracked := inv.loops id loop old
      have started := tracked.since_le (by simp [idle])
      refine ⟨.inl started, tracked.index_le, fun uncancelled now index phase => ?_,
        fun uncancelled error phase => ?_⟩
      · obtain ⟨since, running⟩ := tracked.loaded uncancelled now index phase
        have index_le := tracked.index_le index (by simp [phase, Phase.runtime])
        simp only [setRuntime, kept index index_le]
        exact ⟨since, running⟩
      · obtain ⟨index, since, upto, missing⟩ := tracked.returned uncancelled error phase
        refine ⟨index, since, upto, ?_⟩
        simp only [setRuntime, kept index upto]
        exact missing
    · refine ⟨.inr ⟨Nat.le_of_eq since, phase, _, _, rfl, listed⟩, ?_, ?_, ?_⟩
      · simp [phase, Phase.runtime]
      · simp [phase]
      · simp [phase]

theorem lookup_foldl_erase {loops : Map Nat Loop} {spawned : List Nat}
    (found : (spawned.foldl (fun loops id => loops.erase id) loops).lookup id = some loop) :
    loops.lookup id = some loop ∧ id ∉ spawned := by
  induction spawned generalizing loops with
  | nil => exact ⟨found, not_mem_nil⟩
  | cons first spawned induction =>
    obtain ⟨kept, outside⟩ := induction found
    rw [lookup_erase_eq_ite] at kept
    split at kept
    · cases kept
    · next different => exact ⟨kept, not_mem_cons_of_ne_of_not_mem different outside⟩

theorem Invariant.stepReload (inv : Invariant world) {action : Action} {next : World}
    (taken : stepReload world action = some next) : Invariant next := by
  cases action with simp only [RefreshLoops.stepReload] at taken
  | stage resources compatible =>
    split at taken <;> try cases taken
    next idle =>
    split at taken <;> cases taken
    exact inv.stage idle resources compatible
  | abort =>
    split at taken <;> cases taken
    next tasks spawned staged =>
    refine ⟨inv.current, by simp, fun id loop found => ?_⟩
    obtain ⟨found, outside⟩ := lookup_foldl_erase found
    have tracked := inv.loops id loop found
    have started := tracked.since_le (by simpa [staged] using outside)
    exact { tracked with started := .inl started }
  | commit =>
    split at taken <;> cases taken
    next tasks spawned staged =>
    refine ⟨inv.staged tasks spawned staged, by simp, fun id loop found => ?_⟩
    have tracked := inv.loops id loop found
    have started : loop.since ≤ world.current + 1 := by
      rcases tracked.started with before | ⟨upto, -⟩
      · omega
      · exact upto
    refine ⟨.inl started, fun index phase => ?_, tracked.loaded, fun uncancelled error phase => ?_⟩
    · have index_le := tracked.index_le index phase
      dsimp only
      omega
    · obtain ⟨index, since, upto, missing⟩ := tracked.returned uncancelled error phase
      exact ⟨index, since, Nat.le_succ_of_le upto, missing⟩
  | cancelRemoved =>
    split at taken <;> try cases taken
    next tasks id removed committed =>
    have advanced : Invariant { world with reload := .committed tasks removed } := by
      refine ⟨inv.current, by simp, fun id loop found => ?_⟩
      have tracked := inv.loops id loop found
      have started := tracked.since_le (by simp [committed])
      exact { tracked with started := .inl started }
    split at taken <;> cases taken
    · next loop found =>
      have tracked := advanced.loops id loop found
      exact advanced.insert ⟨tracked.started, tracked.index_le, by simp, by simp⟩
    · exact advanced
  | complete =>
    split at taken <;> cases taken
    next tasks committed =>
    refine ⟨inv.current, by simp, fun id loop found => ?_⟩
    rw [lookup_mapValues] at found
    obtain ⟨before, before_found, rfl⟩ := map_eq_some_iff.mp found
    have tracked := inv.loops id before before_found
    have started := tracked.since_le (by simp [committed])
    unfold release
    split
    · refine ⟨.inl started, ?_, ?_, ?_⟩ <;> simp [Phase.runtime]
    · exact { tracked with started := .inl started }
  | check | load | decide | begin | finish | react | wake | interrupt => cases taken

end Steps

/-- The loops of resources that keep their automatic updates have not returned. -/
def Survives (world : World) : Prop :=
  ∀ id loop, world.loops.lookup id = some loop → loop.cancelled = false →
    (∀ index, loop.since ≤ index → index ≤ world.current →
      ((world.runtimes index).lookup loop.resource).isSome) →
    ∀ error, loop.phase ≠ .returned error

/-- A step shuts down at most a runtime on which no loop depends any more. -/
def Harmless (transition : Transition World Action Unit) : Prop :=
  ∀ index ∈ shutsDown transition.before transition.action, Abandoned transition.before index

instance (move : Transition World Action Unit) : Decidable (Harmless move) :=
  inferInstanceAs (Decidable (∀ index ∈ shutsDown _ _, Abandoned _ index))

theorem Invariant.survives {world : World} (inv : Invariant world) : Survives world := by
  intro id loop found uncancelled present error returned
  obtain ⟨index, since, upto, missing⟩ :=
    (inv.loops id loop found).returned uncancelled error returned
  have resource := present index since upto
  rw [missing] at resource
  cases resource

theorem invariant_start (resources : List (ConfigId × ResourceSchedulePolicy × Nat)) :
    Invariant (.start resources) := by
  refine ⟨running_buildResourceWorkers resources, by simp [start], fun id loop found => ?_⟩
  have prepared := Prepared.tasks [] (resourceWorkerIds (buildResourceWorkers resources))
    (show Prepared ∅ 0 ([], [], ∅, 0) from ⟨fun id loop found => .inl found⟩)
  simp only [start, lookup_mapValues] at found
  obtain ⟨before, before_found, rfl⟩ := map_eq_some_iff.mp found
  rcases prepared.loops id before before_found with old | ⟨-, since, -, waiting⟩
  · simp at old
  · rw [release, waiting]
    refine ⟨.inl (Nat.le_of_eq since), ?_, ?_, ?_⟩ <;> simp [Phase.runtime]

theorem invariant_step (move : Transition World Action Unit) (inv : Invariant move.before)
    (taken : step move.before move.action = some (move.after, move.output))
    (harmless : Harmless move) : Invariant move.after := by
  rw [step, map_eq_some_iff] at taken
  obtain ⟨next, taken, same⟩ := taken
  have after : next = move.after := congrArg Prod.fst same
  rw [← after]
  split at taken
  · next id acts =>
    split at taken <;> try cases taken
    next loop found =>
    refine inv.stepLoop found (fun shut shuts => harmless shut ?_) taken
    rw [shutsDown, acts, bind_some, found]
    exact shuts
  · exact inv.stepReload taken

/-- In every interleaving of loops and reloads in which refreshes are only shut down on runtimes
that no loop depends on, the loops of resources that keep their automatic updates go on. -/
theorem refresh_loops_survive (resources : List (ConfigId × ResourceSchedulePolicy × Nat))
    (actions : List Action)
    (harmless : ∀ transition ∈ transitions step (.start resources) actions, Harmless transition) :
    ∀ transition ∈ transitions step (.start resources) actions, Survives transition.after := by
  intro transition member
  have invariant := forall_after_of_guarded Invariant Harmless invariant_step
    (invariant_start resources) harmless transition member
  exact invariant.survives

section Removal

def kept : ConfigId := ⟨"kept", by decide, by decide, by decide⟩

def removed : ConfigId := ⟨"removed", by decide, by decide, by decide⟩

def samplePolicy : ResourceSchedulePolicy := ⟨60, 3, 180, ⟨1, 300⟩⟩

def sampleResources : List (ConfigId × ResourceSchedulePolicy × Nat) :=
  [(kept, samplePolicy, 100), (removed, samplePolicy, 100)]

/-- A reload without the first resource, whose loop sleeps and is cancelled. -/
def removal : List Action :=
  [.stage [(kept, samplePolicy, 160)] fun _ => true, .commit, .cancelRemoved, .complete,
    .interrupt 0]

/-- The loop of the removed resource sleeps. -/
def asleep : List Action := [.check 0, .load 0 50, .decide 0]

/-- The other loop has loaded the old runtime when it is shut down. -/
def racingReload : List Action := asleep ++ [.check 1, .load 1 50] ++ removal ++ [.decide 1]

/-- The other loop loads a runtime after the reload. -/
def orderlyReload : List Action := asleep ++ removal ++ [.check 1, .load 1 50, .decide 1]

/-- The loop of the resource that both runtimes have returns, without its own cancellation. -/
theorem racingReload_ends_loop :
    ¬ ∀ transition ∈ transitions step (.start sampleResources) racingReload,
      Survives transition.after := by
  intro survives
  have found : ∃ world, (transitions step (.start sampleResources) racingReload).getLast?.map
      (·.after) = some world ∧ world.current = 1 ∧
      world.loops.lookup 1 = some ⟨kept, 0, false, .returned .cancelled⟩ ∧
      ∀ index < 2, ((world.runtimes index).lookup kept).isSome := by
    decide +kernel
  obtain ⟨world, last, current, loop, present⟩ := found
  obtain ⟨transition, listed, rfl⟩ := map_eq_some_iff.mp last
  refine survives transition (mem_of_getLast? listed) 1 _ loop rfl
    (fun index _ upto => present index ?_) .cancelled rfl
  omega

/-- A reload that takes no runtime from a loop. -/
theorem orderlyReload_keeps_loop :
    (∀ transition ∈ transitions step (.start sampleResources) orderlyReload,
      Harmless transition) ∧
    ∀ transition ∈ transitions step (.start sampleResources) orderlyReload,
      Survives transition.after := by
  have harmless : ∀ transition ∈ transitions step (.start sampleResources) orderlyReload,
      Harmless transition := by
    decide +kernel
  exact ⟨harmless, refresh_loops_survive sampleResources orderlyReload harmless⟩

end Removal

end FluxDns.Runtime.RefreshLoops
