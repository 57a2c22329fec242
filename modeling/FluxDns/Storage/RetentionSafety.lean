import FluxDns.Storage.RetentionInvariant

/-!
# Safety of retention

Every step keeps the invariant of the shard store.  A day before a returned watermark has no lease
and gets no new shard, its files are deleted only under its own lock, and its shard stays registered
until it is deleted.
-/

namespace FluxDns.Storage.Retention

open List ReclaimPhase Subset World Plain Execution Option DetailShardState

/-- The store after a step, compared with the store before it. -/
structure Change (setting : Setting) (before after : World) : Prop where
  returned : before.returned ⊆ after.returned
  memory : ∀ watermark, before.memory.retiredBefore = some watermark →
    Reaches after.memory.retiredBefore watermark
  persisted : ∀ watermark, before.database.watermark = some watermark →
    Reaches after.database.watermark watermark
  made : ∀ dayUtc, after.hasShard setting dayUtc = true → before.hasShard setting dayUtc = true ∨
    before.Opens dayUtc
  deleted : ∀ file ∈ before.files, file ∉ after.files → ∃ id task dayUtc,
    before.tasks.lookup id = some task ∧ task.drainedDay = some dayUtc ∧
      formatShardFileName setting.calendar dayUtc = some file.1

section Steps

variable {setting : Setting} {world next : World} {id : Nat} {report : Report}

variable {dayUtc : Int} {call : PublicationCall} {input : Input} {lock : Nat} {rest : List Int}
  {summary : ReclaimSummary} {task : Task} {memory : DetailShardState} {state : RetentionState}
  {database : Database}

theorem le_of_dayIsVisible (visible : memory.dayIsVisible dayUtc = true)
    {watermark : Int} (stored : memory.retiredBefore = some watermark) : watermark ≤ dayUtc := by
  simp only [dayIsVisible, Bool.and_eq_true, stored, all_some,
    decide_eq_true_eq] at visible
  exact visible.1.2

theorem notMem_retiringDays_of_dayIsVisible (visible : memory.dayIsVisible dayUtc = true) :
    dayUtc ∉ memory.retiringDays := by
  simp only [dayIsVisible, Bool.and_eq_true, Bool.not_eq_true'] at visible
  simpa using visible.2

theorem Reaches.refl {watermark : Option Int} (stored : watermark = some dayUtc) :
    Reaches watermark dayUtc :=
  ⟨dayUtc, stored, le_rfl⟩

/-- Only the calls and the stored tables change. -/
theorem Change.of_database (files : next.files = world.files)
    (memory : next.memory.retiredBefore = world.memory.retiredBefore)
    (database : ∀ watermark, world.database.watermark = some watermark →
      Reaches next.database.watermark watermark) (returned : next.returned = world.returned) :
    Change setting world next where
  returned := by rw [returned]; exact refl _
  memory watermark stored := .refl (memory.trans stored)
  persisted := database
  made dayUtc has := by
    rw [hasShard, files] at has
    exact .inl has
  deleted file present absent := by
    rw [files] at absent
    exact absurd present absent

/-- Only the calls and the locks change. -/
theorem Change.of_same (files : next.files = world.files)
    (memory : next.memory.retiredBefore = world.memory.retiredBefore)
    (database : next.database.watermark = world.database.watermark)
    (returned : next.returned = world.returned) : Change setting world next :=
  .of_database files memory (fun _ stored => .refl (database.trans stored)) returned

theorem Change.of_dayLock (dayUtc : Int) (task : Task) :
    Change setting world ((world.dayLock dayUtc).1.goto id task) := by
  rw [dayLock_eq]
  exact .of_same rfl rfl rfl rfl

/-- Files are made at the path of a day. -/
theorem Change.of_create {kinds : List FileKind} {tasks : Map Nat Task}
    (opened : .main ∈ kinds → world.Opens dayUtc) :
    Change setting world { world.create setting dayUtc kinds with tasks } := by
  have made := @opens_of_create kinds setting world dayUtc opened
  have kept : world.files ⊆ (world.create setting dayUtc kinds).files := by
    unfold create
    split
    · exact subset_append_left _ _
    · exact refl _
  rw [create_eq] at made kept ⊢
  exact ⟨refl _, fun _ => .refl, fun _ => .refl, made,
    fun file present absent => absurd (kept present) absent⟩

theorem Change.of_remove {kind : FileKind} {tasks : Map Nat Task}
    (found : world.tasks.lookup id = some task) (drained : task.drainedDay = some dayUtc) :
    Change setting world { world.remove setting dayUtc kind with tasks } := by
  have made : ∀ other, (world.remove setting dayUtc kind).hasShard setting other = true →
      world.hasShard setting other = true := fun other has => hasShard_of_remove has
  have deleted : ∀ file ∈ world.files, file ∉ (world.remove setting dayUtc kind).files →
      formatShardFileName setting.calendar dayUtc = some file.1 := by
    intro file present absent
    unfold remove at absent
    split at absent
    · next name named =>
      have same : file = (name, kind) := by
        by_contra different
        exact absent (mem_filter.mpr ⟨present, by simpa using different⟩)
      rw [named, same]
    · exact absurd present absent
  rw [remove_eq] at made deleted ⊢
  exact ⟨refl _, fun _ => .refl, fun _ => .refl, fun other has => .inl (made other has),
    fun file present absent => ⟨id, task, dayUtc, found, drained, deleted file present absent⟩⟩

/-- What a step keeps, and what it changes. -/
structure Advances (setting : Setting) (world next : World) : Prop where
  invariant : Invariant setting next
  change : Change setting world next

theorem Advances.same (keeps : Invariant setting next) (files : next.files = world.files := by rfl)
    (memory : next.memory.retiredBefore = world.memory.retiredBefore := by rfl)
    (database : next.database.watermark = world.database.watermark := by rfl)
    (returned : next.returned = world.returned := by rfl) : Advances setting world next :=
  ⟨keeps, .of_same files memory database returned⟩

variable (inv : Invariant setting world)

include inv

theorem Invariant.locates {before : Task}
    (found : world.tasks.lookup id = some before) (kept : task.holds ⊆ before.holds)
    (ref : task.lockRef = some (dayUtc, (world.dayLock dayUtc).2)) (opened : task.openDay = none)
    (retiring : ∀ dayUtc, task.retiringDay = some dayUtc → before.retiringDay = some dayUtc)
    (drained : task.drainedDay = none) (gone : task.goneDay = none) (listed : task.listed = none)
    (committed : task.committed = none) (announced : task.announced = none) :
    Invariant setting ((world.dayLock dayUtc).1.goto id task) := by
  obtain ⟨located, stored⟩ := inv.dayLock dayUtc
  apply located.goto
  refine ⟨fun other_id other different found_other guard guard_mem held held_mem => ?_, ?_, ?_, ?_⟩
  · rw [dayLock_tasks] at found_other
    exact inv.exclusive id other_id before other different.symm found found_other guard
      (kept guard_mem) held held_mem
  · refine ⟨fun own same => ?_, ?_, ?_, ?_, ?_, ?_, ?_⟩
    · cases ref.symm.trans same
      exact stored
    · simp [opened]
    · rw [dayLock_memory]
      exact fun day same => (inv.fits id before found).retiring day (retiring day same)
    all_goals simp [gone, listed, committed, announced]
  · simp [drained]
  · simp [opened]

theorem Invariant.opens {writable : Bool}
    (found : world.tasks.lookup id = some (.lease dayUtc writable (.permitted lock)))
    (visible : world.memory.dayIsVisible dayUtc = true) :
    Invariant setting (world.goto id (.lease dayUtc writable (.opening lock))) := by
  have hidden := notMem_retiringDays_of_dayIsVisible visible
  apply inv.goto
  refine ⟨fun other_id other different found_other guard guard_mem held held_mem => ?_, ?_,
    fun _ _ _ _ _ same => (nomatch same),
    fun other_id other day _ found_other opened drained => ?_⟩
  · exact inv.exclusive id other_id _ other different.symm found found_other guard guard_mem
      held held_mem
  · refine ⟨(inv.fits id _ found).lock, fun day opened watermark stored => ?_,
      of_absent rfl, of_absent rfl, of_absent rfl, of_absent rfl,
      of_absent rfl⟩
    cases opened
    exact le_of_dayIsVisible visible stored
  · cases opened
    exact hidden ((inv.fits other_id other found_other).retiring dayUtc
      (retiringDay_of_drainedDay drained))

theorem Invariant.stepLease {writable : Bool} {phase : LeasePhase}
    (found : world.tasks.lookup id = some (.lease dayUtc writable phase))
    (taken : stepLease setting world id dayUtc writable phase input = some (next, report)) :
    Advances setting world next := by
  unfold Retention.stepLease at taken
  split at taken
  case h_5 =>
    cases taken
    exact ⟨inv.locates found (by simp [Task.holds, LeasePhase.holds]) rfl rfl (of_absent rfl) rfl
      rfl rfl rfl rfl, .of_dayLock dayUtc _⟩
  case h_10 =>
    split_ifs at taken with visible <;> cases taken
    · exact .same (inv.opens found visible)
    · exact .same (inv.leave id)
  case h_11 =>
    split at taken
    · cases taken
      exact .same (inv.leave id)
    · split at taken
      · cases taken
        exact .same (inv.leave id)
      · split at taken <;> cases taken <;> refine ⟨?_, .of_create fun _ => ⟨id, _, found, rfl⟩⟩
        · exact (inv.create fun _ => ⟨id, _, found, rfl⟩).retreats (lookup_create.trans found)
            (refl _)
            ⟨fun _ same => same, fun _ same => same, of_absent rfl, of_absent rfl, of_absent rfl,
              of_absent rfl, of_absent rfl, of_absent rfl⟩
        · exact (inv.create fun _ => ⟨id, _, found, rfl⟩).leave id
  -- In the other cases the call ends, or goes on with what it had established.
  all_goals
    try split_ifs at taken
    all_goals
      cases taken <;> first
      | exact .same (inv.leave id)
      | exact .same (inv.continues found (by simp [Task.holds, LeasePhase.holds, *])
          (by constructor <;> first | exact of_absent rfl | exact fun _ same => same))

theorem Invariant.commits {plan : RetentionPlan} {manifestDays : List Int} {floor : Nat}
    (found : world.tasks.lookup id = some (.publication call (.committing plan manifestDays floor)))
    (published : Published world.database database state manifestDays) :
    Invariant setting
      { world.goto id (.publication call (.publishing state)) with database } := by
  have stored := inv.withDatabase
    (fun old same => ⟨_, published.stored, published.grows old same⟩)
    (fun dayUtc _ => published.keeps dayUtc)
  apply stored.goto
  refine .of_kept stored.exclusive found (refl _) ?_ rfl rfl
  refine ⟨of_absent rfl, of_absent rfl, of_absent rfl, of_absent rfl,
    of_absent rfl, fun watermark same => ?_, of_absent rfl⟩
  cases same
  exact ⟨fun dayUtc below has => published.registers dayUtc
    ((inv.fits id _ found).listed manifestDays rfl dayUtc has) below,
    _, published.stored, le_rfl⟩

theorem Invariant.lists
    (found : world.tasks.lookup id = some (.publication call .sampling)) (plan : RetentionPlan) :
    Invariant setting
      (world.goto id (.publication call (.stats plan (world.shardDays setting)))) := by
  apply inv.goto
  refine .of_kept inv.exclusive found (refl _) ?_ rfl rfl
  refine ⟨of_absent rfl, of_absent rfl, of_absent rfl, of_absent rfl,
    fun manifestDays same dayUtc has => ?_, of_absent rfl, of_absent rfl⟩
  cases same
  exact mem_shardDays has

/-- A publication announces its watermark and gives the gate back. -/
theorem Invariant.announces
    (found : world.tasks.lookup id = some (.publication call (.publishing state))) :
    Invariant setting { world.goto id (.publication call (.published state)) with
      memory := world.memory.publishRetiredBefore state.retiredBeforeDayUtc } := by
  obtain ⟨registered, reached⟩ := (inv.fits id _ found).committed _ rfl
  have announced := inv.announce found (by simp [Task.holds, PublicationPhase.holds]) rfl reached
  apply announced.goto
  refine .of_kept announced.exclusive found (by simp [Task.holds, PublicationPhase.holds]) ?_ rfl
    rfl
  refine ⟨of_absent rfl, of_absent rfl, of_absent rfl, of_absent rfl,
    of_absent rfl, fun watermark same => ?_, fun watermark same => ?_⟩
  · cases same
    exact ⟨registered, reached⟩
  · cases same
    exact reaches_publishRetiredBefore _ _

theorem Invariant.stepPublication {phase : PublicationPhase}
    (found : world.tasks.lookup id = some (.publication call phase))
    (taken : stepPublication setting world id call phase input = some (next, report)) :
    Advances setting world next := by
  unfold Retention.stepPublication at taken
  split at taken
  case h_7 =>
    split at taken <;> cases taken
    · exact .same (inv.leave id)
    · exact .same (inv.lists found _)
  case h_10 =>
    split at taken
    · cases taken
      exact .same (inv.leave id)
    · next success =>
      have published := published_of_publishRetention success
      have grows : ∀ watermark, world.database.watermark = some watermark → Reaches _ watermark :=
        fun watermark stored => ⟨_, published.stored, published.grows watermark stored⟩
      split at taken <;> cases taken
      · exact .same (inv.leave id)
      · exact ⟨(inv.withDatabase grows fun dayUtc _ => published.keeps dayUtc).leave id,
          .of_database rfl rfl grows rfl⟩
      · exact ⟨inv.commits found published, .of_database rfl rfl grows rfl⟩
  case h_11 =>
    cases taken
    exact ⟨inv.announces found, refl _,
      fun watermark stored => (Reaches.refl stored).publishRetiredBefore _, fun _ => .refl,
      fun _ => .inl, fun _ present absent => absurd present absent⟩
  case h_12 =>
    cases taken
    have fits := inv.fits id _ found
    exact ⟨(inv.withReturned (fits.committed _ rfl).1 (fits.announced _ rfl)).leave id,
      subset_cons_self _ _, fun _ => .refl, fun _ => .refl, fun _ => .inl,
      fun _ present absent => absurd present absent⟩
  -- In the other cases the call ends, or goes on with what it had established.
  all_goals
    try split_ifs at taken
    all_goals
      cases taken <;> first
      | exact .same (inv.leave id)
      | exact .same (inv.continues found (by simp [Task.holds, PublicationPhase.holds, *])
          (by constructor <;> first | exact of_absent rfl | exact fun _ same => same))

/-- A reclaim gets the lock of a retiring day, which no lease can have opened then. -/
theorem Invariant.drains
    (found : world.tasks.lookup id = some (.reclaim (.dayWait dayUtc lock rest summary)))
    (free : world.free (.dayLock lock) = true) :
    Invariant setting (world.goto id (.reclaim (.reclaiming dayUtc lock rest summary))) := by
  have own_lock := (inv.fits id _ found).lock (dayUtc, lock) rfl
  apply inv.goto
  refine ⟨fun other_id other different found_other guard guard_mem held held_mem => ?_, ?_,
    fun other_id other day _ found_other drained opened => ?_,
    fun _ _ _ _ _ same => (nomatch same)⟩
  · refine inv.exclusive.fits found (fun guard guard_mem => ?_) different found_other guard_mem
      held_mem
    simp only [Task.holds, holds, mem_cons, not_mem_nil, or_false] at guard_mem
    rcases guard_mem with rfl | rfl
    · exact .inl (by simp [Task.holds, holds])
    · exact .inr free
  · exact ⟨(inv.fits id _ found).lock, of_absent rfl, (inv.fits id _ found).retiring,
      of_absent rfl, of_absent rfl, of_absent rfl, of_absent rfl⟩
  · cases drained
    obtain ⟨-, other_lock, ref, held⟩ := guards_of_openDay opened
    have same_lock := own_lock.symm.trans
      ((inv.fits other_id other found_other).lock (dayUtc, other_lock) ref)
    cases same_lock
    have conflict := Guards.excludes_eq_false_of_free free found_other held
    simp [Guard.excludes] at conflict

theorem Invariant.retires {before after : ReclaimSummary}
    (found : world.tasks.lookup id = some (.reclaim (.next (dayUtc :: rest) before))) :
    Invariant setting
      ((world.mark dayUtc).goto id (.reclaim (.retiring dayUtc rest after))) := by
  apply (inv.marks dayUtc).goto
  refine .of_kept inv.exclusive found (refl _) ?_ rfl rfl
  refine ⟨of_absent rfl, of_absent rfl, fun day same => ?_, of_absent rfl,
    of_absent rfl, of_absent rfl, of_absent rfl⟩
  cases same
  exact mem_cons_self

/-- The row of a day is updated; only a day without a shard is marked as reclaimed. -/
theorem Invariant.finishes {result : Except PortError Nat}
    (found : world.tasks.lookup id = some (.reclaim (.finishing dayUtc result rest summary)))
    (success : finishRetentionReclaim setting.calendar world.database dayUtc (resultCode result) =
      .ok database) : Invariant setting { world with database } := by
  have finished := finished_of_finishRetentionReclaim success
  apply inv.withDatabase
  · intro watermark stored
    exact ⟨watermark, finished.watermark.trans stored, le_rfl⟩
  · intro other has known
    refine finished.keeps other ?_ known
    cases result with
    | error error => exact .inr rfl
    | ok bytes =>
      left
      rintro rfl
      rw [(inv.fits id _ found).gone other rfl] at has
      cases has

theorem Invariant.deletes {bytes : Nat} {kind : FileKind} {remaining rest : List _}
    (found : world.tasks.lookup id =
      some (.reclaim (.deleting dayUtc lock bytes (kind :: remaining) rest summary)))
    (kept : task.holds ⊆ [.runLock, .dayLock lock])
    (ref : ∀ ref, task.lockRef = some ref → ref = (dayUtc, lock)) (opened : task.openDay = none)
    (retiring : ∀ day, task.retiringDay = some day → day = dayUtc)
    (drained : ∀ day, task.drainedDay = some day → day = dayUtc)
    (gone : ∀ day, task.goneDay = some day → day = dayUtc ∧ .main ∉ remaining)
    (listed : task.listed = none) (committed : task.committed = none)
    (announced : task.announced = none) :
    Invariant setting ((world.remove setting dayUtc kind).goto id task) := by
  apply (inv.remove dayUtc kind).goto
  refine ⟨fun other_id other different found_other guard guard_mem held held_mem => ?_, ?_,
    fun other_id other day _ found_other own => ?_, by simp [opened]⟩
  · rw [remove_tasks] at found_other
    exact inv.exclusive id other_id _ other different.symm found found_other guard
      (kept guard_mem) held held_mem
  · have removed := inv.remove dayUtc kind
    rw [← remove_tasks] at found
    have fits_removed := removed.fits id _ found
    refine ⟨fun own same => ?_, by simp [opened], fun day same => ?_, fun day same => ?_,
      by simp [listed], by simp [committed], by simp [announced]⟩
    · cases ref _ same
      exact fits_removed.lock (dayUtc, lock) rfl
    · cases retiring day same
      exact fits_removed.retiring dayUtc rfl
    · obtain ⟨rfl, absent⟩ := gone day same
      by_cases last : kind = .main
      · subst last
        exact hasShard_remove_main day
      · apply fits_removed.gone day
        simp [Task.goneDay, absent, Ne.symm last]
  · rw [remove_tasks] at found_other
    cases drained day own
    exact inv.drained id _ other_id other dayUtc found found_other rfl

theorem Invariant.stepReclaim {phase : ReclaimPhase}
    (found : world.tasks.lookup id = some (.reclaim phase))
    (taken : stepReclaim setting world id phase input = some (next, report)) :
    Advances setting world next := by
  unfold Retention.stepReclaim at taken
  split at taken
  case h_7 =>
    dsimp only at taken
    split_ifs at taken <;> cases taken
    · exact .same (inv.retreats found (refl _) (weaker (by constructor <;> rfl)))
    · exact .same ((inv.marks _).retreats found (refl _)
        (weaker (by constructor <;> rfl)))
    · exact .same (inv.retires found)
  case h_8 =>
    cases taken
    exact ⟨inv.locates found (by simp [Task.holds, holds]) rfl rfl
      (fun _ same => same) rfl rfl rfl rfl rfl, .of_dayLock _ _⟩
  case h_9 =>
    split_ifs at taken with free
    cases taken
    exact .same (inv.drains found free)
  case h_11 =>
    split at taken
    · cases taken
      exact .same (inv.retreats found (by simp [Task.holds, holds])
        (weaker (by constructor <;> rfl)))
    · split at taken <;> cases taken <;> refine ⟨?_, .of_create opens_of_sidecars⟩
      · exact (inv.create opens_of_sidecars).retreats (lookup_create.trans found)
          (by simp [Task.holds, holds])
          (weaker (by constructor <;> rfl))
      · exact (inv.create opens_of_sidecars).retreats (lookup_create.trans found)
          (refl _)
          ⟨fun _ same => same, of_absent rfl, fun _ same => same, fun _ same => same, of_absent rfl,
            of_absent rfl, of_absent rfl, of_absent rfl⟩
  case h_13 =>
    dsimp only at taken
    split_ifs at taken with last <;> cases taken <;> refine ⟨?_, .of_remove found rfl⟩
    · subst last
      exact inv.deletes found (by simp [Task.holds, holds])
        (of_absent rfl) rfl (by simp [Task.retiringDay]) (by simp [Task.drainedDay])
        (by simp [Task.goneDay]) rfl rfl rfl
    · exact inv.deletes found (by simp [Task.holds, holds])
        (by simp [Task.lockRef]) rfl (by simp [Task.retiringDay]) (by simp [Task.drainedDay])
        (by simp [Task.goneDay]) rfl rfl rfl
  case h_14 =>
    dsimp only at taken
    split at taken
    · cases taken
      exact .same (inv.leave id)
    · next success =>
      have stored := inv.finishes found success
      have watermark := (finished_of_finishRetentionReclaim success).watermark
      split at taken <;> cases taken
      · exact .same (inv.leave id)
      · exact .same (stored.leave id) rfl rfl watermark
      · exact .same (stored.retreats found (refl _)
          (weaker (by constructor <;> rfl))) rfl rfl watermark
  -- In the other cases the call ends, or goes on with what it had established.
  all_goals
    try split_ifs at taken
    all_goals
      cases taken <;> first
      | exact .same (inv.leave id)
      | exact .same (inv.continues found (by simp [Task.holds, holds, *])
          (weaker (by constructor <;> rfl)))

theorem Invariant.step {action : Action}
    (taken : step setting world action = some (next, report)) : Advances setting world next := by
  cases action with
  | step id input =>
    simp only [Retention.step] at taken
    split at taken <;> try cases taken
    next task found =>
    cases task with
    | lease dayUtc writable phase => exact inv.stepLease found taken
    | publication call phase => exact inv.stepPublication found taken
    | reclaim phase => exact inv.stepReclaim found taken
  | drop id =>
    cases taken
    exact .same (inv.leave id)
  | use id created =>
    simp only [Retention.step] at taken
    split at taken <;> cases taken
    next dayUtc lease =>
    exact ⟨inv.create opens_of_sidecars, @Change.of_create setting world dayUtc (sidecars created)
      (world.create setting dayUtc (sidecars created)).tasks opens_of_sidecars⟩
  | shutdown =>
    cases taken
    exact .same (inv.withMemory rfl (refl _))
  | restart =>
    cases taken
    refine ⟨inv.restart, refl _, fun watermark stored => ?_, fun _ => .refl,
      fun _ => .inl, fun _ present absent => absurd present absent⟩
    obtain ⟨persisted, persisted_eq, le⟩ := inv.watermark_le watermark stored
    exact ⟨persisted, (start_retiredBefore _ world.files).trans persisted_eq, le⟩
  | _ =>
    simp only [Retention.step, Retention.step.begin] at taken
    split_ifs at taken
    cases taken
    exact .same (inv.begins rfl (by constructor <;> rfl))

end Steps

/-- In every run of lease calls, publications and reclaims:

* no lease is outstanding for a day before a returned watermark, and no shard of such a day comes
  into being again,
* the files of a day are deleted only while no lease of that day is outstanding,
* the watermark in memory never exceeds the stored one, and neither goes back,
* every shard of a day before a returned watermark is registered as pending or failed. -/
theorem retention_safe (setting : Setting) (database : Database)
    (files : List (List Char × FileKind)) (actions : List Action) :
    ∀ transition ∈ transitions (step setting) (start database files) actions,
      transition.before.returned ⊆ transition.after.returned ∧
      (∀ watermark ∈ transition.after.returned, ∀ id task dayUtc,
        transition.after.tasks.lookup id = some task → task.leaseDay = some dayUtc →
          watermark ≤ dayUtc) ∧
      (∀ watermark ∈ transition.before.returned, ∀ dayUtc < watermark,
        transition.after.hasShard setting dayUtc = true →
          transition.before.hasShard setting dayUtc = true) ∧
      (∀ name kind dayUtc, (name, kind) ∈ transition.before.files →
        (name, kind) ∉ transition.after.files →
        parseShardFileName setting.calendar name = some dayUtc → ∀ id task,
          transition.before.tasks.lookup id = some task → task.leaseDay ≠ some dayUtc) ∧
      (∀ watermark, transition.after.memory.retiredBefore = some watermark →
        Reaches transition.after.database.watermark watermark) ∧
      (∀ watermark, transition.before.memory.retiredBefore = some watermark →
        Reaches transition.after.memory.retiredBefore watermark) ∧
      (∀ watermark, transition.before.database.watermark = some watermark →
        Reaches transition.after.database.watermark watermark) ∧
      ∀ watermark ∈ transition.after.returned, ∀ dayUtc < watermark,
        transition.after.hasShard setting dayUtc = true →
          transition.after.database.registers dayUtc = true := by
  intro transition member
  have preserves : Preserves (step setting) (Invariant setting) :=
    fun _ _ _ _ invariant taken => (invariant.step taken).invariant
  have start : Invariant setting (start database files) := invariant_start nofun
  obtain ⟨before, taken⟩ := preserves.of_mem_transitions start member
  obtain ⟨after, change⟩ := before.step taken
  refine ⟨change.returned, fun watermark returned id task dayUtc found lease => ?_,
    fun watermark returned dayUtc below has => ?_,
    fun name kind dayUtc present absent read id task found lease => ?_, after.watermark_le,
    change.memory, change.persisted,
    fun watermark returned => (after.returned watermark returned).1⟩
  · exact after.le_of_openDay found (openDay_of_leaseDay lease) (.inl returned)
  · rcases change.made dayUtc has with earlier | ⟨id, task, found, opened⟩
    · exact earlier
    · exact absurd (before.le_of_openDay found opened (.inl returned)) (not_le.mpr below)
  · obtain ⟨other_id, other, day, found_other, drained, named⟩ := change.deleted _ present absent
    have same_day : dayUtc = day := by
      rcases parse_format named with back | unread
      · exact some.inj (read.symm.trans back)
      · cases read.symm.trans unread
    subst same_day
    exact before.drained other_id other id task dayUtc found_other found drained
      (openDay_of_leaseDay lease)

/-- What a call has established stays true. -/
theorem fits_of_reachable (setting : Setting) (database : Database)
    (files : List (List Char × FileKind)) :
    Reachable (step setting) (start database files) ≤ fun world =>
      ∀ id task, world.tasks.lookup id = some task → Fits setting world task := by
  have inv : Invariant setting (start database files) := invariant_start nofun
  exact fun _ reachable => (Preserves.of_reachable
    (fun _ _ _ _ inv taken => (inv.step taken).invariant) inv reachable).fits

section Example

def firstDate : Date := ⟨2026, 9, 7, by decide, by decide, by decide⟩

def secondDate : Date := ⟨2026, 9, 8, by decide, by decide, by decide⟩

def sampleCalendar : Calendar where
  fromJulianDay julian :=
    if julian = unixEpochJulianDay + 20703 then some firstDate
    else if julian = unixEpochJulianDay + 20704 then some secondDate
    else none
  fromCalendarDate year month day :=
    if (year, month, day) = (2026, 9, 7) then some firstDate
    else if (year, month, day) = (2026, 9, 8) then some secondDate
    else none
  toJulianDay date := unixEpochJulianDay + if date = firstDate then 20703 else 20704
  toJulianDay_eq := by
    intro julian date same
    split_ifs at same with first second
    · cases same
      rw [first, if_pos rfl]
    · cases same
      rw [second, if_neg (by decide)]
  fromCalendarDate_eq := by
    intro julian date same
    split_ifs at same <;> cases same <;> rfl

def sampleSetting : Setting := ⟨sampleCalendar, 4⟩

/-- A shard is written on the first day and retired on the second. -/
def sampleActions : List Action :=
  .acquire 0 20703 true :: replicate 7 (.step 0 .proceed) ++
    [.step 0 (.open [] (.ok ())), .drop 0, .publish 1 (.runDaily ⟨1, 0, 1⟩ 20704)] ++
    replicate 3 (.step 1 .proceed) ++
    [.step 1 (.sample (.ok 4096)), .step 1 (.stats 1), .step 1 (.backend .succeeds),
      .step 1 .proceed, .step 1 .proceed]

/-- The retired shard is still there, and it is registered. -/
theorem sample_registered :
    ∃ transition ∈ transitions (step sampleSetting) (start ⟨none, ∅⟩ [])
        sampleActions,
      transition.after.returned = [20704] ∧
      transition.after.hasShard sampleSetting 20703 = true ∧
      transition.after.database.registers 20703 = true := by
  have last : ((transitions (step sampleSetting) (start ⟨none, ∅⟩ [])
      sampleActions).getLast?.map fun transition =>
        (transition.after.returned, transition.after.hasShard sampleSetting 20703)) =
      some ([20704], true) := by
    decide
  obtain ⟨transition, last_eq, facts⟩ := map_eq_some_iff.mp last
  have member := mem_of_getLast? last_eq
  obtain ⟨returned_eq, has⟩ := Prod.mk.inj facts
  have safe := retention_safe sampleSetting ⟨none, ∅⟩ [] sampleActions transition member
  exact ⟨transition, member, returned_eq, has,
    safe.2.2.2.2.2.2.2 20704 (by simp [returned_eq]) 20703 (by decide) has⟩

end Example

end FluxDns.Storage.Retention
