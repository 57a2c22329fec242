import FluxDns.Storage.ShardLeases

/-!
# Invariants of the shard store

What the calls in progress know about each other and about the watermarks, the directory and the
manifest.  A call is described by a few attributes, and a step has to account only for those that it
adds to its call.
-/

namespace FluxDns.Storage.Retention

open AList DetailShardState World List Guard PublicationPhase

variable {task : Task} {dayUtc : Int} {id : Nat} {watermark : Int} {kinds : List FileKind}

/-- The day that a call may create or use files of. -/
def Task.openDay : Task → Option Int
  | .lease dayUtc _ (.opening _) | .lease dayUtc _ (.granted _) => some dayUtc
  | _ => none

def Task.retiringDay : Task → Option Int
  | .reclaim (.retiring dayUtc _ _) | .reclaim (.dayWait dayUtc _ _ _)
  | .reclaim (.reclaiming dayUtc _ _ _) | .reclaim (.deleting dayUtc _ _ _ _ _)
  | .reclaim (.finishing dayUtc (.ok _) _ _) => some dayUtc
  | _ => none

def Task.drainedDay : Task → Option Int
  | .reclaim (.reclaiming dayUtc _ _ _) | .reclaim (.deleting dayUtc _ _ _ _ _)
  | .reclaim (.finishing dayUtc (.ok _) _ _) => some dayUtc
  | _ => none

def Task.goneDay : Task → Option Int
  | .reclaim (.deleting dayUtc _ _ remaining _ _) => if .main ∈ remaining then none else some dayUtc
  | .reclaim (.finishing dayUtc (.ok _) _ _) => some dayUtc
  | _ => none

def Task.listed : Task → Option (List Int)
  | .publication _ (.stats _ manifestDays) | .publication _ (.committing _ manifestDays _) =>
    some manifestDays
  | _ => none

def Task.committed : Task → Option Int
  | .publication _ (.publishing state) | .publication _ (.published state) =>
    some state.retiredBeforeDayUtc
  | _ => none

/-- The watermark that a publication has announced to the store. -/
def Task.announced : Task → Option Int
  | .publication _ (.published state) => some state.retiredBeforeDayUtc
  | _ => none

theorem guards_of_openDay (opened : task.openDay = some dayUtc) : .gateRead ∈ task.holds ∧
      ∃ lock, task.lockRef = some (dayUtc, lock) ∧ .dayLock lock ∈ task.holds := by
  unfold Task.openDay at opened
  split at opened <;> cases opened <;>
    exact ⟨by simp [Task.holds, LeasePhase.holds], _, rfl, by simp [Task.holds, LeasePhase.holds]⟩

theorem retiringDay_of_drainedDay (drained : task.drainedDay = some dayUtc) :
    task.retiringDay = some dayUtc := by
  unfold Task.drainedDay at drained
  split at drained <;> cases drained <;> rfl

theorem drainedDay_of_goneDay (gone : task.goneDay = some dayUtc) :
    task.drainedDay = some dayUtc := by
  unfold Task.goneDay at gone
  split at gone
  · split_ifs at gone
    exact gone
  · exact gone
  · cases gone

theorem gateWrite_of_listed {manifestDays : List Int} (listed : task.listed = some manifestDays) :
    .gateWrite ∈ task.holds ∧ task.openDay = none := by
  unfold Task.listed at listed
  split at listed <;> cases listed <;> exact ⟨by simp [Task.holds, holds], rfl⟩

theorem announced_or_gateWrite (committed : task.committed = some watermark) :
    task.announced = some watermark ∨ .gateWrite ∈ task.holds := by
  unfold Task.committed at committed
  split at committed
  · exact .inr (by simp [Task.holds, holds])
  · exact .inl committed
  · cases committed

theorem openDay_of_leaseDay (lease : task.leaseDay = some dayUtc) : task.openDay = some dayUtc := by
  unfold Task.leaseDay at lease
  split at lease
  · exact lease
  · cases lease

def Reaches (watermark : Option Int) (dayUtc : Int) : Prop :=
  ∃ reached, watermark = some reached ∧ dayUtc ≤ reached

theorem Reaches.le {watermark : Option Int} {bound : Int} (reaches : Reaches watermark dayUtc)
    (below : ∀ reached, watermark = some reached → reached ≤ bound) : dayUtc ≤ bound := by
  obtain ⟨reached, same, le⟩ := reaches
  exact le.trans (below reached same)

variable (setting : Setting) (world : World)

/-- Every shard before the watermark is registered. -/
def Registered (watermark : Int) : Prop :=
  ∀ dayUtc < watermark, world.hasShard setting dayUtc = true →
    world.database.registers dayUtc = true

/-- What a call has established is true of the store. -/
structure Fits (task : Task) : Prop where
  lock : ∀ ref, task.lockRef = some ref → world.dayLocks.lookup ref.1 = some ref.2
  opened : ∀ dayUtc, task.openDay = some dayUtc →
    ∀ watermark, world.memory.retiredBefore = some watermark → watermark ≤ dayUtc
  retiring : ∀ dayUtc, task.retiringDay = some dayUtc → dayUtc ∈ world.memory.retiringDays
  gone : ∀ dayUtc, task.goneDay = some dayUtc → world.hasShard setting dayUtc = false
  listed : ∀ manifestDays, task.listed = some manifestDays →
    ∀ dayUtc, world.hasShard setting dayUtc = true → dayUtc ∈ manifestDays
  committed : ∀ watermark, task.committed = some watermark →
    Registered setting world watermark ∧ Reaches world.database.watermark watermark
  announced : ∀ watermark, task.announced = some watermark →
    Reaches world.memory.retiredBefore watermark

/-- What holds between any two steps. -/
structure Invariant : Prop where
  exclusive : Guards.Exclusive excludes Task.holds world.tasks
  fits : ∀ id task, world.tasks.lookup id = some task → Fits setting world task
  drained : ∀ id task other_id other dayUtc, world.tasks.lookup id = some task →
    world.tasks.lookup other_id = some other → task.drainedDay = some dayUtc →
    other.openDay ≠ some dayUtc
  watermark_le : ∀ watermark, world.memory.retiredBefore = some watermark →
    Reaches world.database.watermark watermark
  returned : ∀ watermark ∈ world.returned,
    Registered setting world watermark ∧ Reaches world.memory.retiredBefore watermark

section Consequences

variable {setting : Setting} {world : World} {task : Task}

theorem excludes_comm (guard held : Guard) : guard.excludes held = held.excludes guard := by
  cases guard <;> cases held <;> simp [excludes, eq_comm, Bool.beq_eq_decide_eq]

variable (inv : Invariant setting world)

include inv

theorem Invariant.openDay_eq_none {other_id : Nat} {other : Task}
    (found : world.tasks.lookup id = some task) (writes : .gateWrite ∈ task.holds)
    (found_other : world.tasks.lookup other_id = some other) (different : other_id ≠ id) :
    other.openDay = none := by
  rcases opened : other.openDay with - | dayUtc
  · rfl
  · have reads := (guards_of_openDay opened).1
    have conflict := inv.exclusive id other_id task other different.symm found found_other _
      writes _ reads
    cases conflict

theorem Invariant.openDay_eq_none_of_gateWrite {other_id : Nat}
    {other : Task} (found : world.tasks.lookup id = some task) (writes : .gateWrite ∈ task.holds)
    (closed : task.openDay = none) (found_other : world.tasks.lookup other_id = some other) :
    other.openDay = none := by
  by_cases same : other_id = id
  · subst same
    cases found.symm.trans found_other
    exact closed
  · exact inv.openDay_eq_none found writes found_other same

/-- A new shard of a day that a call may open is not missed by a watermark that is committed. -/
theorem Invariant.le_of_openDay
    (found : world.tasks.lookup id = some task) {dayUtc : Int} (opened : task.openDay = some dayUtc)
    (settled : watermark ∈ world.returned ∨ ∃ other_id other, world.tasks.lookup
      other_id = some other ∧ other.committed = some watermark) : watermark ≤ dayUtc := by
  have below := (inv.fits id task found).opened dayUtc opened
  rcases settled with returned | ⟨other_id, other, found_other, committed⟩
  · exact (inv.returned watermark returned).2.le below
  · rcases announced_or_gateWrite committed with announced | writes
    · exact ((inv.fits other_id other found_other).announced watermark announced).le below
    · have different : id ≠ other_id := by
        rintro rfl
        cases found.symm.trans found_other
        unfold Task.openDay at opened
        split at opened <;> simp_all [Task.committed]
      have closed := inv.openDay_eq_none found_other writes found different
      rw [opened] at closed
      cases closed

end Consequences

/-- A call may be put into the world under its number. -/
structure Placed (setting : Setting) (world : World) (id : Nat) (task : Task) : Prop where
  guards : ∀ other_id other, other_id ≠ id → world.tasks.lookup other_id = some other →
    ∀ guard ∈ task.holds, ∀ held ∈ other.holds, guard.excludes held = false
  fits : Fits setting world task
  drained : ∀ other_id other dayUtc, other_id ≠ id → world.tasks.lookup other_id = some other →
    task.drainedDay = some dayUtc → other.openDay ≠ some dayUtc
  opened : ∀ other_id other dayUtc, other_id ≠ id → world.tasks.lookup other_id = some other →
    task.openDay = some dayUtc → other.drainedDay ≠ some dayUtc

/-- What a call has established is not more than what another has. -/
structure Weaker (task before : Task) : Prop where
  lock : ∀ ref, task.lockRef = some ref → before.lockRef = some ref
  opened : ∀ dayUtc, task.openDay = some dayUtc → before.openDay = some dayUtc
  retiring : ∀ dayUtc, task.retiringDay = some dayUtc → before.retiringDay = some dayUtc
  drained : ∀ dayUtc, task.drainedDay = some dayUtc → before.drainedDay = some dayUtc
  gone : ∀ dayUtc, task.goneDay = some dayUtc → before.goneDay = some dayUtc
  listed : ∀ manifestDays, task.listed = some manifestDays → before.listed = some manifestDays
  committed : ∀ watermark, task.committed = some watermark → before.committed = some watermark
  announced : ∀ watermark, task.announced = some watermark → before.announced = some watermark

/-- A call that has established nothing. -/
structure Plain (task : Task) : Prop where
  lock : task.lockRef = none
  opened : task.openDay = none
  retiring : task.retiringDay = none
  drained : task.drainedDay = none
  gone : task.goneDay = none
  listed : task.listed = none
  committed : task.committed = none
  announced : task.announced = none

/-- An attribute that a call does not have says nothing. -/
theorem of_absent {α : Type} {established : Option α} {property : α → Prop}
    (absent : established = none) : ∀ value, established = some value → property value := by
  intro value same
  rw [absent] at same
  cases same

theorem Plain.weaker {before : Task} (plain : Plain task) : Weaker task before := by
  cases plain
  constructor <;> exact of_absent ‹_›

theorem Fits.weaker {setting : Setting} {world : World} {before : Task}
    (fits : Fits setting world before) (weaker : Weaker task before) : Fits setting world task where
  lock ref same := fits.lock ref (weaker.lock ref same)
  opened dayUtc same := fits.opened dayUtc (weaker.opened dayUtc same)
  retiring dayUtc same := fits.retiring dayUtc (weaker.retiring dayUtc same)
  gone dayUtc same := fits.gone dayUtc (weaker.gone dayUtc same)
  listed manifestDays same := fits.listed manifestDays (weaker.listed manifestDays same)
  committed watermark same := fits.committed watermark (weaker.committed watermark same)
  announced watermark same := fits.announced watermark (weaker.announced watermark same)

theorem Plain.fits {setting : Setting} {world : World} (plain : Plain task) :
    Fits setting world task := by
  cases plain
  constructor <;> exact of_absent ‹_›

section Calls

variable {setting : Setting} {world : World} {id : Nat} {task before : Task}

/-- A call that keeps to its guards may establish what is true, as long as it has no day of its
own. -/
theorem Placed.of_kept (exclusive : Guards.Exclusive excludes Task.holds world.tasks)
    (found : world.tasks.lookup id = some before) (kept : task.holds ⊆ before.holds)
    (fits : Fits setting world task) (drained : task.drainedDay = none)
    (opened : task.openDay = none) : Placed setting world id task where
  guards other_id other different found_other guard guard_mem held held_mem :=
    exclusive id other_id before other different.symm found found_other guard (kept guard_mem) held
      held_mem
  fits := fits
  drained other_id other dayUtc _ _ same := by
    rw [drained] at same
    cases same
  opened other_id other dayUtc _ _ same := by
    rw [opened] at same
    cases same

variable (inv : Invariant setting world)

include inv

theorem Invariant.goto (placed : Placed setting world id task) :
    Invariant setting (world.goto id task) where
  __ := inv
  exclusive := inv.exclusive.insert excludes_comm placed.guards
  fits := forall_lookup_insert { placed.fits with } fun other_id other found =>
    { inv.fits other_id other found with }
  drained first first_task second second_task dayUtc found_first found_second drained := by
    rw [World.goto, lookup_insert_eq_ite] at found_first found_second
    split_ifs at found_first found_second with first_eq second_eq second_eq
    · cases found_second
      unfold Task.drainedDay at drained
      split at drained <;> simp_all [Task.openDay]
    · cases found_first
      exact placed.drained second second_task dayUtc second_eq found_second drained
    · cases found_second
      intro opened
      exact placed.opened first first_task dayUtc first_eq found_first opened drained
    · exact inv.drained first first_task second second_task dayUtc found_first found_second drained

theorem Invariant.leave (id : Nat) : Invariant setting (world.leave id) where
  __ := inv
  exclusive := inv.exclusive.erase id
  fits other_id other found := by
    rw [World.leave, lookup_erase_eq_ite] at found
    split_ifs at found
    have fits := inv.fits other_id other found
    exact { fits with }
  drained first first_task second second_task dayUtc found_first found_second := by
    rw [World.leave, lookup_erase_eq_ite] at found_first found_second
    split_ifs at found_first found_second
    exact inv.drained first first_task second second_task dayUtc found_first found_second

/-- A call goes on with less than it has established, and with its guards or free ones. -/
theorem Invariant.continues (found : world.tasks.lookup id = some before)
    (taken : ∀ guard ∈ task.holds, guard ∈ before.holds ∨ world.free guard = true)
    (weaker : Weaker task before) : Invariant setting (world.goto id task) := by
  apply inv.goto
  refine ⟨fun other_id other different found_other guard guard_mem held held_mem => ?_,
    (inv.fits id before found).weaker weaker,
    fun other_id other dayUtc _ found_other drained => ?_,
    fun other_id other dayUtc _ found_other opened drained => ?_⟩
  · exact inv.exclusive.fits found taken different found_other guard_mem held_mem
  · exact inv.drained id before other_id other dayUtc found found_other
      (weaker.drained dayUtc drained)
  · exact inv.drained other_id other id before dayUtc found_other found drained
      (weaker.opened dayUtc opened)

/-- A call that only keeps guards that it has. -/
theorem Invariant.retreats (found : world.tasks.lookup id = some before)
    (kept : task.holds ⊆ before.holds) (weaker : Weaker task before) :
    Invariant setting (world.goto id task) :=
  inv.continues found (fun _ guard_mem => .inl (kept guard_mem)) weaker

/-- A call starts. -/
theorem Invariant.begins (no_guards : task.holds = []) (plain : Plain task) :
    Invariant setting (world.goto id task) := by
  apply inv.goto
  refine ⟨fun other_id other _ _ guard guard_mem => ?_, plain.fits,
    fun other_id other dayUtc _ _ drained => ?_, fun other_id other dayUtc _ _ opened => ?_⟩
  · rw [no_guards] at guard_mem
    cases guard_mem
  · rw [plain.drained] at drained
    cases drained
  · rw [plain.opened] at opened
    cases opened

end Calls

section Files

variable {setting : Setting} {world : World}

variable {dayUtc : Int} {other : Int}

theorem create_eq (dayUtc : Int) (kinds : List FileKind) : world.create setting dayUtc kinds =
      { world with files := (world.create setting dayUtc kinds).files } := by
  unfold create
  split <;> rfl

theorem remove_eq (dayUtc : Int) (kind : FileKind) : world.remove setting dayUtc kind =
      { world with files := (world.remove setting dayUtc kind).files } := by
  unfold remove
  split <;> rfl

theorem hasShard_iff : world.hasShard setting dayUtc = true ↔
      ∃ name, (name, FileKind.main) ∈ world.files ∧
        parseShardFileName setting.calendar name = some dayUtc := by
  simp only [World.hasShard, any_eq_true, decide_eq_true_eq]
  constructor
  · rintro ⟨⟨name, kind⟩, mem, rfl, read⟩
    exact ⟨name, mem, read⟩
  · rintro ⟨name, mem, read⟩
    exact ⟨(name, .main), mem, rfl, read⟩

theorem mem_shardDays (has : world.hasShard setting dayUtc = true) :
    dayUtc ∈ world.shardDays setting := by
  obtain ⟨name, mem, read⟩ := hasShard_iff.mp has
  rw [World.shardDays, mem_insertionSort, mem_dedup, mem_filterMap]
  exact ⟨(name, .main), mem, by simpa using read⟩

/-- Files made at the path of a day give at most the shard of that day. -/
theorem hasShard_of_create
    (has : (world.create setting dayUtc kinds).hasShard setting other = true) :
    world.hasShard setting other = true ∨ other = dayUtc ∧ .main ∈ kinds := by
  unfold create at has
  split at has
  · next name named =>
    obtain ⟨found, mem, read⟩ := hasShard_iff.mp has
    rcases mem_append.mp mem with earlier | made
    · exact .inl (hasShard_iff.mpr ⟨found, earlier, read⟩)
    · obtain ⟨kind, kind_mem, same⟩ := mem_map.mp made
      cases same
      rcases parse_format named with back | unread
      · cases read.symm.trans back
        exact .inr ⟨rfl, kind_mem⟩
      · cases read.symm.trans unread
  · exact .inl has

/-- A call is about to open the day. -/
def World.Opens (world : World) (dayUtc : Int) : Prop :=
  ∃ id task, world.tasks.lookup id = some task ∧ task.openDay = some dayUtc

theorem opens_of_create (opened : .main ∈ kinds → world.Opens dayUtc) (other : Int)
    (has : (world.create setting dayUtc kinds).hasShard setting other = true) :
    world.hasShard setting other = true ∨ world.Opens other := by
  rcases hasShard_of_create has with earlier | ⟨rfl, main⟩
  · exact .inl earlier
  · exact .inr (opened main)

theorem opens_of_sidecars (main : .main ∈ sidecars kinds) : world.Opens dayUtc := by
  simp [sidecars] at main

theorem hasShard_of_remove {kind : FileKind}
    (has : (world.remove setting dayUtc kind).hasShard setting other = true) :
    world.hasShard setting other = true := by
  unfold remove at has
  split at has
  · obtain ⟨name, mem, read⟩ := hasShard_iff.mp has
    exact hasShard_iff.mpr ⟨name, (mem_filter.mp mem).1, read⟩
  · exact has

theorem hasShard_remove_main (dayUtc : Int) :
    (world.remove setting dayUtc .main).hasShard setting dayUtc = false := by
  by_contra present
  rw [Bool.not_eq_false] at present
  obtain ⟨name, mem, read⟩ := hasShard_iff.mp present
  have named := format_of_parse read
  rw [remove, named] at mem
  simpa using (mem_filter.mp mem).2

end Files

section Changes

variable {setting : Setting} {world next : World} {dayUtc : Int}
  {files : List (List Char × FileKind)} {memory : DetailShardState} {database : Database}

@[simp]
theorem create_tasks (dayUtc : Int) (kinds : List FileKind) :
    (world.create setting dayUtc kinds).tasks = world.tasks := by
  rw [create_eq]

theorem lookup_create :
    (world.create setting dayUtc kinds).tasks.lookup id = world.tasks.lookup id := by
  rw [create_tasks]

@[simp]
theorem remove_tasks (dayUtc : Int) (kind : FileKind) :
    (world.remove setting dayUtc kind).tasks = world.tasks := by
  rw [remove_eq]

theorem dayLock_eq (dayUtc : Int) : (world.dayLock dayUtc).1 = { world with
      dayLocks := (world.dayLock dayUtc).1.dayLocks
      nextLock := (world.dayLock dayUtc).1.nextLock } := by
  unfold World.dayLock
  dsimp only
  split <;> rfl

@[simp]
theorem dayLock_tasks (dayUtc : Int) : (world.dayLock dayUtc).1.tasks = world.tasks := by
  rw [dayLock_eq]

@[simp]
theorem dayLock_memory (dayUtc : Int) : (world.dayLock dayUtc).1.memory = world.memory := by
  rw [dayLock_eq]

variable (inv : Invariant setting world)

include inv

/-- The rest of the world changes under calls that stay as they are. -/
theorem Invariant.changed (tasks : next.tasks = world.tasks)
    (fits : ∀ id task, world.tasks.lookup id = some task → Fits setting world task →
      Fits setting next task)
    (watermark_le : ∀ watermark, next.memory.retiredBefore = some watermark →
      Reaches next.database.watermark watermark) (returned : ∀ watermark ∈ next.returned,
      Registered setting next watermark ∧ Reaches next.memory.retiredBefore watermark) :
    Invariant setting next where
  exclusive := by
    rw [tasks]
    exact inv.exclusive
  fits id task found := by
    rw [tasks] at found
    exact fits id task found (inv.fits id task found)
  drained id task other_id other dayUtc found found_other := by
    rw [tasks] at found found_other
    exact inv.drained id task other_id other dayUtc found found_other
  watermark_le := watermark_le
  returned := returned

/-- A transaction keeps the watermark or moves it forward, and what is registered stays so as long
as its shard is there. -/
theorem Invariant.withDatabase
    (grows : ∀ watermark, world.database.watermark = some watermark →
      Reaches database.watermark watermark)
    (keeps : ∀ dayUtc, world.hasShard setting dayUtc = true →
      world.database.registers dayUtc = true → database.registers dayUtc = true) :
    Invariant setting { world with database } := by
  have reaches : ∀ dayUtc, Reaches world.database.watermark dayUtc →
      Reaches database.watermark dayUtc := by
    rintro dayUtc ⟨old, same, le⟩
    obtain ⟨new, new_eq, old_le⟩ := grows old same
    exact ⟨new, new_eq, le.trans old_le⟩
  have registered : ∀ watermark, Registered setting world watermark →
      Registered setting { world with database } watermark :=
    fun watermark before dayUtc below has => keeps dayUtc has (before dayUtc below has)
  refine inv.changed rfl (fun id task found fits => ?_)
    (fun watermark same => reaches watermark (inv.watermark_le watermark same))
    fun watermark mem => (inv.returned watermark mem).imp_left (registered watermark)
  exact ⟨fits.lock, fits.opened, fits.retiring, fits.gone, fits.listed,
    fun watermark same =>
      (fits.committed watermark same).imp (registered watermark) (reaches watermark),
    fits.announced⟩

/-- Files are made or deleted; a shard may come into being only where no watermark and no reclaim
says otherwise. -/
theorem Invariant.withFiles
    (made : ∀ dayUtc, { world with files }.hasShard setting dayUtc = true →
      world.hasShard setting dayUtc = true ∨ world.Opens dayUtc) :
    Invariant setting { world with files } := by
  have registered : ∀ watermark, (watermark ∈ world.returned ∨ ∃ id task,
      world.tasks.lookup id = some task ∧ task.committed = some watermark) →
      Registered setting world watermark → Registered setting { world with files } watermark := by
    intro watermark settled before dayUtc below has
    rcases made dayUtc has with earlier | ⟨id, task, found, opened⟩
    · exact before dayUtc below earlier
    · exact absurd (inv.le_of_openDay found opened settled) (not_le.mpr below)
  refine inv.changed rfl (fun id task found fits => ?_) inv.watermark_le
    fun watermark mem =>
      (inv.returned watermark mem).imp_left (registered watermark (.inl mem))
  refine ⟨fits.lock, fits.opened, fits.retiring, fun dayUtc gone => ?_,
    fun manifestDays listed dayUtc has => ?_, fun watermark same =>
      (fits.committed watermark same).imp_left
        (registered watermark (.inr ⟨id, task, found, same⟩)),
    fits.announced⟩
  · by_contra present
    rw [Bool.not_eq_false] at present
    rcases made dayUtc present with earlier | ⟨other_id, other, found_other, opened⟩
    · rw [fits.gone dayUtc gone] at earlier
      cases earlier
    · exact inv.drained id task other_id other dayUtc found found_other
        (drainedDay_of_goneDay gone) opened
  · rcases made dayUtc has with earlier | ⟨other_id, other, found_other, opened⟩
    · exact fits.listed manifestDays listed dayUtc earlier
    · -- The days were listed under the gate, which keeps every other call from opening one.
      obtain ⟨writes, closed⟩ := gateWrite_of_listed listed
      have none_open := inv.openDay_eq_none_of_gateWrite found writes closed found_other
      rw [opened] at none_open
      cases none_open

theorem Invariant.create {kinds : List FileKind} (opened : .main ∈ kinds → world.Opens dayUtc) :
    Invariant setting (world.create setting dayUtc kinds) := by
  have made := @opens_of_create kinds setting world dayUtc opened
  rw [create_eq] at made ⊢
  exact inv.withFiles made

theorem Invariant.remove (dayUtc : Int) (kind : FileKind) :
    Invariant setting (world.remove setting dayUtc kind) := by
  have left : ∀ other, (world.remove setting dayUtc kind).hasShard setting other = true →
      world.hasShard setting other = true := fun other has => hasShard_of_remove has
  rw [remove_eq] at left ⊢
  exact inv.withFiles fun other has => .inl (left other has)

theorem Invariant.withMemory (watermark : memory.retiredBefore = world.memory.retiredBefore)
    (retiring : world.memory.retiringDays ⊆ memory.retiringDays) :
    Invariant setting { world with memory } := by
  refine inv.changed rfl (fun id task found fits => ?_) ?_ ?_
  · refine { fits with
      opened := ?_
      retiring := fun dayUtc drained => retiring (fits.retiring dayUtc drained)
      announced := ?_ }
    · rw [watermark]
      exact fits.opened
    · rw [watermark]
      exact fits.announced
  · rw [watermark]
    exact inv.watermark_le
  · rw [watermark]
    exact inv.returned

theorem Invariant.marks (dayUtc : Int) : Invariant setting (world.mark dayUtc) :=
  inv.withMemory rfl fun _ mem => mem_cons_of_mem _ mem

omit inv

theorem reaches_publishRetiredBefore (memory : DetailShardState) (watermark : Int) :
    Reaches (memory.publishRetiredBefore watermark).retiredBefore watermark := by
  unfold publishRetiredBefore
  split_ifs with forward
  · exact ⟨watermark, rfl, le_rfl⟩
  · cases stored : memory.retiredBefore with
    | none => simp [stored] at forward
    | some current => exact ⟨current, rfl, by simpa [stored] using forward⟩

theorem publishRetiredBefore_cases (memory : DetailShardState) (watermark : Int) :
    (memory.publishRetiredBefore watermark).retiredBefore = memory.retiredBefore ∨
      (memory.publishRetiredBefore watermark).retiredBefore = some watermark ∧
        ∀ current, memory.retiredBefore = some current → current < watermark := by
  unfold publishRetiredBefore
  split_ifs with forward
  · exact .inr ⟨rfl, fun current stored => by simpa [stored] using forward⟩
  · exact .inl rfl

theorem Reaches.publishRetiredBefore (reaches : Reaches memory.retiredBefore dayUtc)
    (watermark : Int) : Reaches (memory.publishRetiredBefore watermark).retiredBefore dayUtc := by
  rcases publishRetiredBefore_cases memory watermark with same | ⟨new, below⟩
  · rw [same]
    exact reaches
  · exact ⟨watermark, new, reaches.le fun current stored => (below current stored).le⟩

theorem publishRetiredBefore_retiringDays (memory : DetailShardState) (watermark : Int) :
    (memory.publishRetiredBefore watermark).retiringDays = memory.retiringDays := by
  unfold publishRetiredBefore
  split_ifs <;> rfl

/-- A new process knows the stored watermark. -/
theorem start_retiredBefore (database : Database) (files : List (List Char × FileKind)) :
    (start database files).memory.retiredBefore = database.watermark := by
  simp only [start]
  split
  · next watermark stored => rw [stored]; rfl
  · next missing => rw [missing]; rfl

/-- A new process has no calls, and its watermark is the stored one. -/
theorem invariant_start {watermarks : List Int} (returned : ∀ watermark ∈ watermarks,
      Registered setting (.start database files) watermark ∧ Reaches database.watermark watermark) :
    Invariant setting { start database files with returned := watermarks } where
  exclusive first second task other _ found := by cases found
  fits id task found := by cases found
  drained id task other_id other dayUtc found := by cases found
  watermark_le watermark stored := 
    ⟨watermark, (start_retiredBefore database files).symm.trans stored, le_rfl⟩
  returned watermark mem := by
    obtain ⟨registered, reached, stored, le⟩ := returned watermark mem
    exact ⟨registered, reached, (start_retiredBefore database files).trans stored, le⟩

variable (inv : Invariant setting world)

include inv

theorem Invariant.announce {task : Task} (found : world.tasks.lookup id = some task)
    (writes : .gateWrite ∈ task.holds) (closed : task.openDay = none)
    (committed : Reaches world.database.watermark watermark) :
    Invariant setting
      { world with memory := world.memory.publishRetiredBefore watermark } := by
  have cases := publishRetiredBefore_cases world.memory watermark
  refine inv.changed rfl (fun other_id other found_other fits => ?_) ?_ ?_
  · have none_open := inv.openDay_eq_none_of_gateWrite found writes closed found_other
    refine { fits with
      opened := fun dayUtc opened => ?_
      retiring := ?_
      announced := fun mark announced =>
        (fits.announced mark announced).publishRetiredBefore watermark }
    · rw [none_open] at opened
      cases opened
    · simp only [publishRetiredBefore_retiringDays]
      exact fits.retiring
  · intro mark stored
    rcases cases with same | ⟨new, -⟩
    · rw [same] at stored
      exact inv.watermark_le mark stored
    · cases new.symm.trans stored
      exact committed
  · intro mark mem
    exact (inv.returned mark mem).imp_right fun reaches =>
      reaches.publishRetiredBefore watermark

theorem Invariant.withReturned (registered : Registered setting world watermark)
    (announced : Reaches world.memory.retiredBefore watermark) :
    Invariant setting { world with returned := watermark :: world.returned } := by
  refine inv.changed rfl (fun id task found fits => ?_) inv.watermark_le ?_
  · exact { fits with }
  · intro mark mem
    rcases mem_cons.mp mem with rfl | earlier
    · exact ⟨registered, announced⟩
    · exact inv.returned mark earlier

/-- A lock that a call keeps alive stays the lock of its day, and a call gets the lock that is. -/
theorem Invariant.dayLock (dayUtc : Int) : Invariant setting (world.dayLock dayUtc).1 ∧
      (world.dayLock dayUtc).1.dayLocks.lookup dayUtc = some (world.dayLock dayUtc).2 := by
  have kept : ∀ id task, world.tasks.lookup id = some task → ∀ ref, task.lockRef = some ref →
      (world.dayLocks.retain fun _ lock => world.live lock).lookup ref.1 = some ref.2 := by
    intro id task found ref same
    have alive : world.live ref.2 = true :=
      any_eq_true.mpr ⟨⟨id, task⟩, lookup_eq_some_iff.mp found, by simp [same]⟩
    rw [lookup_retain, (inv.fits id task found).lock ref same, Option.filter_some, if_pos alive]
  unfold World.dayLock
  dsimp only
  split
  · next lock stored =>
    refine ⟨inv.changed rfl (fun id task found fits => ?_) inv.watermark_le inv.returned, stored⟩
    exact { fits with lock := kept id task found }
  · next absent =>
    refine ⟨inv.changed rfl (fun id task found fits => ?_) inv.watermark_le
      inv.returned, lookup_insert _⟩
    refine { fits with lock := fun ref held => ?_ }
    have stored := kept id task found ref held
    rw [lookup_insert_eq_ite]
    split_ifs with same
    · rw [same, absent] at stored
      cases stored
    · exact stored

theorem Invariant.restart :
    Invariant setting { start world.database world.files with returned := world.returned } := by
  apply invariant_start
  intro watermark mem
  obtain ⟨registered, reached, stored, le⟩ := inv.returned watermark mem
  obtain ⟨persisted, persisted_eq, reached_le⟩ := inv.watermark_le reached stored
  exact ⟨registered, persisted, persisted_eq, le.trans reached_le⟩

end Changes

end FluxDns.Storage.Retention
