import FluxDns.Management.Handoff

/-!
# What pages and stream have in common

Between any two steps, the rows that were added after a call had read its cursor belong to a
publication after that cursor, or to a transaction that is not published.
-/

namespace FluxDns.Management.Handoff

open Storage EventHub List Function

variable {Trace : Type} {texts : Texts Trace} {primitives : Primitives Trace}
  {world next : World Trace}

variable {action : Action Trace} {page : Option (DetailQueryPage Trace)} {write : Write Trace}
  {dayUtc : Int} {index : Nat} {retiredBefore : Option Int}

/-- What one step of the client does to its walk. -/
inductive WalkEffect (primitives : Primitives Trace) (world : World Trace) (walk : Walk Trace) :
    Option (Walk Trace) → Option (DetailQueryPage Trace) → Prop
  | follow {last : DetailQueryPage Trace} {cursor : String}
      (last_eq : walk.pages.getLast? = some last) (offered : last.nextCursor = some cursor) :
      WalkEffect primitives world walk (some { walk with
        phase := .begun (walk.query.turn .older cursor) world.retentionRevision
          world.retiredBefore }) none
  | readCursor {query : DetailQuery} {retentionRevision : UInt64} {retiredBefore : Option Int}
      (place : walk.phase = .begun query retentionRevision retiredBefore) {opening : Opening}
      (opened : opening = world.opening primitives retentionRevision retiredBefore) :
      WalkEffect primitives world walk (some { walk with
        phase := .scanning ⟨query, opening, fun _ => none, spannedDays query.filter⟩
        first := walk.first <|> some opening }) none
  | scan {query : DetailQuery} {opening : Opening} {scanned : Int → Option (List SqliteRow)}
      {day : Int} {remaining : List Int}
      (place : walk.phase = .scanning ⟨query, opening, scanned, day :: remaining⟩) :
      WalkEffect primitives world walk (some { walk with
        phase := .scanning ⟨query, opening,
          update scanned day (world.acquireRead day), remaining⟩ }) none
  | answer {query : DetailQuery} {opening : Opening} {scanned : Int → Option (List SqliteRow)}
      {availableFromUtcMillis : Option Nat} {page : DetailQueryPage Trace}
      (place : walk.phase = .scanning ⟨query, opening, scanned, []⟩)
      (answered : queryDetails primitives
        (Call.reads ⟨query, opening, scanned, []⟩ world availableFromUtcMillis).reads query =
          .ok page) :
      WalkEffect primitives world walk (some (walk.add page)) (some page)
  | drop : WalkEffect primitives world walk none none

theorem advanceWalk_effect {walk : Walk Trace} {moved : Option (Walk Trace)}
    (taken : advanceWalk primitives world walk action = some (moved, page)) :
    WalkEffect primitives world walk moved page := by
  cases action with simp only [advanceWalk] at taken
  | follow =>
    split at taken <;> cases taken
    next place offered =>
    obtain ⟨last, last_eq, offered⟩ := Option.bind_eq_some_iff.mp offered
    exact .follow last_eq offered
  | readCursor =>
    split at taken <;> cases taken
    next place => exact .readCursor place rfl
  | scan =>
    split at taken <;> cases taken
    next place => exact .scan place
  | answer availableFromUtcMillis =>
    split at taken <;> try cases taken
    next place =>
    split at taken <;> cases taken
    · next answered => exact .answer place answered
    · exact .drop
  | fail =>
    cases taken
    exact .drop
  | _ => cases taken

/-- What one step does. -/
inductive Effect (primitives : Primitives Trace) (world : World Trace) :
    Action Trace → World Trace → Option (DetailQueryPage Trace) → Prop
  | commit (write : Write Trace) {lastId : Nat}
      (below : ∀ row ∈ world.rows write.dayUtc, row.id ≤ lastId)
      (ids : write.rows.map (·.id) =
        (range' (lastId + 1) write.records.length).map Int.ofNat) :
      Effect primitives world (.commit write.dayUtc lastId write.records) (world.commit write) none
  | publish {index : Nat} {write : Write Trace}
      (found : world.unpublished[index]? = some write) :
      Effect primitives world (.publish index) (world.publish primitives index write) none
  | abandon {index : Nat} {write : Write Trace}
      (found : world.unpublished[index]? = some write) :
      Effect primitives world (.abandon index) (world.abandon index write) none
  | retire {dayUtc : Int} (lower : -2 ^ 31 ≤ dayUtc) (upper : dayUtc < 2 ^ 31)
      (later : ∀ current ∈ world.retiredBefore, current < dayUtc) :
      Effect primitives world (.publishRetiredBefore dayUtc) (world.retire dayUtc) none
  | beginRetirement {dayUtc : Int} (below : unretired world.retiredBefore dayUtc = false) :
      Effect primitives world (.beginRetirement dayUtc)
        { world with retiringDays := dayUtc :: world.retiringDays } none
  | stop : Effect primitives world .stop { world with stopping := true } none
  | same (action : Action Trace) : Effect primitives world action world none
  | request (query : DetailQuery) : Effect primitives world (.request query) { world with
        walk := some ⟨query, [], .begun query world.retentionRevision world.retiredBefore,
          none⟩ } none
  | walk (action : Action Trace) {walk : Walk Trace} {moved : Option (Walk Trace)}
      {page : Option (DetailQueryPage Trace)} (found : world.walk = some walk)
      (advanced : WalkEffect primitives world walk moved page) :
      Effect primitives world action { world with walk := moved } page

theorem effect_of_advanceWalk
    (taken : (match world.walk with
      | some walk => (advanceWalk primitives world walk action).map fun (walk, page) =>
        ({ world with walk }, page)
      | none => none) = some (next, page)) :
    Effect primitives world action next page := by
  split at taken <;> try cases taken
  next walk found =>
  obtain ⟨⟨moved, shown⟩, advanced, moved_eq⟩ := Option.map_eq_some_iff.mp taken
  cases moved_eq
  exact .walk action found (advanceWalk_effect advanced)

theorem step_effect (taken : step texts primitives world action = some (next, page)) :
    Effect primitives world action next page := by
  cases action with
  | commit dayUtc lastId records =>
    simp only [step] at taken
    split at taken <;> try cases taken
    next below =>
    split at taken <;> cases taken
    next rows applied =>
    have below_all : ∀ row ∈ world.rows dayUtc, row.id ≤ lastId := by
      simpa using below
    exact .commit ⟨dayUtc, records, rows, _⟩ below_all (applyResolveRecords_ids applied)
  | publish index =>
    simp only [step] at taken
    split at taken <;> cases taken
    next found => exact .publish found
  | abandon index =>
    simp only [step] at taken
    split at taken <;> cases taken
    next found => exact .abandon found
  | publishRetiredBefore dayUtc =>
    simp only [step, Bool.and_eq_true, decide_eq_true_iff] at taken
    split at taken <;> try cases taken
    next bounds =>
    split at taken <;> cases taken
    · next later => exact .retire bounds.1 bounds.2 (by simpa [Option.all_eq_true] using later)
    · exact .same _
  | beginRetirement dayUtc =>
    simp only [step] at taken
    split at taken <;> cases taken
    next below => exact .beginRetirement (Bool.eq_false_iff.mpr below)
  | stop =>
    cases taken
    exact .stop
  | request query =>
    cases taken
    exact .request query
  | _ => exact effect_of_advanceWalk taken

/-- The row is one of the transaction's rows of that day. -/
def Write.Holds (write : Write Trace) (day : Int) (row : SqliteRow) : Prop :=
  write.dayUtc = day ∧ row ∈ write.rows.map (·.toSqliteRow)

/-- The number of revisions that a watermark allows for. -/
def watermarkRank : Option Int → Nat
  | none => 0
  | some retiredBefore => (retiredBefore + 2 ^ 31 + 1).toNat

section Facts

variable (primitives : Primitives Trace) (world : World Trace)

/-- What holds of the store between any two steps. -/
structure Stored : Prop where
  keyed : ∀ day, (world.rows day).Pairwise fun left right => left.id ≠ right.id
  ordered : Ordered primitives world.clock (world.log.map (·.notification primitives))
  started : world.clock.sequence = 0 ∨ ∃ publication ∈ world.log,
    publication.cursor.epoch = (world.clock.cursor primitives).epoch
  logged : ∀ publication ∈ world.log, ∀ day row, publication.write.Holds day row →
    row ∈ world.rows day
  waiting : ∀ write ∈ world.unpublished, ∀ day row, write.Holds day row → row ∈ world.rows day
  ranked : world.retentionRevision.toNat ≤ watermarkRank world.retiredBefore
  day_lt : ∀ retiredBefore ∈ world.retiredBefore, retiredBefore < 2 ^ 31
  retiring : ∀ day ∈ world.retiringDays, unretired world.retiredBefore day = false

/-- The revision was read under this watermark. -/
structure Marked (retentionRevision : UInt64) (retiredBefore : Option Int) : Prop where
  le : retentionRevision.toNat ≤ world.retentionRevision.toNat
  same : world.retentionRevision = retentionRevision → world.retiredBefore = retiredBefore

/-- The clock has reached the cursor, or it is in a later epoch. -/
def Since (cursor : DetailCommitCursor) : Prop :=
  (world.clock.cursor primitives).epoch = cursor.epoch ∧ cursor.sequence ≤ world.clock.sequence ∨
    (world.clock.cursor primitives).epoch ≠ cursor.epoch ∧
      ∃ publication ∈ world.log, publication.cursor.epoch = cursor.epoch

/-- The row is published after the cursor, or its transaction is not published. -/
def Owed (cursor : DetailCommitCursor) (day : Int) (row : SqliteRow) : Prop :=
  (∃ write ∈ world.unpublished ++ world.abandoned, write.Holds day row) ∨
    ∃ publication ∈ world.log, publication.write.Holds day row ∧
      ((world.clock.cursor primitives).epoch = cursor.epoch →
        publication.cursor.epoch = cursor.epoch ∧
          cursor.sequence < publication.cursor.sequence)

/-- What holds of the opening of a call at any later time. -/
structure Opened (opening : Opening) : Prop where
  marked : Marked world opening.retentionRevision opening.retiredBefore
  since : Since primitives world opening.snapshotCursor
  kept : ∀ day, ∀ row ∈ opening.rows day, row ∈ world.rows day
  covered : ∀ publication ∈ world.log,
    publication.cursor.epoch = opening.snapshotCursor.epoch →
    publication.cursor.sequence ≤ opening.snapshotCursor.sequence →
    ∀ day row, publication.write.Holds day row → row ∈ opening.rows day
  later : ∀ day, ∀ row ∈ world.rows day, row ∈ opening.rows day ∨
    Owed primitives world opening.snapshotCursor day row

end Facts

section Publications

variable {cursor : DetailCommitCursor}

theorem Stored.exists_of_used_up (stored : Stored primitives world)
    (used_up : world.clock.sequence = maxSequence) : ∃ publication ∈ world.log,
      publication.cursor.epoch = (world.clock.cursor primitives).epoch := by
  refine stored.started.resolve_left fun zero => ?_
  rw [used_up] at zero
  exact absurd zero (by decide)

/-- A clock that reads the epoch of an earlier cursor has not left it, and its next number is
above the cursor. -/
theorem Since.advance (since : Since primitives world cursor) (stored : Stored primitives world)
    (fresh : FreshEpoch primitives world.clock (world.log.map (·.notification primitives)))
    (same : ((world.clock.advance primitives).cursor primitives).epoch = cursor.epoch) :
    (world.clock.cursor primitives).epoch = cursor.epoch ∧
      cursor.sequence < (world.clock.advance primitives).sequence := by
  by_cases used_up : world.clock.sequence = maxSequence
  · exfalso
    have old : ∃ publication ∈ world.log, publication.cursor.epoch = cursor.epoch := by
      rcases since with ⟨current, -⟩ | ⟨-, old⟩
      · obtain ⟨publication, mem, epoch_eq⟩ := stored.exists_of_used_up used_up
        exact ⟨publication, mem, epoch_eq.trans current⟩
      · exact old
    obtain ⟨publication, mem, epoch_eq⟩ := old
    exact fresh used_up _ (mem_map_of_mem mem) (epoch_eq.trans same.symm)
  · have current : (world.clock.cursor primitives).epoch = cursor.epoch := by
      simpa [CommitClock.advance, used_up, CommitClock.cursor] using same
    rcases since with ⟨-, reached⟩ | ⟨moved, -⟩
    · refine ⟨current, ?_⟩
      rw [UInt64.le_iff_toNat_le] at reached
      rw [UInt64.lt_iff_toNat_lt, CommitClock.advance, if_neg used_up, toNat_succ_of_ne_max used_up]
      omega
    · exact absurd current moved

end Publications

theorem rows_commit (world : World Trace) (write : Write Trace) (day : Int) :
    (world.commit write).rows day =
      if day = write.dayUtc then world.rows day ++ write.rows.map (·.toSqliteRow)
      else world.rows day := by
  unfold World.rows World.commit
  by_cases same : day = write.dayUtc
  · subst same
    simp [World.rows]
  · simp [same]

/-- A row of the grown store is an old one or one of the transaction. -/
theorem mem_rows_commit {day : Int} {row : SqliteRow} :
    row ∈ (world.commit write).rows day ↔ row ∈ world.rows day ∨ write.Holds day row := by
  rw [rows_commit, Write.Holds]
  by_cases same : day = write.dayUtc
  · simp [same]
  · simp [same, Ne.symm same]

theorem mem_eraseIdx_or_eq {α : Type} {items : List α} {item other : α}
    (found : items[index]? = some item) (mem : other ∈ items) :
    other ∈ items.eraseIdx index ∨ other = item := by
  obtain ⟨bound, rfl⟩ := List.getElem?_eq_some_iff.mp found
  have perm := getElem_cons_eraseIdx_perm bound
  rcases mem_cons.mp (perm.mem_iff.mpr mem) with same | left
  · exact .inr same
  · exact .inl left

theorem pairwise_ids_commit {old : List SqliteRow} {lastId : Nat}
    (distinct : old.Pairwise fun left right => left.id ≠ right.id)
    (below : ∀ row ∈ old, row.id ≤ lastId)
    (ids : write.rows.map (·.id) = (range' (lastId + 1) write.records.length).map Int.ofNat) :
    (old ++ write.rows.map (·.toSqliteRow)).Pairwise fun left right => left.id ≠ right.id := by
  have ids_eq : (write.rows.map (·.toSqliteRow)).map (·.id) =
      (range' (lastId + 1) write.records.length).map Int.ofNat := by
    rw [← ids, map_map]
    rfl
  refine pairwise_append.mpr ⟨distinct, ?_, ?_⟩
  · have nodup : ((write.rows.map (·.toSqliteRow)).map (·.id)).Nodup := by
      have numbers : (range' (lastId + 1) write.records.length).Nodup := nodup_range'
      rw [ids_eq]
      exact numbers.map fun _ _ => Int.ofNat.inj
    exact pairwise_map.mp nodup
  · intro left left_old right right_new equal
    have right_id := mem_map_of_mem (f := (·.id)) right_new
    rw [ids_eq] at right_id
    obtain ⟨number, number_mem, number_eq⟩ := mem_map.mp right_id
    have above := (mem_range'_1.mp number_mem).1
    have bound := below left left_old
    rw [equal, ← number_eq, Int.ofNat_eq_natCast] at bound
    omega

theorem unretired_mono {day : Int} (later : ∀ current ∈ retiredBefore, current < dayUtc)
    (retired : unretired retiredBefore day = false) : unretired (some dayUtc) day = false := by
  cases retiredBefore with
  | none => cases retired
  | some current =>
    have less := later current rfl
    simp only [unretired, Option.all_some, decide_eq_false_iff_not] at retired ⊢
    omega

theorem watermarkRank_lt (lower : -2 ^ 31 ≤ dayUtc)
    (later : ∀ current ∈ retiredBefore, current < dayUtc) :
    watermarkRank retiredBefore < watermarkRank (some dayUtc) := by
  cases retiredBefore with
  | none =>
    simp only [watermarkRank]
    omega
  | some current =>
    have less := later current rfl
    simp only [watermarkRank]
    omega

variable (stored : Stored primitives world)

include stored

/-- The revision is far from its largest value: each advance has raised the watermark. -/
theorem Stored.toNat_advanceRevision :
    (advanceRevision world.retentionRevision).toNat = world.retentionRevision.toNat + 1 := by
  have ranked := stored.ranked
  have small : watermarkRank world.retiredBefore ≤ 2 ^ 32 := by
    cases retired : world.retiredBefore with
    | none => exact Nat.zero_le _
    | some retiredBefore =>
      have bound := stored.day_lt retiredBefore retired
      simp only [watermarkRank]
      omega
  have room : world.retentionRevision ≠ maxSequence := by
    intro used_up
    rw [used_up] at ranked
    have max_eq : maxSequence.toNat = 2 ^ 64 - 1 := rfl
    omega
  rw [advanceRevision, if_neg room, toNat_succ_of_ne_max room]

theorem Stored.commit {lastId : Nat} (below : ∀ row ∈ world.rows write.dayUtc, row.id ≤ lastId)
    (ids : write.rows.map (·.id) = (range' (lastId + 1) write.records.length).map Int.ofNat) :
    Stored primitives (world.commit write) := by
  refine { stored with keyed := ?_, logged := ?_, waiting := ?_ }
  · intro day
    rw [rows_commit]
    split
    · next same => exact same ▸ pairwise_ids_commit (stored.keyed write.dayUtc) below ids
    · exact stored.keyed day
  · intro publication mem day row holds
    exact mem_rows_commit.mpr (.inl (stored.logged publication mem day row holds))
  · intro other mem day row holds
    rcases mem_append.mp mem with old | added
    · exact mem_rows_commit.mpr (.inl (stored.waiting other old day row holds))
    · rw [mem_singleton.mp added] at holds
      exact mem_rows_commit.mpr (.inr holds)

theorem Stored.publish (found : world.unpublished[index]? = some write)
    (fresh : FreshEpoch primitives world.clock (world.log.map (·.notification primitives))) :
    Stored primitives (world.publish primitives index write) := by
  refine { stored with ordered := ?_, started := .inr ?_, logged := ?_, waiting := ?_ }
  · rw [World.publish, map_append]
    exact stored.ordered.number fresh rfl
  · exact ⟨_, mem_append_right _ mem_cons_self, rfl⟩
  · intro publication mem day row holds
    rcases mem_append.mp mem with old | added
    · exact stored.logged publication old day row holds
    · rw [mem_singleton.mp added] at holds
      exact stored.waiting write (mem_of_getElem? found) day row holds
  · intro other mem day row holds
    exact stored.waiting other (mem_of_mem_eraseIdx mem) day row holds

theorem Stored.retire (lower : -2 ^ 31 ≤ dayUtc)
    (upper : dayUtc < 2 ^ 31) (later : ∀ current ∈ world.retiredBefore, current < dayUtc) :
    Stored primitives (world.retire dayUtc) := by
  refine { stored with ranked := ?_, day_lt := ?_, retiring := ?_ }
  · have ranked := stored.ranked
    have raised := watermarkRank_lt lower later
    dsimp only [World.retire]
    rw [stored.toNat_advanceRevision]
    omega
  · rintro retiredBefore ⟨⟩
    exact upper
  · intro day mem
    exact unretired_mono later (stored.retiring day mem)

/-- Every step keeps the store in order, if a new epoch is not one of the old ones. -/
theorem Stored.step (effect : Effect primitives world action next page)
    (fresh : ∀ index, action = .publish index →
      FreshEpoch primitives world.clock (world.log.map (·.notification primitives))) :
    Stored primitives next := by
  cases effect with
  | commit write below ids => exact stored.commit below ids
  | publish found => exact stored.publish found (fresh _ rfl)
  | abandon found =>
    exact { stored with
      waiting := fun write mem => stored.waiting write (mem_of_mem_eraseIdx mem) }
  | retire lower upper later => exact stored.retire lower upper later
  | beginRetirement below =>
    refine { stored with retiring := fun day mem => ?_ }
    rcases mem_cons.mp mem with rfl | old
    · exact below
    · exact stored.retiring day old
  | same => exact stored
  | _ => exact { stored with }

omit stored

section Openings

variable {retentionRevision : UInt64} {retiredBefore : Option Int} {opening : Opening}
  {write : Write Trace} {page : Option (DetailQueryPage Trace)} {action : Action Trace}

/-- A revision that was read stays in the past; raising the watermark leaves it behind. -/
theorem Marked.step (marked : Marked world retentionRevision retiredBefore)
    (stored : Stored primitives world) (effect : Effect primitives world action next page) :
    Marked next retentionRevision retiredBefore := by
  cases effect with
  | retire lower upper later =>
    have advanced := stored.toNat_advanceRevision
    have le := marked.le
    refine ⟨?_, fun same => ?_⟩
    · dsimp only [World.retire]
      omega
    · rw [← same] at le
      dsimp only [World.retire] at le
      omega
  | same => exact marked
  | _ => exact ⟨marked.le, marked.same⟩

variable (opened : Opened primitives world opening)

include opened

theorem Opened.commit (marked : Marked next opening.retentionRevision opening.retiredBefore)
    (next_eq : next = world.commit write) : Opened primitives next opening := by
  subst next_eq
  refine ⟨marked, opened.since, ?_, opened.covered, ?_⟩
  · intro day row mem
    exact mem_rows_commit.mpr (.inl (opened.kept day row mem))
  · intro day row mem
    rcases mem_rows_commit.mp mem with old | added
    · refine (opened.later day row old).imp_right fun owed => owed.imp_left ?_
      rintro ⟨other, other_mem, holds⟩
      refine ⟨other, ?_, holds⟩
      simp only [World.commit, mem_append] at other_mem ⊢
      tauto
    · exact .inr (.inl ⟨write, by simp [World.commit], added⟩)

theorem Opened.publish (stored : Stored primitives world)
    (found : world.unpublished[index]? = some write)
    (fresh : FreshEpoch primitives world.clock (world.log.map (·.notification primitives)))
    (marked : Marked next opening.retentionRevision opening.retiredBefore)
    (next_eq : next = world.publish primitives index write) : Opened primitives next opening := by
  subst next_eq
  have advanced := opened.since.advance stored fresh
  refine ⟨marked, ?_, opened.kept, ?_, ?_⟩
  · by_cases same : ((world.clock.advance primitives).cursor primitives).epoch =
        opening.snapshotCursor.epoch
    · exact .inl ⟨same, UInt64.le_of_lt (advanced same).2⟩
    · refine .inr ⟨same, ?_⟩
      -- The epoch of the cursor has ended: one of its commits is in the log.
      rcases opened.since with ⟨current, -⟩ | ⟨-, publication, mem, epoch_eq⟩
      · have used_up : world.clock.sequence = maxSequence := by
          by_contra room
          exact same (by simpa [CommitClock.advance, room, CommitClock.cursor] using current)
        obtain ⟨publication, mem, epoch_eq⟩ := stored.exists_of_used_up used_up
        exact ⟨publication, mem_append_left _ mem, epoch_eq.trans current⟩
      · exact ⟨publication, mem_append_left _ mem, epoch_eq⟩
  · intro publication mem same reached
    rcases mem_append.mp mem with old | added
    · exact opened.covered publication old same reached
    · rw [mem_singleton.mp added] at same reached
      have above := (advanced same).2
      exact absurd above (Nat.not_lt.mpr reached)
  · intro day row mem
    refine (opened.later day row mem).imp_right fun owed => ?_
    rcases owed with ⟨other, other_mem, holds⟩ | ⟨publication, logged, holds, after⟩
    · rcases mem_append.mp other_mem with waiting | given_up
      · rcases mem_eraseIdx_or_eq found waiting with left | same
        · exact .inl ⟨other, mem_append_left _ left, holds⟩
        · subst same
          exact .inr ⟨_, mem_append_right _ mem_cons_self, holds,
            fun same => ⟨same, (advanced same).2⟩⟩
      · exact .inl ⟨other, mem_append_right _ given_up, holds⟩
    · exact .inr ⟨publication, mem_append_left _ logged, holds, fun same => after (advanced same).1⟩

theorem Opened.abandon (found : world.unpublished[index]? = some write)
    (marked : Marked next opening.retentionRevision opening.retiredBefore)
    (next_eq : next = world.abandon index write) : Opened primitives next opening := by
  subst next_eq
  refine { opened with marked := marked, later := ?_ }
  intro day row mem
  refine (opened.later day row mem).imp_right fun owed => owed.imp_left ?_
  rintro ⟨other, other_mem, holds⟩
  rcases mem_append.mp other_mem with waiting | given_up
  · rcases mem_eraseIdx_or_eq found waiting with left | same
    · exact ⟨other, mem_append_left _ left, holds⟩
    · exact ⟨other, by simp [World.abandon, same], holds⟩
  · exact ⟨other, by simp [World.abandon, given_up], holds⟩

/-- What a call has read stays a part of the store at every step. -/
theorem Opened.step (stored : Stored primitives world)
    (effect : Effect primitives world action next page)
    (fresh : ∀ index, action = .publish index →
      FreshEpoch primitives world.clock (world.log.map (·.notification primitives))) :
    Opened primitives next opening := by
  have marked := opened.marked.step stored effect
  cases effect with
  | commit write below ids => exact opened.commit marked rfl
  | publish found => exact opened.publish stored found (fresh _ rfl) marked rfl
  | abandon found => exact opened.abandon found marked rfl
  | same => exact opened
  | _ => exact { opened with marked }

omit opened

/-- The opening of a call that reads the cursor now. -/
theorem opened_opening (stored : Stored primitives world)
    (marked : Marked world retentionRevision retiredBefore) :
    Opened primitives world (world.opening primitives retentionRevision retiredBefore) where
  marked := marked
  since := .inl ⟨rfl, UInt64.le_refl _⟩
  kept := fun _ _ => id
  covered := fun publication mem _ _ => stored.logged publication mem
  later := fun _ _ => .inl

end Openings

end FluxDns.Management.Handoff
