import FluxDns.Management.HandoffSteps

/-!
# Pages and stream together miss no record

Every published commit up to the cursor of a page was visible to the scans of its call, and the
pages of a query together with the commits after the cursor of its first page contain every
committed record, unless a transaction was never published.
-/

namespace FluxDns.Management.Handoff

open Storage EventHub Execution ByteReader List Option Call Function

variable {Trace : Type} {texts : Texts Trace} {primitives : Primitives Trace}
  {world next : World Trace} {walk : Walk Trace} {page : Option (DetailQueryPage Trace)}
  {action : Action Trace} {day : Int} {query : DetailQuery} {moved : Walk Trace}

/-- What an answer says about the call. -/
structure AnswerFacts (reads : StoreReads) (query : DetailQuery) (page : DetailQueryPage Trace) :
    Prop where
  validated : validateQuery query = .ok ()
  directed : query.cursor = none → query.direction = .older
  unchanged : reads.currentRetentionRevision = reads.retentionRevision
  snapshot_eq : page.snapshotCursor = reads.snapshotCursor
  revision_eq : page.retentionRevision = reads.retentionRevision

theorem answerFacts {reads : StoreReads} {page : DetailQueryPage Trace}
    (answered : queryDetails primitives reads query = .ok page) : AnswerFacts reads query page := by
  simp only [queryDetails, bind_eq_ok] at answered
  obtain ⟨_, validated, anchor, -, _, directed, _, -, _, -, _, -, _, unchanged, _, -, page_eq⟩ :=
    answered
  cases page_eq
  have older := reject_eq_ok.mp directed
  have same := reject_eq_ok.mp unchanged
  refine ⟨validated, ?_, ?_, rfl, rfl⟩
  · intro absent
    cases direction : query.direction with
    | older => rfl
    | newer => simp [absent, direction] at older
  · simpa using same

/-- The scans so far found what was in the store when the call read its cursor. -/
structure Scanning (world : World Trace) (call : Call) : Prop where
  keyed : ∀ day rows, call.scanned day = some rows →
    rows.Pairwise fun left right => left.id ≠ right.id
  complete : world.stopping = false →
    world.retentionRevision = call.opening.retentionRevision →
    ∀ day ∈ spannedDays call.query.filter, day ∉ call.remaining →
      unretired call.opening.retiredBefore day = true →
      ∀ row ∈ call.opening.rows day, ∃ rows, call.scanned day = some rows ∧ row ∈ rows

/-- The query of a call is that of the walk, or follows the last page. -/
def Asked (walk : Walk Trace) (query : DetailQuery) : Prop :=
  walk.pages = [] ∧ query = walk.query ∨
    ∃ last cursor, walk.pages.getLast? = some last ∧ last.nextCursor = some cursor ∧
      query = walk.query.turn .older cursor

/-- A record of a day that was not retired when the call began, in the store when it read its
cursor. -/
def Opening.Shows (opening : Opening) (primitives : Primitives Trace)
    (filter : DetailQueryFilter) (located : LocatedRecord Trace) : Prop :=
  ∃ day, ∃ row ∈ opening.rows day, unretired opening.retiredBefore day = true ∧
    filter.selects row = true ∧ mapRow primitives row day = .ok located

/-- What the pages of a walk have shown up to the last one. -/
structure Shown (primitives : Primitives Trace) (world : World Trace) (walk : Walk Trace)
    (first : Opening) (last : DetailQueryPage Trace) : Prop where
  head : walk.pages.head?.map (·.snapshotCursor) = some first.snapshotCursor
  start : walk.query.cursor = none → Start walk.query
  revision : walk.query.cursor = none → last.retentionRevision = first.retentionRevision
  offered : ∀ cursor, last.nextCursor = some cursor → ∃ origin,
    cursor = encodeCursor primitives world.cursorKey origin walk.query .older
      (filterFingerprint primitives walk.query) last.retentionRevision
  reached : walk.query.cursor = none → world.stopping = false → ∀ located,
    first.Shows primitives walk.query.filter located →
      (∃ page ∈ walk.pages, located.record ∈ page.items) ∨
        Reaches primitives world.cursorKey walk.query last located

/-- What holds of a walk between any two steps. -/
structure Walking (primitives : Primitives Trace) (world : World Trace) (walk : Walk Trace) :
    Prop where
  first : ∀ first, walk.first = some first → Opened primitives world first
  begun : ∀ query retentionRevision retiredBefore,
    walk.phase = .begun query retentionRevision retiredBefore →
      Marked world retentionRevision retiredBefore ∧ Asked walk query ∧
        (walk.pages = [] → walk.first = none)
  scanning : ∀ call, walk.phase = .scanning call →
    Opened primitives world call.opening ∧ Scanning world call ∧ Asked walk call.query ∧
      (walk.pages = [] → walk.first = some call.opening) ∧
      ∀ first, walk.first = some first → ∀ day, ∀ row ∈ first.rows day,
        row ∈ call.opening.rows day
  shown : ∀ last, walk.pages.getLast? = some last →
    ∃ first, walk.first = some first ∧ Shown primitives world walk first last

section Others

variable {action : Action Trace} {page : Option (DetailQueryPage Trace)}

variable (effect : Effect primitives world action next page)

include effect

theorem Effect.stopping_eq (running : next.stopping = false) : world.stopping = false := by
  cases effect with
  | stop => cases running
  | _ => exact running

theorem Effect.cursorKey_eq : next.cursorKey = world.cursorKey := by
  cases effect <;> rfl

theorem Effect.revision_eq (stored : Stored primitives world) {retentionRevision : UInt64}
    {retiredBefore : Option Int} (marked : Marked world retentionRevision retiredBefore)
    (same : next.retentionRevision = retentionRevision) :
    world.retentionRevision = retentionRevision := by
  cases effect with
  | retire lower upper later =>
    have advanced := stored.toNat_advanceRevision
    have le := marked.le
    rw [← same] at le
    dsimp only [World.retire] at le
    omega
  | _ => exact same

omit effect

/-- Every step keeps what holds of a walk that stays as it is. -/
theorem Walking.step (walking : Walking primitives world walk) (stored : Stored primitives world)
    (effect : Effect primitives world action next page) (fresh : ∀ index, action = .publish index →
      FreshEpoch primitives world.clock (world.log.map (·.notification primitives))) :
    Walking primitives next walk where
  first := fun first found => (walking.first first found).step stored effect fresh
  begun := fun query retentionRevision retiredBefore place => by
    obtain ⟨marked, rest⟩ := walking.begun query retentionRevision retiredBefore place
    exact ⟨marked.step stored effect, rest⟩
  scanning := fun call place => by
    obtain ⟨opened, scanned, rest⟩ := walking.scanning call place
    refine ⟨opened.step stored effect fresh, ⟨scanned.keyed, ?_⟩, rest⟩
    intro running same
    exact scanned.complete (effect.stopping_eq running)
      (effect.revision_eq stored opened.marked same)
  shown := fun last last_eq => by
    obtain ⟨first, first_eq, shown⟩ := walking.shown last last_eq
    refine ⟨first, first_eq, shown.head, shown.start, shown.revision, ?_, ?_⟩
    · rw [effect.cursorKey_eq]
      exact shown.offered
    · intro fresh_start running
      rw [effect.cursorKey_eq]
      exact shown.reached fresh_start (effect.stopping_eq running)

end Others

theorem marked_now (world : World Trace) :
    Marked world world.retentionRevision world.retiredBefore :=
  ⟨Nat.le_refl _, fun _ => rfl⟩

theorem dayIsVisible_of_unretired (stored : Stored primitives world)
    (running : world.stopping = false) (visible : unretired world.retiredBefore day = true) :
    world.dayIsVisible day = true := by
  have absent : day ∉ world.retiringDays := by
    intro mem
    rw [stored.retiring day mem] at visible
    cases visible
  simp [World.dayIsVisible, running, visible, absent]

theorem Scanning.scan {opening : Opening} {scanned : Int → Option (List SqliteRow)}
    {remaining : List Int} (scanning : Scanning world ⟨query, opening, scanned, day :: remaining⟩)
    (stored : Stored primitives world) (opened : Opened primitives world opening) :
    Scanning world ⟨query, opening, update scanned day (world.acquireRead day),
      remaining⟩ := by
  constructor
  · intro other rows found
    by_cases same : other = day
    · subst same
      dsimp only at found
      rw [update_self, World.acquireRead, ite_none_right_eq_some] at found
      have keyed := stored.keyed other
      rwa [World.rows, found.2, getD_some] at keyed
    · dsimp only at found
      rw [update_of_ne same] at found
      exact scanning.keyed other rows found
  · intro running same_revision other spanned left visible row mem
    by_cases same : other = day
    · subst same
      have visible_now : unretired world.retiredBefore other = true := by
        rwa [opened.marked.same same_revision]
      have stored_row := opened.kept other row mem
      dsimp only
      rw [update_self, World.acquireRead,
        if_pos (dayIsVisible_of_unretired stored running visible_now)]
      rw [World.rows] at stored_row
      cases shard : world.shards other with
      | none => simp [shard] at stored_row
      | some rows =>
        rw [shard, getD_some] at stored_row
        exact ⟨rows, rfl, stored_row⟩
    · dsimp only
      rw [update_of_ne same]
      exact scanning.complete running same_revision other spanned
        (by simpa [same] using left) visible row mem

section Answering

variable {query : DetailQuery} {opening first : Opening} {scanned : Int → Option (List SqliteRow)}
  {availableFromUtcMillis : Option Nat} {page : DetailQueryPage Trace}

theorem Scanning.matches (scanning : Scanning world ⟨query, opening, scanned, []⟩)
    (running : world.stopping = false)
    (unchanged : world.retentionRevision = opening.retentionRevision) (valid : ValidQuery query)
    (earlier : ∀ day, ∀ row ∈ first.rows day, row ∈ opening.rows day)
    (same_watermark : opening.retiredBefore = first.retiredBefore) {located : LocatedRecord Trace}
    (shows : first.Shows primitives query.filter located) (availableFromUtcMillis : Option Nat) :
    (reads ⟨query, opening, scanned, []⟩ world availableFromUtcMillis).Matches primitives
      query.filter located := by
  obtain ⟨day, row, mem, visible, selected, mapped⟩ := shows
  rw [← same_watermark] at visible
  obtain ⟨rows, found, scanned_row⟩ := scanning.complete running unchanged day
    (mem_spannedDays valid selected mapped) not_mem_nil visible row (earlier day row mem)
  exact ⟨day, rows, row, found, scanned_row, selected, mapped⟩

variable (walking : Walking primitives world walk)
  (place : walk.phase = .scanning ⟨query, opening, scanned, []⟩)
  (answered : queryDetails primitives
    (reads ⟨query, opening, scanned, []⟩ world availableFromUtcMillis).reads query = .ok page)

include walking place answered

theorem Walking.shown_first (none_yet : walk.pages = []) (same : query = walk.query) :
    Shown primitives world (walk.add page) opening page := by
  subst same
  obtain ⟨opened, scanning, -, -, -⟩ := walking.scanning _ place
  have facts := answerFacts answered
  have starts : walk.query.cursor = none → Start walk.query :=
    fun absent => ⟨facts.validated, absent, facts.directed absent⟩
  refine ⟨?_, starts, fun _ => facts.revision_eq, ?_, ?_⟩
  · have snapshot := congrArg some facts.snapshot_eq
    simpa [none_yet, reads, Scanned.reads] using snapshot
  · intro cursor offered
    have encoded := encoded_of_offers answered (.next offered)
    rw [← facts.revision_eq] at encoded
    exact encoded
  · intro absent running located shows
    have matched := scanning.matches running facts.unchanged
      (validQuery_of_validateQuery facts.validated) (fun _ _ => id) rfl shows
      availableFromUtcMillis
    have keyed : (reads ⟨walk.query, opening, scanned, []⟩ world
        availableFromUtcMillis).Keyed := scanning.keyed
    exact .inr (reaches_start (starts absent) keyed answered matched)

theorem Walking.shown_next {last : DetailQueryPage Trace} {cursor : String}
    (last_eq : walk.pages.getLast? = some last) (offered : last.nextCursor = some cursor)
    (same : query = walk.query.turn .older cursor) (first_eq : walk.first = some first)
    (shown : Shown primitives world walk first last) :
    Shown primitives world (walk.add page) first page := by
  obtain ⟨opened, scanning, -, -, earlier⟩ := walking.scanning _ place
  have keyed : (reads ⟨query, opening, scanned, []⟩ world
      availableFromUtcMillis).Keyed := scanning.keyed
  obtain ⟨origin, cursor_eq⟩ := shown.offered cursor offered
  have facts := answerFacts answered
  subst same cursor_eq
  have kept_revision : opening.retentionRevision = last.retentionRevision :=
    revision_eq_of_turn answered
  have nonempty : walk.pages ≠ [] := by
    rintro empty
    simp [empty] at last_eq
  refine ⟨?_, shown.start, ?_, ?_, ?_⟩
  · rw [head?_append_of_ne_nil _ nonempty]
    exact shown.head
  · intro absent
    exact facts.revision_eq.trans (kept_revision.trans (shown.revision absent))
  · intro next_cursor next_offered
    have encoded := encoded_of_offers answered (.next next_offered)
    rw [← facts.revision_eq] at encoded
    exact encoded
  · intro absent running located shows
    rcases shown.reached absent running located shows with ⟨seen, mem, item⟩ | reaches
    · exact .inl ⟨seen, mem_append_left _ mem, item⟩
    rcases reaches with item | ⟨other, valid, other_eq, less⟩
    · exact .inl ⟨last, mem_append_left _ (mem_of_getLast? last_eq), item⟩
    · -- The revision is that of the first call, and so is the watermark.
      have revisions := kept_revision.trans (shown.revision absent)
      have unchanged : world.retentionRevision = opening.retentionRevision := facts.unchanged
      have watermark : opening.retiredBefore = first.retiredBefore :=
        (opened.marked.same unchanged).symm.trans
          ((walking.first first first_eq).marked.same (unchanged.trans revisions))
      have matched := scanning.matches running unchanged
        (validQuery_of_validateQuery facts.validated) (earlier first first_eq) watermark shows
        availableFromUtcMillis
      rw [offered, some.injEq] at other_eq
      rw [other_eq] at answered
      exact .inr (reaches_next (shown.start absent) keyed valid answered matched less)

end Answering

/-- The pages stay shown while the next call runs. -/
theorem Walking.shown_of_same (walking : Walking primitives world walk)
    (pages_eq : moved.pages = walk.pages) (query_eq : moved.query = walk.query)
    (first_eq : ∀ first, walk.first = some first → moved.first = some first) :
    ∀ last, moved.pages.getLast? = some last →
      ∃ first, moved.first = some first ∧ Shown primitives world moved first last := by
  intro last last_eq
  rw [pages_eq] at last_eq
  obtain ⟨first, found, head, start, revision, offered, reached⟩ := walking.shown last last_eq
  refine ⟨first, first_eq first found, ?_⟩
  constructor <;> simp only [pages_eq, query_eq] <;> assumption

/-- Every step of the client keeps what holds of its walk. -/
theorem Walking.advance (walking : Walking primitives world walk) (stored : Stored primitives world)
    (effect : WalkEffect primitives world walk (some moved) page) :
    Walking primitives world moved := by
  cases effect with
  | @follow last cursor last_eq offered =>
    refine ⟨walking.first, ?_, fun _ place => (nomatch place),
      walking.shown_of_same rfl rfl fun _ => id⟩
    rintro query retentionRevision retiredBefore ⟨⟩
    refine ⟨marked_now world, .inr ⟨last, cursor, last_eq, offered, rfl⟩, fun empty => ?_⟩
    dsimp only at empty
    simp [empty] at last_eq
  | @readCursor query retentionRevision retiredBefore place opening opened =>
    obtain ⟨marked, asked, unopened⟩ := walking.begun _ _ _ place
    have opened_now : Opened primitives world opening := opened ▸ opened_opening stored marked
    have rows_eq : opening.rows = world.rows := by rw [opened]; rfl
    refine ⟨?_, fun _ _ _ place => (nomatch place), ?_,
      walking.shown_of_same rfl rfl fun first found => by simp [found]⟩
    · intro first first_eq
      cases found : walk.first with
      | some earlier =>
        rw [found] at first_eq
        cases first_eq
        exact walking.first first found
      | none =>
        rw [found] at first_eq
        cases first_eq
        exact opened_now
    · rintro call ⟨⟩
      refine ⟨opened_now, ⟨fun _ _ found => (nomatch found),
        fun _ _ day spanned left => absurd spanned left⟩, asked, ?_, ?_⟩
      · intro empty
        rw [unopened empty]
        rfl
      · intro first first_eq day row mem
        rw [rows_eq]
        cases found : walk.first with
        | some earlier =>
          rw [found] at first_eq
          cases first_eq
          exact (walking.first first found).kept day row mem
        | none =>
          rw [found] at first_eq
          cases first_eq
          rwa [rows_eq] at mem
  | scan place =>
    obtain ⟨opened, scanning, rest⟩ := walking.scanning _ place
    refine ⟨walking.first, fun _ _ _ place => (nomatch place), ?_,
      walking.shown_of_same rfl rfl fun _ => id⟩
    rintro call ⟨⟩
    exact ⟨opened, scanning.scan stored opened, rest⟩
  | @answer query opening scanned availableFromUtcMillis page place answered =>
    obtain ⟨-, -, asked, opened_first, -⟩ := walking.scanning _ place
    refine ⟨walking.first, fun _ _ _ place => (nomatch place), fun _ place => (nomatch place), ?_⟩
    intro last last_eq
    rw [getLast?_append_of_ne_nil _ (cons_ne_nil _ _)] at last_eq
    cases last_eq
    rcases asked with ⟨none_yet, same⟩ | ⟨last, cursor, last_eq, offered, same⟩
    · exact ⟨opening, opened_first none_yet, walking.shown_first place answered none_yet same⟩
    · obtain ⟨first, first_eq, shown⟩ := walking.shown last last_eq
      exact ⟨first, first_eq, walking.shown_next place answered last_eq offered same first_eq shown⟩

/-- What holds between any two steps. -/
structure Invariant (primitives : Primitives Trace) (world : World Trace) : Prop where
  stored : Stored primitives world
  walking : ∀ walk, world.walk = some walk → Walking primitives world walk

def Fresh (primitives : Primitives Trace)
    (transition : Transition (World Trace) (Action Trace) (Option (DetailQueryPage Trace))) :
    Prop :=
  ∀ index, transition.action = .publish index → FreshEpoch primitives transition.before.clock
    (transition.before.log.map (·.notification primitives))

theorem walking_request (world : World Trace) (query : DetailQuery) : Walking primitives world
      ⟨query, [], .begun query world.retentionRevision world.retiredBefore, none⟩ where
  first := fun _ found => (nomatch found)
  begun := by
    rintro query retentionRevision retiredBefore ⟨⟩
    exact ⟨marked_now world, .inl ⟨rfl, rfl⟩, fun _ => rfl⟩
  scanning := fun _ place => (nomatch place)
  shown := fun _ found => (nomatch found)

theorem invariant_initial (primitives : Primitives Trace) (cursorKey epoch : List UInt8)
    {shards : Int → Option (List SqliteRow)} (keyed : ∀ day rows, shards day = some rows →
      rows.Pairwise fun left right => left.id ≠ right.id) :
    Invariant primitives (World.initial cursorKey epoch shards : World Trace) where
  stored := {
    keyed := fun day => by
      rw [World.rows]
      cases shard : shards day with
      | none =>
        dsimp only [World.initial]
        rw [shard]
        exact .nil
      | some rows =>
        dsimp only [World.initial]
        rw [shard]
        exact keyed day rows shard
    ordered := ⟨.nil, fun _ mem => (nomatch mem)⟩
    started := .inl rfl
    logged := fun _ mem => (nomatch mem)
    waiting := fun _ mem => (nomatch mem)
    ranked := Nat.le_refl _
    day_lt := fun _ mem => (nomatch mem)
    retiring := fun _ mem => (nomatch mem) }
  walking := fun _ found => (nomatch found)

/-- The scans of an answered call saw every commit up to the cursor of its page, on the days that
were not retired when it began. -/
def CommitsScanned (before : World Trace) (page : DetailQueryPage Trace) : Prop :=
  ∃ walk call, before.walk = some walk ∧ walk.phase = .scanning call ∧
    before.retentionRevision = call.opening.retentionRevision ∧
    page.snapshotCursor = call.opening.snapshotCursor ∧
    ∀ publication ∈ before.log,
      publication.cursor.epoch = page.snapshotCursor.epoch →
      publication.cursor.sequence ≤ page.snapshotCursor.sequence →
      ∀ day row, publication.write.Holds day row → before.stopping = false →
        day ∈ spannedDays call.query.filter → unretired call.opening.retiredBefore day = true →
        ∃ rows, call.scanned day = some rows ∧ row ∈ rows

/-- Every record of the store that the filter selects is on a page of the finished walk, or in a
commit after the cursor of the first page; or that cursor's epoch has ended, or the publication of
the record's transaction is still to come. -/
def HandedOver (primitives : Primitives Trace) (world : World Trace) (walk : Walk Trace) : Prop :=
  ∀ firstPage last first, walk.pages.head? = some firstPage → walk.pages.getLast? = some last →
    last.nextCursor = none → walk.first = some first →
    ∀ day, ∀ row ∈ world.rows day, unretired first.retiredBefore day = true →
      ∀ located, walk.query.filter.selects row = true → mapRow primitives row day = .ok located →
        (∃ page ∈ walk.pages, located.record ∈ page.items) ∨
        (∃ commit ∈ commitsBetween (world.log.map (·.notification primitives))
            firstPage.snapshotCursor maxSequence,
          ∃ committed ∈ commit.records, committed.id = located.record.id) ∨
        (world.clock.cursor primitives).epoch ≠ firstPage.snapshotCursor.epoch ∨
        ∃ write ∈ world.unpublished, write.Holds day row

theorem exists_committed (publication : Publication Trace) {row : SqliteRow}
    (holds : publication.write.Holds day row) :
    ∃ committed ∈ (publication.notification primitives).records,
      committed.id = .fromLocation primitives ⟨day, row.id⟩ := by
  obtain ⟨rfl, mem⟩ := holds
  obtain ⟨written, written_mem, rfl⟩ := mem_map.mp mem
  have ids : (publication.write.records.zip (publication.write.rows.map (·.id))).map Prod.snd =
      publication.write.rows.map (·.id) :=
    map_snd_zip (by simp [publication.write.length_eq])
  have id_mem : written.id ∈ publication.write.rows.map (·.id) :=
    mem_map.mpr ⟨written, written_mem, rfl⟩
  rw [← ids] at id_mem
  obtain ⟨⟨record, id⟩, pair_mem, rfl⟩ := mem_map.mp id_mem
  exact ⟨_, mem_map.mpr ⟨(record, _), pair_mem, rfl⟩, rfl⟩

theorem le_maxSequence (sequence : UInt64) : sequence.toNat ≤ maxSequence.toNat := by
  have bound := sequence.toNat_lt
  have max_eq : maxSequence.toNat = 2 ^ 64 - 1 := rfl
  omega

variable (inv : Invariant primitives world)

include inv

theorem Invariant.step (taken : step texts primitives world action = some (next, page))
    (fresh : Fresh primitives ⟨world, action, page, next⟩) : Invariant primitives next := by
  have effect := step_effect taken
  refine ⟨inv.stored.step effect fresh, fun walk found => ?_⟩
  -- Either the walk stays as it is, or it makes a step in the store as it was.
  suffices before : Walking primitives world walk from
    before.step inv.stored effect fresh
  cases effect with
  | request query =>
    cases found
    exact walking_request world query
  | walk action was advanced =>
    subst found
    exact (inv.walking _ was).advance inv.stored advanced
  | _ => exact inv.walking walk found

theorem Invariant.commitsScanned {page : DetailQueryPage Trace}
    (effect : Effect primitives world action next (some page)) : CommitsScanned world page := by
  cases effect with
  | @walk _ walk _ _ found advanced =>
    cases advanced with
    | @answer query opening scanned availableFromUtcMillis _ place answered =>
      obtain ⟨opened, scanning, -, -, -⟩ := (inv.walking walk found).scanning _ place
      have facts := answerFacts answered
      have snapshot : page.snapshotCursor = opening.snapshotCursor := facts.snapshot_eq
      refine ⟨walk, _, found, place, facts.unchanged, snapshot, ?_⟩
      intro publication logged same reached day row holds running spanned visible
      rw [snapshot] at same reached
      exact scanning.complete running facts.unchanged day spanned not_mem_nil visible row
        (opened.covered publication logged same reached day row holds)

theorem Invariant.handedOver (found : world.walk = some walk) (absent : walk.query.cursor = none)
    (running : world.stopping = false) (published : world.abandoned = []) :
    HandedOver primitives world walk := by
  intro firstPage last first head_eq last_eq ended first_eq day row mem visible located selected
    mapped
  have walking := inv.walking walk found
  obtain ⟨other, other_eq, shown⟩ := walking.shown last last_eq
  cases first_eq.symm.trans other_eq
  have snapshot : firstPage.snapshotCursor = first.snapshotCursor := by
    simpa [head_eq] using shown.head
  rcases (walking.first first first_eq).later day row mem with seen | owed | owed
  · -- The row was there before the first page, so the walk has shown it.
    refine .inl ((shown.reached absent running located
      ⟨day, row, seen, visible, selected, mapped⟩).elim id ?_)
    rintro (item | ⟨origin, -, offered, -⟩)
    · exact ⟨last, mem_of_getLast? last_eq, item⟩
    · rw [ended] at offered
      cases offered
  · obtain ⟨write, write_mem, holds⟩ := owed
    rw [published, append_nil] at write_mem
    exact .inr (.inr (.inr ⟨write, write_mem, holds⟩))
  · obtain ⟨publication, logged, holds, after⟩ := owed
    rw [← snapshot] at after
    by_cases same : (world.clock.cursor primitives).epoch = firstPage.snapshotCursor.epoch
    · obtain ⟨epoch_eq, above⟩ := after same
      obtain ⟨committed, committed_mem, id_eq⟩ := exists_committed publication holds
      refine .inr (.inl ⟨publication.notification primitives, ?_, committed, committed_mem, ?_⟩)
      · exact mem_commitsBetween.mpr ⟨mem_map_of_mem logged, epoch_eq,
          UInt64.lt_iff_toNat_lt.mp above, le_maxSequence _⟩
      · rw [id_eq, (mapRow_spec mapped).2.1, (mapped_of_mapRow mapped).location_eq]
    · exact .inr (.inr (.inl same))

omit inv

/-- In every interleaving that repeats no epoch: the scans of an answered call saw every commit up
to the cursor of its page, and while every transaction is published the pages of a finished walk
and the commits after the cursor of its first page contain every record of the store. -/
theorem pages_and_stream_complete (texts : Texts Trace) (primitives : Primitives Trace)
    (cursorKey epoch : List UInt8) {shards : Int → Option (List SqliteRow)}
    (keyed : ∀ day rows, shards day = some rows →
      rows.Pairwise fun left right => left.id ≠ right.id)
    (actions : List (Action Trace))
    (fresh : ∀ transition ∈
      transitions (step texts primitives) (World.initial cursorKey epoch shards) actions,
      Fresh primitives transition) :
    ∀ transition ∈ transitions (step texts primitives) (World.initial cursorKey epoch shards)
        actions,
      (∀ page, transition.output = some page → CommitsScanned transition.before page) ∧
      ∀ walk, transition.after.walk = some walk → walk.query.cursor = none →
        transition.after.stopping = false → transition.after.abandoned = [] →
        HandedOver primitives transition.after walk := by
  have kept := forall_before_of_guarded (Invariant primitives) (Fresh primitives)
    (fun _ invariant taken fresh => invariant.step taken fresh)
    (invariant_initial primitives cursorKey epoch keyed) fresh
  intro transition member
  obtain ⟨before, taken⟩ := kept transition member
  have after := before.step taken (fresh transition member)
  refine ⟨?_, fun walk found absent running published =>
    after.handedOver found absent running published⟩
  intro page output_eq
  have effect := step_effect taken
  rw [output_eq] at effect
  exact before.commitsScanned effect

def firstDay : DetailQuery :=
  { sampleQuery with
    filter := ⟨0, 86400000, none, none, none, none, none, [], false, none, none, none, none, none⟩
    pageSize := 10 }

def firstRecord : ResolveDetailRecord Unit := sampleDetailRecord (.v4 0xc000020a#32)

/-- A store without files. -/
def noShards : Int → Option (List SqliteRow) := fun _ => none

theorem keyed_noShards (day : Int) (rows : List SqliteRow) (found : noShards day = some rows) :
    rows.Pairwise fun left right => left.id ≠ right.id := by
  cases found

def handoffRun : List (Action Unit) :=
  [.commit 0 0 [firstRecord], .publish 0, .request firstDay, .readCursor, .scan, .answer none,
    .commit 0 1 [firstRecord], .publish 0]

theorem room_handoffRun :
    ∀ move ∈
      transitions (step sampleTexts readingPrimitives) (World.initial [] [] noShards) handoffRun,
      move.before.clock.sequence ≠ maxSequence := by
  decide +kernel

theorem pages_and_stream_complete_handoffRun :
    ∃ transition ∈ transitions (step sampleTexts readingPrimitives)
        (World.initial [] [] noShards) handoffRun,
      ∃ walk, transition.after.walk = some walk ∧ walk.pages.map (·.items.length) = [1] ∧
        (transition.after.rows 0).length = 2 ∧ transition.after.log.length = 2 ∧
        HandedOver readingPrimitives transition.after walk := by
  have complete := pages_and_stream_complete sampleTexts readingPrimitives [] []
    keyed_noShards handoffRun
    fun transition member _ _ used_up => absurd used_up (room_handoffRun transition member)
  have ended : ∃ transition ∈ transitions (step sampleTexts readingPrimitives)
      (World.initial [] [] noShards) handoffRun,
      transition.after.walk.map (fun walk => (walk.pages.map (·.items.length), walk.query.cursor)) =
        some ([1], none) ∧
      (transition.after.rows 0).length = 2 ∧ transition.after.log.length = 2 ∧
      transition.after.stopping = false ∧ transition.after.abandoned.length = 0 := by
    decide +kernel
  obtain ⟨transition, member, walked, rows, log, running, published⟩ := ended
  obtain ⟨walk, found, walked⟩ := map_eq_some_iff.mp walked
  rw [Prod.mk.injEq] at walked
  exact ⟨transition, member, walk, found, walked.1, rows, log,
    (complete transition member).2 walk found walked.2 running
      (length_eq_zero_iff.mp published)⟩

/-- The commit of a record takes effect after the page was read, and its call ends before the
publication. -/
def abandonedRun : List (Action Unit) :=
  [.request firstDay, .readCursor, .scan, .answer none, .commit 0 0 [firstRecord], .abandon 0]

theorem abandoned_commit_missed :
    ∃ transition ∈
      transitions (step sampleTexts readingPrimitives) (World.initial [] [] noShards) abandonedRun,
      ∃ walk row located, transition.after.walk = some walk ∧
      walk.pages.map (fun page => (page.items.length, page.nextCursor)) = [(0, none)] ∧
      row ∈ transition.after.rows 0 ∧ transition.after.dayIsVisible 0 = true ∧
      walk.query.filter.selects row = true ∧ mapRow readingPrimitives row 0 = .ok located ∧
      transition.after.log = [] ∧ transition.after.unpublished = [] := by
  have ended : ∃ transition ∈ transitions (step sampleTexts readingPrimitives)
      (World.initial [] [] noShards) abandonedRun,
      transition.after.walk.map (fun walk =>
        (walk.pages.map (fun page => (page.items.length, page.nextCursor)), walk.query)) =
          some ([(0, none)], firstDay) ∧
      ((transition.after.rows 0).any fun row => firstDay.filter.selects row &&
        (mapRow readingPrimitives row 0).isOk) = true ∧
      transition.after.dayIsVisible 0 = true ∧
      transition.after.log.length = 0 ∧ transition.after.unpublished.length = 0 := by
    decide +kernel
  obtain ⟨transition, member, walked, stored, visible, log, unpublished⟩ := ended
  obtain ⟨walk, found, walked⟩ := map_eq_some_iff.mp walked
  rw [Prod.mk.injEq] at walked
  obtain ⟨row, row_mem, read⟩ := any_eq_true.mp stored
  rw [Bool.and_eq_true] at read
  obtain ⟨selected, readable⟩ := read
  cases mapped : mapRow readingPrimitives row 0 with
  | error error => simp [mapped, Except.isOk, Except.toBool] at readable
  | ok located =>
    exact ⟨transition, member, walk, row, located, found, walked.1, row_mem, visible,
      walked.2 ▸ selected, mapped, length_eq_zero_iff.mp log,
      length_eq_zero_iff.mp unpublished⟩

end FluxDns.Management.Handoff
