import FluxDns.Upstream.Group

/-!
# Leases of a load-balance group

Every call of `acquire_primary` takes a lease of the member with the fewest leases for its weight
and moves the cursor on; the drop of a lease gives it back.
-/

namespace FluxDns.Upstream

open Config Execution GroupSelector List

/-- A selector and the member indices of the outstanding leases. -/
structure Leases where
  selector : GroupSelector
  held : List Nat

/-- A call of `acquire_primary`, or the drop of a lease of a member. -/
inductive LeaseAction where
  | acquire
  | drop (memberIndex : Nat)
  deriving DecidableEq

/-- One call.  A lease is a value in memory, so that fewer than `2 ^ 64` are held. -/
def stepLease (world : Leases) : LeaseAction → Option (Leases × Option Nat)
  | .acquire =>
    match world.selector.acquirePrimary with
    | .error _ => none
    | .ok (index, selector) =>
      if world.held.length + 1 < u64Size then some (⟨selector, index :: world.held⟩, some index)
      else none
  | .drop index =>
    if index ∈ world.held then
      some (⟨world.selector.dropLease index, world.held.erase index⟩, none)
    else none

/-- A scan that keeps the first smallest value. -/
theorem foldl_first_least {α : Type} [LinearOrder α] (value : Nat → α) (place : Nat → Nat)
    (less : Nat → Nat → Bool)
    (compares : ∀ left right, less (place left) (place right) = true ↔
      value (place left) < value (place right))
    (count : Nat) :
    ∃ offset ≤ count,
      (range' 1 count).foldl (fun best offset =>
      if less (place offset) best then place offset else best) (place 0) = place offset ∧
      (∀ other ≤ count, value (place offset) ≤ value (place other)) ∧
      ∀ earlier < offset, value (place offset) < value (place earlier) := by
  induction count with
  | zero => exact ⟨0, le_rfl, rfl, by simp, by simp⟩
  | succ count induction =>
    obtain ⟨offset, within, found, least, first⟩ := induction
    rw [range'_1_concat, foldl_append, found, foldl_cons, foldl_nil,
      Nat.add_comm 1]
    simp only [compares]
    split
    · next less =>
      refine ⟨count + 1, le_rfl, rfl, fun other below => ?_, fun earlier below => ?_⟩
      · rcases Nat.le_succ_iff.mp below with below | rfl
        · exact less.le.trans (least other below)
        · exact le_rfl
      · exact less.trans_le (least earlier (Nat.le_of_lt_succ below))
    · next no_less =>
      refine ⟨offset, Nat.le_succ_of_le within, rfl, fun other below => ?_, first⟩
      rcases Nat.le_succ_iff.mp below with below | rfl
      · exact least other below
      · exact not_lt.mp no_less

/-- Every place of a cycle is behind each start by less than a round. -/
theorem exists_offset {count start place : Nat} (start_lt : start < count)
    (place_lt : place < count) : ∃ offset < count, (start + offset) % count = place := by
  rcases Nat.le_total start place with before | after
  · refine ⟨place - start, by omega, ?_⟩
    rw [Nat.add_sub_cancel' before, Nat.mod_eq_of_lt place_lt]
  · refine ⟨(place + count - start) % count, Nat.mod_lt _ (by omega), ?_⟩
    rw [Nat.add_mod_mod, Nat.add_sub_cancel' (by omega), Nat.add_mod_right,
      Nat.mod_eq_of_lt place_lt]

theorem product_lt (inFlight : UInt64) (weight : UInt32) :
    inFlight.toNat * weight.toNat < 2 ^ 128 := by
  have product := Nat.mul_lt_mul'' inFlight.toNat_lt weight.toNat_lt
  omega

/-- The leases of a member for its weight. -/
def GroupSelector.ratio (selector : GroupSelector) (index : Nat) : ℚ :=
  (selector.load.inFlight index).toNat / (selector.weight index).toNat

theorem loadRatioIsLess_eq {selector : GroupSelector} {candidate best : Nat}
    (candidate_weight : selector.weight candidate ≠ 0) (best_weight : selector.weight best ≠ 0) :
    loadRatioIsLess (selector.load.inFlight candidate) (selector.weight candidate)
        (selector.load.inFlight best) (selector.weight best) = true ↔
      selector.ratio candidate < selector.ratio best := by
  have positive {weight : UInt32} (nonzero : weight ≠ 0) : (0 : ℚ) < weight.toNat := by
    exact_mod_cast Nat.pos_of_ne_zero fun zero => nonzero (UInt32.toNat_inj.mp zero)
  rw [loadRatioIsLess, decide_eq_true_iff, Nat.mod_eq_of_lt (product_lt _ _),
    Nat.mod_eq_of_lt (product_lt _ _), ratio, ratio,
    div_lt_div_iff₀ (positive candidate_weight) (positive best_weight)]
  exact_mod_cast Iff.rfl

/-- The scan finds the first member with the smallest ratio, in the cyclic order from the cursor. -/
theorem loadBalanceIndex_spec {selector : GroupSelector} (nonempty : selector.members ≠ [])
    (positive : ∀ index < selector.members.length, selector.weight index ≠ 0) :
    ∃ offset < selector.members.length,
      selector.loadBalanceIndex.1 =
        (selector.load.cursor.toNat + offset) % selector.members.length ∧
      (∀ other < selector.members.length,
        selector.ratio selector.loadBalanceIndex.1 ≤ selector.ratio other) ∧
      ∀ earlier < offset, selector.ratio selector.loadBalanceIndex.1 <
        selector.ratio ((selector.load.cursor.toNat + earlier) % selector.members.length) := by
  have count_pos := length_pos_iff.mpr nonempty
  have inside (place : Nat) : place % selector.members.length < selector.members.length :=
    Nat.mod_lt _ count_pos
  have compares (left right : Nat) := loadRatioIsLess_eq
    (positive _ (inside (selector.load.cursor.toNat % selector.members.length + left)))
    (positive _ (inside (selector.load.cursor.toNat % selector.members.length + right)))
  obtain ⟨offset, within, found, least, first⟩ := foldl_first_least selector.ratio
    (fun offset => (selector.load.cursor.toNat % selector.members.length + offset) %
      selector.members.length)
    (fun candidate best => loadRatioIsLess (selector.load.inFlight candidate)
      (selector.weight candidate) (selector.load.inFlight best) (selector.weight best))
    compares (selector.members.length - 1)
  rw [Nat.add_zero, Nat.mod_mod] at found
  have index_eq : selector.loadBalanceIndex.1 = _ := found
  rw [index_eq]
  refine ⟨offset, by omega, Nat.mod_add_mod .., fun other other_lt => ?_, fun earlier below => ?_⟩
  · obtain ⟨distance, distance_lt, rfl⟩ :=
      exists_offset (inside selector.load.cursor.toNat) other_lt
    exact least distance (by omega)
  · rw [← Nat.mod_add_mod selector.load.cursor.toNat _ earlier]
    exact first earlier below

/-- What holds between any two calls. -/
structure Counted (members : List ResolvedUpstreamMember) (world : Leases) : Prop where
  mode_eq : world.selector.mode = .loadBalance
  members_eq : world.selector.members = members
  counts : ∀ index, (world.selector.load.inFlight index).toNat = world.held.count index
  held_lt : world.held.length < u64Size

theorem counted_step {members : List ResolvedUpstreamMember} :
    Preserves stepLease (Counted members) := by
  intro world action next output counted taken
  cases action with
  | acquire =>
    simp only [stepLease, acquirePrimary, counted.mode_eq, ne_eq, not_true_eq_false,
      if_false] at taken
    split at taken
    · next room =>
      cases taken
      refine ⟨counted.mode_eq, counted.members_eq, fun index => ?_, room⟩
      have before := counted.counts index
      have bound := world.held.count_le_length (a := index)
      simp only [setInFlight, loadBalanceIndex, Function.update_apply, count_cons, beq_iff_eq]
      split
      · next same =>
        rw [if_pos same.symm, ← same, UInt64.toNat_add, before]
        exact Nat.mod_eq_of_lt (by unfold u64Size at room; simp; omega)
      · next other => rw [if_neg (Ne.symm other), before, Nat.add_zero]
    · cases taken
  | drop index =>
    simp only [stepLease] at taken
    split at taken
    · next member =>
      cases taken
      have held := count_pos_iff.mpr member
      rw [← counted.counts index] at held
      have one_le : (1 : UInt64) ≤ world.selector.load.inFlight index :=
        UInt64.le_iff_toNat_le.mpr held
      have nonzero : world.selector.load.inFlight index ≠ 0 := by
        intro zero
        simp [zero] at held
      rw [dropLease, if_neg nonzero]
      refine ⟨counted.mode_eq, counted.members_eq, fun other => ?_,
        (length_erase_le ..).trans_lt counted.held_lt⟩
      simp only [setInFlight, Function.update_apply, count_erase, beq_iff_eq]
      split
      · next same =>
        rw [if_pos same.symm, UInt64.toNat_sub_of_le _ _ one_le, counted.counts, same]
        rfl
      · next different => rw [if_neg (Ne.symm different), counted.counts, Nat.sub_zero]
    · cases taken

/-- A step changes the lease and the counter of one member, and the cursor only with a call. -/
structure Moves (world next : Leases) (index : Nat) (held : List Nat) (counter : Nat → Nat)
    (turns : UInt64) : Prop where
  held_eq : next.held = held
  counter_eq : ∀ other, (next.selector.load.inFlight other).toNat =
    if other = index then counter (world.selector.load.inFlight index).toNat
    else (world.selector.load.inFlight other).toNat
  cursor_eq : next.selector.load.cursor = world.selector.load.cursor + turns

section Steps

variable {members : List ResolvedUpstreamMember} {world next : Leases} {output : Option Nat}

theorem moves_of_acquire (counted : Counted members world)
    (taken : stepLease world .acquire = some (next, output)) :
    output = some world.selector.loadBalanceIndex.1 ∧
      Moves world next world.selector.loadBalanceIndex.1
        (world.selector.loadBalanceIndex.1 :: world.held) (· + 1) 1 := by
  have after := counted_step _ _ _ _ counted taken
  simp only [stepLease, acquirePrimary, counted.mode_eq, ne_eq, not_true_eq_false,
    if_false] at taken
  split at taken <;> cases taken
  refine ⟨rfl, rfl, fun other => ?_, rfl⟩
  simp only [after.counts, counted.counts, count_cons, beq_iff_eq]
  split
  · next same => rw [if_pos same.symm, same]
  · next different => rw [if_neg (Ne.symm different), Nat.add_zero]

theorem moves_of_drop (counted : Counted members world) {index : Nat}
    (member : index ∈ world.held) :
    ∃ next, stepLease world (.drop index) = some (next, none) ∧
      Moves world next index (world.held.erase index) (· - 1) 0 := by
  have taken : stepLease world (.drop index) =
      some (⟨world.selector.dropLease index, world.held.erase index⟩, none) := if_pos member
  have after := counted_step _ _ _ _ counted taken
  refine ⟨_, taken, rfl, fun other => ?_, ?_⟩
  · simp only [after.counts, counted.counts, count_erase, beq_iff_eq]
    split
    · next same => rw [if_pos same.symm, same]
    · next different => rw [if_neg (Ne.symm different), Nat.sub_zero]
  · simp only [dropLease]
    split <;> simp [setInFlight]

theorem cursor_step (counted : Counted members world) {action : LeaseAction}
    (taken : stepLease world action = some (next, output)) :
    next.selector.load.cursor =
      world.selector.load.cursor + UInt64.ofNat ([action].count .acquire) := by
  cases action with
  | acquire => exact (moves_of_acquire counted taken).2.cursor_eq
  | drop index =>
    have member : index ∈ world.held := by
      by_contra absent
      simp [stepLease, absent] at taken
    obtain ⟨_, moved, moves⟩ := moves_of_drop counted member
    cases moved.symm.trans taken
    exact moves.cursor_eq

/-- The cursor counts the calls. -/
theorem cursor_run {actions : List LeaseAction} (counted : Counted members world)
    (reached : run stepLease world actions = some next) :
    next.selector.load.cursor =
      world.selector.load.cursor + UInt64.ofNat (actions.count .acquire) := by
  induction actions generalizing world with
  | nil =>
    cases reached
    simp
  | cons action actions induction =>
    rw [run] at reached
    split at reached <;> try cases reached
    next middle output taken =>
    rw [induction (counted_step _ _ _ _ counted taken) reached, cursor_step counted taken,
      ← singleton_append (l := actions), count_append, UInt64.ofNat_add, UInt64.add_assoc]

end Steps

/-- After any calls and drops the cursor is the number of the calls and the counters are the numbers
of leases.  The next call takes and returns the first member with the fewest leases for its weight,
in the cyclic order from the cursor, and the drop of an outstanding lease gives it back. -/
theorem load_balance_leases {members : List ResolvedUpstreamMember} {selector : GroupSelector}
    (made : new .loadBalance members = .ok selector) {actions : List LeaseAction}
    {world : Leases} (reached : run stepLease ⟨selector, []⟩ actions = some world) :
    world.selector.load.cursor = UInt64.ofNat (actions.count .acquire) ∧
    (∀ index < members.length,
      (world.selector.load.inFlight index).toNat = world.held.count index) ∧
    (∀ index other, (world.selector.load.inFlight index).toNat *
      (world.selector.weight other).toNat < 2 ^ 128) ∧
    (world.held.length + 1 < u64Size → ∃ index next,
      stepLease world .acquire = some (next, some index) ∧
      Moves world next index (index :: world.held) (· + 1) 1 ∧
      ∃ offset < members.length,
        index = (world.selector.load.cursor.toNat + offset) % members.length ∧
        (∀ other < members.length, world.selector.ratio index ≤ world.selector.ratio other) ∧
        ∀ earlier < offset, world.selector.ratio index <
          world.selector.ratio
            ((world.selector.load.cursor.toNat + earlier) % members.length)) ∧
    ∀ index ∈ world.held, ∃ next, stepLease world (.drop index) = some (next, none) ∧
      Moves world next index (world.held.erase index) (· - 1) 0 := by
  obtain ⟨nonempty, positive, rfl⟩ := new_eq_ok made
  have start : Counted members ⟨⟨.loadBalance, members, ⟨fun _ => 0, totalWeight members⟩,
      ⟨fun _ => 0, 0⟩⟩, []⟩ := ⟨rfl, rfl, fun _ => rfl, by simp [u64Size]⟩
  have counted := counted_step.of_run start reached
  refine ⟨?_, fun index _ => counted.counts index, fun _ _ => product_lt _ _, fun room => ?_,
    fun _ => moves_of_drop counted⟩
  · rw [cursor_run start reached, UInt64.zero_add]
  · have taken : ∃ next, stepLease world .acquire = some next := by
      rw [stepLease, acquirePrimary, if_neg (by simp [counted.mode_eq])]
      exact ⟨_, if_pos room⟩
    obtain ⟨⟨next, output⟩, taken⟩ := taken
    obtain ⟨rfl, moves⟩ := moves_of_acquire counted taken
    refine ⟨_, next, taken, moves, ?_⟩
    obtain ⟨-, rfl, -, -⟩ := counted
    obtain ⟨offset, within, index_eq, least, first⟩ := loadBalanceIndex_spec nonempty positive
    exact ⟨offset, within, index_eq, least, first⟩

/-- The first calls take both members; after the drop of the first lease the next call takes its
member again. -/
theorem load_balance_leases_two_members : ∃ selector world next,
    new .loadBalance sampleMembers = .ok selector ∧
    run stepLease ⟨selector, []⟩ [.acquire, .acquire, .drop 0] = some world ∧
    world.selector.load.cursor = 2 ∧ world.held = [1] ∧
    (world.selector.load.inFlight 0).toNat = 0 ∧ (world.selector.load.inFlight 1).toNat = 1 ∧
    stepLease world .acquire = some (next, some 0) ∧ next.held = [0, 1] ∧
    (next.selector.load.inFlight 0).toNat = 1 ∧ next.selector.load.cursor = 3 := by
  have made : ∃ selector, new .loadBalance sampleMembers = .ok selector := ⟨_, rfl⟩
  obtain ⟨selector, made⟩ := made
  have reached : ∃ world, run stepLease ⟨selector, []⟩ [.acquire, .acquire, .drop 0] = some world ∧
      world.held = [1] ∧ (stepLease world .acquire).map (·.2) = some (some 0) := by
    cases made
    exact ⟨_, rfl, rfl, rfl⟩
  obtain ⟨world, reached, held, acquires⟩ := reached
  obtain ⟨cursor, counts, -, acquire, -⟩ := load_balance_leases made reached
  obtain ⟨index, next, taken, moves, -⟩ := acquire (by rw [held]; decide)
  rw [taken] at acquires
  cases acquires
  have none_held : (world.selector.load.inFlight 0).toNat = 0 := by
    rw [counts 0 (by decide), held]
    rfl
  refine ⟨selector, world, next, made, reached, cursor, held, none_held, ?_, taken, ?_, ?_, ?_⟩
  · rw [counts 1 (by decide), held]
    rfl
  · rw [moves.held_eq, held]
  · rw [moves.counter_eq, if_pos rfl, none_held]
  · rw [moves.cursor_eq, cursor]
    rfl

end FluxDns.Upstream
