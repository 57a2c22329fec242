import FluxDns.Library.AssociationList
import FluxDns.Cache.SwapDiscipline

/-!
# The records of the memory store

`MemoryCacheStore` without its shared loads.  Every operation holds the state lock from its first
look at the records to its end, so operations are single steps.
-/

namespace FluxDns.Cache.Memory

open Execution AList Option CacheWriteOutcome

/-- The construction parameters of a store. -/
structure Limits where
  maxWeight : Option Nat
  /-- The encoded size of a response, zero when it cannot be encoded. -/
  responseSize : CanonicalResponse → Nat

abbrev Records := Map CacheKey CacheRecord

/-- The counters that a store reports. -/
structure CacheStoreStats where
  entries : Nat
  weightedSize : Nat
  hits : Nat
  misses : Nat
  conflicts : Nat
  evictions : Nat

/-- The records and counters behind the lock. -/
structure State where
  records : Records
  stats : CacheStoreStats
  shuttingDown : Bool
  /-- The number of increments of `next_version`. -/
  nextVersion : Nat
  clock : Instant

def State.initial : State := ⟨∅, ⟨0, 0, 0, 0, 0, 0⟩, false, 0, 0⟩

def u64Max : Nat := u64Size - 1

def saturatingAdd (left right : Nat) : Nat := min (left + right) u64Max

variable (limits : Limits)

def weightedSize (key : CacheKey) (entry : CacheEntry) : Nat :=
  saturatingAdd (saturatingAdd key.encoded.length 64) (limits.responseSize entry.response)

def totalWeight (records : Records) : Nat :=
  records.entries.foldl (fun sum entry =>
    saturatingAdd sum (weightedSize limits entry.1 entry.2.entry)) 0

variable (state : State)

def refreshStats : State :=
  { state with stats := { state.stats with
    entries := state.records.entries.length
    weightedSize := totalWeight limits state.records } }

/-- The order in which records are evicted. -/
def evictedBefore (left right : Sigma fun _ : CacheKey => CacheRecord) : Bool :=
  left.2.entry.insertedAt < right.2.entry.insertedAt ||
    (left.2.entry.insertedAt == right.2.entry.insertedAt &&
      (left.2.version < right.2.version ||
        (left.2.version == right.2.version && left.1.encoded < right.1.encoded)))

/-- The record that has to go first. -/
def victim (records : Records) : Option CacheKey :=
  (records.entries.foldl (fun first entry =>
    match first with
    | none => some entry
    | some best => if evictedBefore entry best then some entry else first) none).map (·.1)

variable (key : CacheKey)

def State.evict : State :=
  { state with
    records := state.records.erase key
    stats := { state.stats with evictions := saturatingAdd state.stats.evictions 1 } }

/-- The loop of `enforce_capacity`; it runs at most once for each record. -/
def evictLoop (limits : Limits) (maxWeight : Nat) : Nat → State → State
  | 0, state => state
  | rounds + 1, state =>
    if totalWeight limits state.records ≤ maxWeight then state
    else
      match victim state.records with
      | none => state
      | some key => evictLoop limits maxWeight rounds (state.evict key)

def enforceCapacity : State :=
  match limits.maxWeight with
  | none => refreshStats limits state
  | some maxWeight => refreshStats limits
      (evictLoop limits maxWeight state.records.entries.length state)

inductive Action where
  | get (key : CacheKey) (deadline : Deadline)
  | compareAndSwap (call : SwapCall) (deadline : Deadline)
  | invalidate (scope : CacheInvalidation) (deadline : Deadline)
  | shutdown
  | tick (duration : Duration)

inductive Answer where
  | got (result : Except PortErrorClass (Option CacheRecord))
  | swapped (result : Except PortErrorClass CacheWriteOutcome)
  | invalidated (result : Except PortErrorClass Nat)
  | done

def State.countHit : State :=
  { state with stats := { state.stats with hits := saturatingAdd state.stats.hits 1 } }

def State.countMiss : State :=
  { state with stats := { state.stats with misses := saturatingAdd state.stats.misses 1 } }

/-- `get` under the lock: only answerable records count as hits. -/
def get : State × Option CacheRecord :=
  match state.records.lookup key with
  | none => (state.countMiss, none)
  | some record =>
    if record.isVisible state.clock then
      if record.isAnswerable state.clock then (state.countHit, some record)
      else (state.countMiss, some record)
    else
      (refreshStats limits { state with records := state.records.erase key }.countMiss, none)

/-- A record out of retention is removed before a write looks at its key. -/
def dropEnded : State :=
  if (state.records.lookup key).any fun record => !record.isVisible state.clock then
    refreshStats limits { state with records := state.records.erase key }
  else state

/-- `compare_and_swap` under the lock. -/
def compareAndSwap (call : SwapCall) : State × Except PortErrorClass CacheWriteOutcome :=
  let state := dropEnded limits state call.key
  let current := state.records.lookup call.key
  if ¬ call.condition.holds (current.map (·.version)) then
    ({ state with stats := { state.stats with
        conflicts := saturatingAdd state.stats.conflicts 1 } },
      .ok (.conflict (current.map (·.version))))
  else if current.any fun record =>
      decide (call.entry.quality.rank < record.entry.quality.rank) &&
        record.isFresh state.clock then
    (state, .ok .rejectedQuality)
  else if limits.maxWeight.any fun limit =>
      decide (limit < weightedSize limits call.key call.entry) then
    (state, .error .resourceExhausted)
  else
    let version := UInt64.ofNat (state.nextVersion + 1)
    let outcome := if current.isSome then replaced version
      else inserted version
    (enforceCapacity limits { state with
        nextVersion := state.nextVersion + 1
        records := state.records.insert call.key ⟨version, call.entry⟩ },
      .ok outcome)

/-- `invalidate` under the lock. -/
def invalidate (scope : CacheInvalidation) : State × Nat :=
  let records := state.records.retain fun key record => !scope.matches key record.entry
  (refreshStats limits { state with records },
    state.records.entries.length - records.entries.length)

def step : Action → Option (State × Answer)
  | .get key deadline =>
    if deadline.isExpired state.clock then some (state, .got (.error .timeout))
    else if state.shuttingDown then some (state, .got (.error .unavailable))
    else
      let (next, record) := get limits state key
      some (next, .got (.ok record))
  | .compareAndSwap call deadline =>
    if deadline.isExpired state.clock then some (state, .swapped (.error .timeout))
    else if state.shuttingDown then some (state, .swapped (.error .unavailable))
    else
      let (next, result) := compareAndSwap limits state call
      some (next, .swapped result)
  | .invalidate scope deadline =>
    if deadline.isExpired state.clock then some (state, .invalidated (.error .timeout))
    else if state.shuttingDown then some (state, .invalidated (.error .unavailable))
    else
      let (next, removed) := invalidate limits state scope
      some (next, .invalidated (.ok removed))
  | .shutdown => some (refreshStats limits { state with shuttingDown := true, records := ∅ }, .done)
  | .tick duration => some ({ state with clock := state.clock + duration }, .done)

def State.visible : Option CacheRecord :=
  (state.records.lookup key).filter (·.isVisible state.clock)

/-- The memory store as a store of conditional writes. -/
def system : StoreSystem where
  State := State
  Action := Action
  Answer := Answer
  step := step limits
  initial := .initial
  clock := State.clock
  visible := State.visible
  counter := State.nextVersion
  call
    | .compareAndSwap call _ => some call
    | _ => none
  result
    | .swapped result => some result
    | _ => none

section Steps

variable {limits : Limits} {state : State} {key other : CacheKey} {record : CacheRecord}
  {next : State}

theorem visible_eq_some_iff : state.visible key = some record ↔
    state.records.lookup key = some record ∧ record.isVisible state.clock = true := by
  rw [State.visible, filter_eq_some_iff]

/-- Removing records makes nothing visible. -/
theorem visible_of_fewer (same_clock : next.clock = state.clock)
    (fewer : ∀ key record, next.records.lookup key = some record →
      state.records.lookup key = some record)
    (seen : next.visible key = some record) : state.visible key = some record := by
  obtain ⟨found, visible⟩ := visible_eq_some_iff.mp seen
  exact visible_eq_some_iff.mpr ⟨fewer key record found, same_clock ▸ visible⟩

/-- What the eviction of a record from a store that is too heavy keeps, `enforceCapacity` keeps. -/
theorem enforceCapacity_rule {motive : State → Prop} (keeps : ∀ maxWeight ∈ limits.maxWeight,
      ∀ state key, maxWeight < totalWeight limits state.records →
        victim state.records = some key → motive state → motive (state.evict key))
    (refreshed : ∀ state, motive state → motive (refreshStats limits state))
    (start : motive state) : motive (enforceCapacity limits state) := by
  unfold enforceCapacity
  split
  · exact refreshed state start
  · next maxWeight limited =>
    refine refreshed _ ?_
    generalize state.records.entries.length = rounds
    induction rounds generalizing state with
    | zero => exact start
    | succ rounds induction =>
      rw [evictLoop]
      split
      · exact start
      · next heavy =>
        split
        · exact start
        · next key chosen =>
          exact induction (keeps maxWeight limited state key (Nat.lt_of_not_le heavy) chosen start)

theorem lookup_of_enforceCapacity {state : State}
    (found : (enforceCapacity limits state).records.lookup key = some record) :
    state.records.lookup key = some record :=
  enforceCapacity_rule (motive := fun next => next.records.lookup key = some record →
      state.records.lookup key = some record)
    (fun _ _ _ _ _ _ kept later => kept (lookup_of_lookup_erase later))
    (fun _ kept => kept) id found

variable (limits state key)

theorem enforceCapacity_clock : (enforceCapacity limits state).clock = state.clock :=
  enforceCapacity_rule (motive := (·.clock = state.clock)) (fun _ _ _ _ _ _ same => same)
    (fun _ same => same) rfl

theorem enforceCapacity_nextVersion :
    (enforceCapacity limits state).nextVersion = state.nextVersion :=
  enforceCapacity_rule (motive := (·.nextVersion = state.nextVersion))
    (fun _ _ _ _ _ _ same => same) (fun _ same => same) rfl

/-- A record that was out of retention was not visible before its removal. -/
theorem visible_dropEnded : (dropEnded limits state key).visible = state.visible := by
  unfold dropEnded
  split
  · next ended =>
    funext other
    exact filter_lookup_erase ended other
  · rfl

theorem lookup_dropEnded : (dropEnded limits state key).records.lookup key = state.visible key := by
  unfold dropEnded
  split
  · next ended =>
    have seen : (state.records.erase key).lookup key = none := lookup_erase _ _
    have hidden := filter_lookup_erase ended key
    rw [seen, filter_none] at hidden
    rw [State.visible, ← hidden]
    exact seen
  · next kept =>
    rw [State.visible, filter_lookup_of_any_eq_false (Bool.eq_false_iff.mpr kept)]

theorem dropEnded_clock : (dropEnded limits state key).clock = state.clock := by
  unfold dropEnded
  split <;> rfl

theorem dropEnded_nextVersion : (dropEnded limits state key).nextVersion = state.nextVersion := by
  unfold dropEnded
  split <;> rfl

variable {limits state key}

/-- The effect of a conditional write that holds the lock. -/
theorem compareAndSwap_effect {call : SwapCall} {deadline : Deadline}
    {result : Except PortErrorClass CacheWriteOutcome}
    (swapped : compareAndSwap limits state call = (next, result)) :
    (system limits).Effect state (.compareAndSwap call deadline) next (.swapped result) := by
  have seen := visible_dropEnded limits state call.key
  have current := lookup_dropEnded limits state call.key
  have clock := dropEnded_clock limits state call.key
  have version := dropEnded_nextVersion limits state call.key
  unfold compareAndSwap at swapped
  generalize dropEnded limits state call.key = dropped at swapped seen current clock version
  dsimp only at swapped
  split at swapped
  · cases swapped
    exact .refused call rfl rfl version seen
  · next condition =>
    split at swapped
    · cases swapped
      exact .refused call rfl rfl version seen
    · next quality =>
      split at swapped <;> cases swapped
      · exact .refused call rfl rfl version seen
      · rw [current, not_not] at condition
        rw [current, clock] at quality
        refine .stored call (UInt64.ofNat (dropped.nextVersion + 1)) rfl ?_ ⟨condition, ?_⟩
          (congrArg (fun number => UInt64.ofNat (number + 1)) version) ?_ ?_
        · simp only [StoreSystem.assigned, system]
          split <;> simp_all [assigned]
        · intro record found fresh
          have found : state.visible call.key = some record := found
          have fresh : record.isFresh state.clock = true := fresh
          rw [found] at quality
          simpa [fresh] using quality
        · exact (enforceCapacity_nextVersion limits _).trans (congrArg (· + 1) version)
        · intro key record after
          obtain ⟨found, visible⟩ := visible_eq_some_iff.mp after
          have stored := lookup_of_enforceCapacity found
          rw [lookup_insert_eq_ite] at stored
          rw [enforceCapacity_clock] at visible
          split at stored
          · next same => exact .inl ⟨same, (some.inj stored).symm⟩
          · next different =>
            refine .inr ⟨different, ?_⟩
            have before : dropped.visible key = some record :=
              visible_eq_some_iff.mpr ⟨stored, visible⟩
            rw [seen] at before
            exact before

/-- Time only hides records. -/
theorem visible_of_later {duration : Duration}
    (seen : { state with clock := state.clock + duration }.visible key = some record) :
    state.visible key = some record := by
  obtain ⟨found, visible⟩ := visible_eq_some_iff.mp seen
  refine visible_eq_some_iff.mpr ⟨found, ?_⟩
  simp only [CacheRecord.isVisible, decide_eq_true_eq] at visible ⊢
  exact Nat.lt_of_le_of_lt (Nat.le_add_right _ _) visible

/-- Reading removes at most a record out of retention. -/
theorem get_spec (limits : Limits) (state : State) (key : CacheKey) :
    (get limits state key).1.nextVersion = state.nextVersion ∧
    (get limits state key).1.clock = state.clock ∧
    ∀ other record, (get limits state key).1.records.lookup other = some record →
      state.records.lookup other = some record := by
  unfold get
  split
  · exact ⟨rfl, rfl, fun _ _ found => found⟩
  · split
    · split <;> exact ⟨rfl, rfl, fun _ _ found => found⟩
    · exact ⟨rfl, rfl, fun _ _ found => lookup_of_lookup_erase found⟩

theorem step_effect {action : Action} {answer : Answer}
    (taken : step limits state action = some (next, answer)) :
    (system limits).Effect state action next answer := by
  have unchanged : (system limits).call action = none →
      (system limits).Effect state action state answer := fun no_call =>
    .other no_call (Nat.le_refl _) fun _ _ seen => seen
  cases action with simp only [step] at taken
  | get key deadline =>
    split at taken
    · cases taken; exact unchanged rfl
    · split at taken
      · cases taken; exact unchanged rfl
      · cases taken
        obtain ⟨version, clock, fewer⟩ := get_spec limits state key
        exact .other rfl (Nat.le_of_eq version.symm) fun _ _ seen =>
          visible_of_fewer clock fewer seen
  | compareAndSwap call deadline =>
    split at taken
    · cases taken; exact .refused call rfl rfl rfl rfl
    · split at taken
      · cases taken; exact .refused call rfl rfl rfl rfl
      · cases taken; exact compareAndSwap_effect rfl
  | invalidate scope deadline =>
    split at taken
    · cases taken; exact unchanged rfl
    · split at taken
      · cases taken; exact unchanged rfl
      · cases taken
        refine .other rfl (Nat.le_refl _) fun key record seen =>
          visible_of_fewer (by rfl) (fun other stored found => ?_) seen
        have kept : (state.records.retain fun key record =>
            !scope.matches key record.entry).lookup other = some stored := found
        rw [lookup_retain, filter_eq_some_iff] at kept
        exact kept.1
  | shutdown =>
    cases taken
    refine .other rfl (Nat.le_refl _) fun key record seen => ?_
    have cleared : ((∅ : Records).lookup key).filter (·.isVisible state.clock) = some record := seen
    cases cleared
  | tick duration =>
    cases taken
    exact .other rfl (Nat.le_refl _) fun _ _ seen => visible_of_later seen

end Steps

/-- The memory store meets the specification of conditional writes. -/
def specified (limits : Limits) : (system limits).Specified where
  invariant _ := True
  initially := trivial
  preserved _ _ _ _ _ _ := trivial
  empty _ := rfl
  effect _ _ _ _ _ taken := step_effect taken

end FluxDns.Cache.Memory
