import FluxDns.Library.Execution
import FluxDns.Cache.Entry

/-!
# The discipline of conditional writes

What the two stores have in common: a counter that gives out versions, the records that a reader
can see, and conditional writes that look at the visible record of their key.  A store whose single
steps meet the specification keeps the discipline in every run.
-/

namespace FluxDns.Cache

open Execution List Option

/-- A conditional write. -/
structure SwapCall where
  key : CacheKey
  condition : CacheCondition
  entry : CacheEntry

def CacheWriteOutcome.assigned : CacheWriteOutcome → Option UInt64
  | .inserted version | .replaced version => some version
  | .conflict _ | .rejectedQuality => none

/-- A store as a system of steps. -/
structure StoreSystem where
  State : Type
  Action : Type
  Answer : Type
  step : State → Action → Option (State × Answer)
  initial : State
  clock : State → Instant
  /-- The record of a key that a `get` would return now. -/
  visible : State → CacheKey → Option CacheRecord
  /-- The number of increments of `next_version`. -/
  counter : State → Nat
  /-- The conditional write that an action is. -/
  call : Action → Option SwapCall
  /-- The answer to a conditional write. -/
  result : Answer → Option (Except PortErrorClass CacheWriteOutcome)

namespace StoreSystem

variable (system : StoreSystem)

abbrev Step := Transition system.State system.Action system.Answer

/-- The version that a step gave out. -/
def assigned (answer : system.Answer) : Option UInt64 :=
  match system.result answer with
  | some (.ok outcome) => outcome.assigned
  | _ => none

def written (step : system.Step) : Option (CacheKey × CacheRecord) :=
  match system.call step.action, system.assigned step.output with
  | some call, some version => some (call.key, ⟨version, call.entry⟩)
  | _, _ => none

/-- A successful write was allowed to replace what it found. -/
structure Allowed (state : system.State) (call : SwapCall) : Prop where
  condition : call.condition.holds ((system.visible state call.key).map (·.version)) = true
  quality : ∀ record, system.visible state call.key = some record →
    record.isFresh (system.clock state) = true →
      record.entry.quality.rank ≤ call.entry.quality.rank

inductive Effect (before : system.State) (action : system.Action) (after : system.State)
    (answer : system.Answer) : Prop where
  | stored (call : SwapCall) (version : UInt64) (called : system.call action = some call)
      (given : system.assigned answer = some version) (allowed : system.Allowed before call)
      (next_version : version = UInt64.ofNat (system.counter before + 1))
      (counted : system.counter after = system.counter before + 1)
      (visible : ∀ key record, system.visible after key = some record →
        (key = call.key ∧ record = ⟨version, call.entry⟩) ∨
          (key ≠ call.key ∧ system.visible before key = some record))
  | refused (call : SwapCall) (called : system.call action = some call)
      (given : system.assigned answer = none)
      (counted : system.counter after = system.counter before)
      (visible : system.visible after = system.visible before)
  | other (called : system.call action = none)
      (counted : system.counter before ≤ system.counter after)
      (visible : ∀ key record, system.visible after key = some record →
        system.visible before key = some record)

/-- A store whose steps meet the specification, by means of an invariant. -/
structure Specified where
  invariant : system.State → Prop
  initially : invariant system.initial
  preserved : Preserves system.step invariant
  empty : ∀ key, system.visible system.initial key = none
  effect : ∀ before action after answer, invariant before →
    system.step before action = some (after, answer) → system.Effect before action after answer

/-- The steps of a run from the start of the store. -/
def steps (actions : List system.Action) : List system.Step :=
  transitions system.step system.initial actions

/-- The versions that the steps of a run gave out, in their order. -/
def versions (steps : List system.Step) : List UInt64 :=
  steps.filterMap fun step => (system.written step).map (·.2.version)

/-- The discipline at one conditional write of a run, after the given earlier steps. -/
structure Disciplined (earlier : List system.Step) (step : system.Step) (call : SwapCall) :
    Prop where
  /-- A write on a version finds the record that was stored with this version. -/
  on_version : ∀ version, call.condition = .version version →
    (system.assigned step.output).isSome → ∃ record,
      system.visible step.before call.key = some record ∧ record.version = version ∧
        (call.key, record) ∈ earlier.filterMap system.written
  on_absent : call.condition = .absent → (system.assigned step.output).isSome →
    system.visible step.before call.key = none
  refused : system.assigned step.output = none →
    system.visible step.after = system.visible step.before

/-- The discipline of a whole run. -/
structure KeepsDiscipline (actions : List system.Action) : Prop where
  /-- As long as the counter has not wrapped, versions increase and are not reused. -/
  increasing : (∀ step ∈ system.steps actions, system.counter step.after < u64Size) →
    (system.versions (system.steps actions)).Pairwise (· < ·)
  swaps : ∀ earlier step later call, system.steps actions = earlier ++ step :: later →
    system.call step.action = some call → system.Disciplined earlier step call
  /-- A fresh record is not replaced by one of lower quality. -/
  quality : ∀ step ∈ system.steps actions, ∀ key old new,
    system.visible step.before key = some old → system.visible step.after key = some new →
      old ≠ new → old.isFresh (system.clock step.before) = true →
        old.entry.quality.rank ≤ new.entry.quality.rank

section Runs

variable {system} {specified : system.Specified} {step : system.Step} {actions : List system.Action}
  {start : system.State}

theorem Effect.counter_le {before after : system.State} {action : system.Action}
    {answer : system.Answer} (effect : system.Effect before action after answer) :
    system.counter before ≤ system.counter after := by
  cases effect with
  | stored call version called given allowed next_version counted => omega
  | refused call called given counted => omega
  | other called counted => exact counted

/-- A step that stores nothing writes nothing. -/
theorem written_eq_none
    (unassigned : system.assigned step.output = none ∨ system.call step.action = none) :
    system.written step = none := by
  unfold written
  split
  · next call version called given => simp_all
  · rfl

theorem written_eq_some {call : SwapCall} {version : UInt64}
    (called : system.call step.action = some call)
    (given : system.assigned step.output = some version) :
    system.written step = some (call.key, ⟨version, call.entry⟩) := by
  rw [written, called, given]

theorem versions_increasing (specified : system.Specified) (inv : specified.invariant start)
    (small : ∀ step ∈ transitions system.step start actions, system.counter step.after < u64Size) :
    (system.versions (transitions system.step start actions)).Pairwise (· < ·) ∧
      ∀ version ∈ system.versions (transitions system.step start actions),
        system.counter start < version.toNat := by
  induction actions generalizing start with
  | nil => simp [transitions, versions]
  | cons action actions induction =>
    rw [transitions] at small ⊢
    split
    · simp [versions]
    · next next answer taken =>
      simp only [taken, forall_mem_cons] at small
      obtain ⟨pairwise, above⟩ := induction (specified.preserved _ _ _ _ inv taken) small.2
      have effect := specified.effect _ _ _ _ inv taken
      have grows := effect.counter_le
      cases written : system.written ⟨start, action, answer, next⟩ with
      | none =>
        rw [versions, filterMap_cons_none (by simp [written])]
        exact ⟨pairwise, fun version mem => Nat.lt_of_le_of_lt grows (above version mem)⟩
      | some entry =>
        cases effect with
        | stored call version called given allowed next_version counted =>
          have stored := (written_eq_some called given).symm.trans written
          cases stored
          have number : version.toNat = system.counter start + 1 := by
            rw [counted] at small
            rw [next_version, UInt64.toNat_ofNat']
            exact Nat.mod_eq_of_lt small.1
          have later : ∀ other ∈ system.versions (transitions system.step next actions),
              version.toNat < other.toNat := by
            intro other mem
            have bound := above other mem
            omega
          rw [versions, filterMap_cons_some (b := version) (by simp [written])]
          refine ⟨pairwise_cons.mpr ⟨?_, pairwise⟩, ?_⟩
          · exact fun other mem => UInt64.lt_iff_toNat_lt.mpr (later other mem)
          · refine forall_mem_cons.mpr ⟨by omega, fun other mem => ?_⟩
            have bound := later other mem
            omega
        | refused call called given =>
          rw [written_eq_none (.inl given)] at written
          cases written
        | other called =>
          rw [written_eq_none (.inr called)] at written
          cases written

theorem visible_written (specified : system.Specified) (inv : specified.invariant start)
    {earlier later : List system.Step}
    (split : transitions system.step start actions = earlier ++ step :: later) {key : CacheKey}
    {record : CacheRecord} (seen : system.visible step.before key = some record) :
    system.visible start key = some record ∨
      (key, record) ∈ earlier.filterMap system.written := by
  induction earlier generalizing start actions with
  | nil =>
    cases actions with
    | nil => cases split
    | cons action actions =>
      rw [transitions] at split
      split at split <;> cases split
      exact .inl seen
  | cons first earlier induction =>
    cases actions with
    | nil => cases split
    | cons action actions =>
      rw [transitions] at split
      split at split <;> try cases split
      next next answer taken =>
      rw [cons_append, cons.injEq] at split
      obtain ⟨rfl, rest⟩ := split
      obtain from_next | listed := induction (specified.preserved _ _ _ _ inv taken) rest
      · cases specified.effect _ _ _ _ inv taken with
        | stored call version called given allowed next_version counted visible =>
          obtain ⟨rfl, rfl⟩ | ⟨-, before⟩ := visible key record from_next
          · refine .inr ?_
            rw [filterMap_cons_some (written_eq_some called given)]
            exact mem_cons_self
          · exact .inl before
        | refused call called given counted visible => exact .inl (visible ▸ from_next)
        | other called counted visible => exact .inl (visible key record from_next)
      · refine .inr ?_
        rw [mem_filterMap] at listed ⊢
        obtain ⟨other, mem, same⟩ := listed
        exact ⟨other, mem_cons_of_mem _ mem, same⟩

theorem Specified.keepsDiscipline (specified : system.Specified) (actions : List system.Action) :
    system.KeepsDiscipline actions where
  increasing small := (versions_increasing specified specified.initially small).1
  swaps earlier step later call split called := by
    have mem : step ∈ system.steps actions := by simp [split]
    obtain ⟨inv, taken⟩ := specified.preserved.of_mem_transitions specified.initially mem
    have effect := specified.effect _ _ _ _ inv taken
    have success : (system.assigned step.output).isSome → system.Allowed step.before call := by
      intro assigned
      cases effect with
      | stored other version other_called given allowed =>
        rw [some.inj (called.symm.trans other_called)]
        exact allowed
      | refused other other_called given => simp [given] at assigned
      | other other_called => simp [called] at other_called
    refine ⟨fun version expected assigned => ?_, fun expected assigned => ?_, fun refused => ?_⟩
    · have holds := (success assigned).condition
      rw [expected] at holds
      cases seen : system.visible step.before call.key with
      | none => simp [seen, CacheCondition.holds] at holds
      | some record =>
        have same : record.version = version := by
          simpa [seen, CacheCondition.holds] using holds
        refine ⟨record, rfl, same, ?_⟩
        have known := visible_written specified specified.initially split seen
        exact known.resolve_left (by simp [specified.empty])
    · have holds := (success assigned).condition
      rw [expected] at holds
      simpa [CacheCondition.holds] using holds
    · cases effect with
      | stored other version other_called given => simp [given] at refused
      | refused other other_called given counted visible => exact visible
      | other other_called => simp [called] at other_called
  quality step mem key old new before after different fresh := by
    obtain ⟨inv, taken⟩ := specified.preserved.of_mem_transitions specified.initially mem
    cases specified.effect _ _ _ _ inv taken with
    | stored call version called given allowed next_version counted visible =>
      obtain ⟨rfl, rfl⟩ | ⟨-, kept⟩ := visible key new after
      · exact allowed.quality old before fresh
      · exact absurd (some.inj (before.symm.trans kept)) different
    | refused call called given counted visible =>
      rw [visible] at after
      exact absurd (some.inj (before.symm.trans after)) different
    | other called counted visible =>
      exact absurd (some.inj (before.symm.trans (visible key new after))) different

end Runs

end StoreSystem

end FluxDns.Cache
