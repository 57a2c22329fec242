import Mathlib.Data.List.Basic
import Mathlib.Data.Nat.Init

/-!
# Finite executions of a partial step function

A system is given by a step function that answers an action with the next state and an output,
or with nothing when the action is not enabled.  Every scheduling choice is part of the action, so
the interleavings of a concurrent system are exactly the finite lists of actions.
-/

namespace Execution

open List

variable {State Action Output : Type*} (step : State → Action → Option (State × Output))

/-- One step that was taken: the state before it, its action, its output and the state after it. -/
structure Transition (State Action Output : Type*) where
  before : State
  action : Action
  output : Output
  after : State

/-- The state after a list of actions, when each of them is enabled in its turn. -/
def run : State → List Action → Option State
  | state, [] => some state
  | state, action :: actions =>
    match step state action with
    | none => none
    | some (next, _) => run next actions

/-- The steps taken by a list of actions, up to the first action that is not enabled. -/
def transitions : State → List Action → List (Transition State Action Output)
  | _, [] => []
  | state, action :: actions =>
    match step state action with
    | none => []
    | some (next, output) => ⟨state, action, output, next⟩ :: transitions next actions

theorem run_append (state : State) (first second : List Action) :
    run step state (first ++ second) = (run step state first).bind (run step · second) := by
  induction first generalizing state with
  | nil => rfl
  | cons action actions induction =>
    rw [cons_append, run, run]
    split
    · rfl
    · exact induction _

variable {step} {output : Output} {state next : State}

theorem run_singleton {action : Action} (taken : step state action = some (next, output)) :
    run step state [action] = some next := by
  simp only [run, taken]

theorem mem_transitions_of_run {initial : State} {actions : List Action} {action : Action}
    (reached : run step initial actions = some state)
    (taken : step state action = some (next, output)) :
    ⟨state, action, output, next⟩ ∈ transitions step initial (actions ++ [action]) := by
  induction actions generalizing initial with
  | nil =>
    cases reached
    simp [transitions, taken]
  | cons first actions induction =>
    rw [run] at reached
    split at reached <;> try cases reached
    next middle answer moved =>
    simp only [cons_append, transitions, moved]
    exact mem_cons_of_mem _ (induction reached)

theorem eq_fst_of_some {pair : State × Output} (same : some pair = some (next, output)) :
    next = pair.1 := by
  cases same
  rfl

variable (step)

/-- A state that some list of actions leads to. -/
def Reachable (initial state : State) : Prop :=
  ∃ actions, run step initial actions = some state

/-- The predicate is kept by every enabled step. -/
def Preserves (invariant : State → Prop) : Prop :=
  ∀ state action next output,
    invariant state → step state action = some (next, output) → invariant next

/-- The predicate is kept by every step that meets a guard. -/
def PreservesWhile (guard : Transition State Action Output → Prop) (inv : State → Prop) : Prop :=
  ∀ move : Transition State Action Output, inv move.before →
    step move.before move.action = some (move.after, move.output) → guard move → inv move.after

/-- An execution that never ends. -/
structure Trace where
  state : Nat → State
  action : Nat → Action
  output : Nat → Output
  taken : ∀ time, step (state time) (action time) = some (state (time + 1), output time)

section Invariants

variable {step} {inv : State → Prop}

variable {initial : State} {actions : List Action} {transition : Transition State Action Output}

theorem of_run_of_allowed (allowed : Action → Prop)
    (preserves : ∀ state action next output, inv state → allowed action →
      step state action = some (next, output) → inv next)
    {final : State} (start : inv initial) (all_allowed : ∀ action ∈ actions, allowed action)
    (finish : run step initial actions = some final) : inv final := by
  induction actions generalizing initial with
  | nil =>
    cases finish
    exact start
  | cons action actions induction =>
    rw [forall_mem_cons] at all_allowed
    rw [run] at finish
    split at finish <;> try cases finish
    rename_i next output taken
    exact induction (preserves _ _ _ _ start all_allowed.1 taken) all_allowed.2 finish

theorem Preserves.of_run (preserves : Preserves step inv) {final : State} (start : inv initial)
    (finish : run step initial actions = some final) : inv final :=
  of_run_of_allowed (fun _ => True) (fun _ _ _ _ holds _ taken => preserves _ _ _ _ holds taken)
    start (fun _ _ => trivial) finish

theorem Preserves.of_reachable (preserves : Preserves step inv)
    (start : inv initial) (reachable : Reachable step initial state) : inv state := by
  obtain ⟨actions, finish⟩ := reachable
  exact preserves.of_run start finish

/-- The steps of an execution take its own actions. -/
theorem action_mem_of_mem_transitions (mem : move ∈ transitions step initial actions) :
    move.action ∈ actions := by
  induction actions generalizing initial with
  | nil => simp [transitions] at mem
  | cons action actions induction =>
    rw [transitions] at mem
    split at mem
    · simp at mem
    · rcases mem_cons.mp mem with rfl | later
      · exact mem_cons_self
      · exact mem_cons_of_mem _ (induction later)

/-- Every step of an execution whose steps all meet a guard is taken from a state with the
predicate, when every step that meets the guard keeps it. -/
theorem forall_before_of_guarded (inv : State → Prop)
    (guard : Transition State Action Output → Prop) (preserves : PreservesWhile step guard inv)
    (start : inv initial) (guarded : ∀ move ∈ transitions step initial actions, guard move) :
    ∀ move ∈ transitions step initial actions, inv move.before ∧
      step move.before move.action = some (move.after, move.output) := by
  induction actions generalizing initial with
  | nil => simp [transitions]
  | cons action actions induction =>
    rw [transitions] at guarded ⊢
    split
    · simp
    · next next output taken =>
      simp only [taken, forall_mem_cons] at guarded ⊢
      have kept := preserves ⟨initial, action, output, next⟩ start taken guarded.1
      exact ⟨⟨start, trivial⟩, induction kept guarded.2⟩

/-- Every step of an execution is a step of the system taken from a state with the invariant. -/
theorem Preserves.of_mem_transitions (preserves : Preserves step inv)
    (start : inv initial) (mem : move ∈ transitions step initial actions) :
    inv move.before ∧
      step move.before move.action = some (move.after, move.output) :=
  forall_before_of_guarded inv (fun _ => True)
    (fun _ before taken _ => preserves _ _ _ _ before taken) start (fun _ _ => trivial) move mem

/-- A predicate kept by every step that meets a guard holds after each step of an execution whose
steps all meet it. -/
theorem forall_after_of_guarded (inv : State → Prop) (guard : Transition State Action Output → Prop)
    (preserves : PreservesWhile step guard inv) (start : inv initial)
    (guarded : ∀ move ∈ transitions step initial actions, guard move) :
    ∀ move ∈ transitions step initial actions, inv move.after := by
  intro move mem
  obtain ⟨before, taken⟩ := forall_before_of_guarded inv guard preserves start guarded move mem
  exact preserves move before taken (guarded move mem)

/-- What every guarded step keeps and holds after a step of an execution, still holds before a later
one. -/
theorem pairwise_of_stable {Index : Type*} (inv : State → Prop) (stable : Index → State → Prop)
    (guard : Transition State Action Output → Prop) (preserves : PreservesWhile step guard inv)
    (keeps : ∀ index, PreservesWhile step (fun move => inv move.before ∧ guard move) (stable index))
    (start : inv initial) (guarded : ∀ move ∈ transitions step initial actions, guard move) :
    (transitions step initial actions).Pairwise fun earlier later =>
      ∀ index, stable index earlier.after → stable index later.before := by
  induction actions generalizing initial with
  | nil => exact .nil
  | cons action actions induction =>
    rw [transitions] at guarded ⊢
    split
    · exact .nil
    · next next output taken =>
      simp only [taken, forall_mem_cons] at guarded
      have kept := preserves ⟨initial, action, output, next⟩ start taken guarded.1
      refine .cons (fun later mem index holds => ?_) (induction kept guarded.2)
      have both := forall_before_of_guarded (fun state => inv state ∧ stable index state) guard
        (fun move before taken meets => ⟨preserves move before.1 taken meets,
          keeps index move before.2 taken ⟨before.1, meets⟩⟩)
        ⟨kept, holds⟩ guarded.2
      exact (both later mem).1.2

/-- A number that a step raises by at most one stays below the number of steps. -/
theorem measure_before_lt_of_length (measure : State → Nat)
    (grows : ∀ move : Transition State Action Output,
      step move.before move.action = some (move.after, move.output) →
      measure move.after ≤ measure move.before + 1)
    (mem : move ∈ transitions step initial actions) :
    measure move.before < measure initial + actions.length := by
  induction actions generalizing initial with
  | nil => simp [transitions] at mem
  | cons action actions induction =>
    rw [transitions] at mem
    split at mem
    · simp at mem
    · next next output taken =>
      rw [length_cons]
      rcases mem_cons.mp mem with rfl | later
      · exact Nat.lt_add_of_pos_right (Nat.succ_pos _)
      · have below := induction later
        have grown := grows ⟨initial, action, output, next⟩ taken
        dsimp only at grown
        omega

theorem Trace.holds_until (trace : Trace step) {awaited : Nat → Prop}
    (keeps : ∀ time, inv (trace.state time) → ¬awaited time → inv (trace.state (time + 1)))
    {start finish : Nat} (later : start ≤ finish) (holds : inv (trace.state start))
    (not_yet : ∀ time, start ≤ time → time < finish → ¬awaited time) :
    inv (trace.state finish) := by
  induction finish, later using Nat.le_induction with
  | base => exact holds
  | succ time later induction =>
    have before := induction fun other from_start below =>
      not_yet other from_start (Nat.lt_succ_of_lt below)
    exact keeps time before (not_yet time later (Nat.lt_succ_self time))

end Invariants

end Execution
