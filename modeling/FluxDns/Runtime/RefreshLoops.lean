import FluxDns.Library.Execution
import FluxDns.Library.AssociationList
import FluxDns.Config.Identifier
import FluxDns.Resource.Schedule

/-!
# Refresh loops and hot reloads

The loops of all resources and the reloads of the service, step by step.  A loop works with the
runtime that it has loaded, while a reload merges the schedules of the current runtime into the next
one, commits it, and cancels the loops of the resources that are gone.
-/

namespace FluxDns.Runtime.RefreshLoops

open Config Resource

/-- The workers of a runtime: the schedules of its resources with automatic updates. -/
abbrev Workers := Map ConfigId ResourceSchedule

variable (runtime : Workers)

def resourceWorkerIds : List ConfigId := runtime.keys

def resourceRefreshDecision (resource : ConfigId) (now : Nat) :
    Option ResourceScheduleDecision :=
  (runtime.lookup resource).map (·.decision now)

def shutdownResourceRefresh : Workers :=
  runtime.mapValues fun _ schedule => schedule.shutdown

/-- The workers that `build_resource_workers` makes. -/
def buildResourceWorkers (resources : List (ConfigId × ResourceSchedulePolicy × Nat)) : Workers :=
  resources.foldl (fun runtime (id, policy, initialDue) =>
    runtime.insert id (.new policy initialDue)) ∅

/-- The candidate takes over the schedules of resources that are defined as before. -/
def mergeStateFrom (compatible : ConfigId → Bool) (candidate incoming : Workers) : Workers :=
  candidate.mapValues fun id schedule =>
    if compatible id then
      match incoming.lookup id with
      | some incomingSchedule => schedule.mergeStableStateFrom incomingSchedule
      | none => schedule
    else schedule

inductive TaskError where
  | cancelled
  | fatal
  deriving DecidableEq

/-- The place of a loop in its code. -/
inductive Phase where
  /-- The start gate is closed. -/
  | waiting
  | checking
  | loading
  /-- It has the runtime and has not read its decision yet. -/
  | loaded (now runtime : Nat)
  /-- It waits for the mutation gate. -/
  | due (runtime : Nat)
  | refreshing (runtime : Nat)
  /-- The refresh failed. -/
  | failed (runtime : Nat)
  | sleeping (runtime : Nat)
  | returned (error : TaskError)
  deriving DecidableEq

/-- A refresh loop of one resource. -/
structure Loop where
  resource : ConfigId
  /-- The runtime with which it was started. -/
  since : Nat
  cancelled : Bool
  phase : Phase
  deriving DecidableEq

/-- The service's record of a loop. -/
structure ResourceTask where
  resource : ConfigId
  loop : Nat

/-- Who holds the mutation gate. -/
inductive Holder where
  | loop (id : Nat)
  | reload

inductive Reload where
  | idle
  /-- The next runtime is merged and its new loops wait for the start gate. -/
  | staged (tasks : List ResourceTask) (spawned : List Nat)
  /-- The runtime is committed; these loops are still to be cancelled. -/
  | committed (tasks : List ResourceTask) (removed : List Nat)

/-- The runtimes, their loops and a reload. -/
structure World where
  /-- The runtimes in the order of their revisions; the one after the current is the candidate. -/
  runtimes : Nat → Workers
  current : Nat
  loops : Map Nat Loop
  nextLoop : Nat
  tasks : List ResourceTask
  gate : Option Holder
  reload : Reload

/-- How a refresh ends for the schedule of its resource. -/
inductive Outcome where
  | succeeded (completedAt : Nat)
  | failed (failedAt : Nat)
  | abandoned

inductive Action where
  | check (loop : Nat)
  | load (loop now : Nat)
  | decide (loop : Nat)
  /-- The loop gets the mutation gate. -/
  | begin (loop : Nat)
  /-- The refresh returns, with an error unless it was published everywhere. -/
  | finish (loop : Nat) (outcome : Outcome) (published : Bool)
  /-- The loop looks at its cancellation after a failed refresh. -/
  | react (loop : Nat)
  /-- The sleep is over. -/
  | wake (loop : Nat)
  /-- The cancellation ends the sleep. -/
  | interrupt (loop : Nat)
  | stage (resources : List (ConfigId × ResourceSchedulePolicy × Nat))
      (compatible : ConfigId → Bool)
  /-- The reload fails before its commit. -/
  | abort
  | commit
  | cancelRemoved
  /-- The service takes over the new tasks and opens the start gate. -/
  | complete

variable (world : World) (id : Nat)

def World.goto (loop : Loop) (phase : Phase) : World :=
  { world with loops := world.loops.insert id { loop with phase } }

def World.setRuntime (index : Nat) (runtime : Workers) : World :=
  { world with runtimes := Function.update world.runtimes index runtime }

def World.shutdown (loop : Loop) (index : Nat) : World :=
  (world.setRuntime index (shutdownResourceRefresh (world.runtimes index))).goto id loop
    (.returned .cancelled)

def World.decide (loop : Loop) (now index : Nat) : World :=
  match resourceRefreshDecision (world.runtimes index) loop.resource now with
  | none => world.goto id loop (.returned (if loop.cancelled then .cancelled else .fatal))
  | some (.due _ _ _) => world.goto id loop (.due index)
  | some (.waiting _ _ _) => world.goto id loop (.sleeping index)
  | some (.stopped _) => world.shutdown id loop index

def Outcome.apply (outcome : Outcome) (resource : ConfigId) (runtime : Workers) : Workers :=
  match runtime.lookup resource with
  | none => runtime
  | some schedule =>
    match outcome with
    | .succeeded completedAt => runtime.insert resource (schedule.recordSuccess completedAt)
    | .failed failedAt => runtime.insert resource (schedule.recordFailure failedAt)
    | .abandoned => runtime

def stepLoop (loop : Loop) : Action → Option World
  | .check _ =>
    match loop.phase with
    | .checking =>
      some (world.goto id loop (if loop.cancelled then .returned .cancelled else .loading))
    | _ => none
  | .load _ now =>
    match loop.phase with
    | .loading => some (world.goto id loop (.loaded now world.current))
    | _ => none
  | .decide _ =>
    match loop.phase with
    | .loaded now index => some (world.decide id loop now index)
    | _ => none
  | .begin _ =>
    match loop.phase with
    | .due index =>
      if world.gate.isSome then none
      else if world.current ≠ index then some (world.goto id loop .checking)
      else some { world.goto id loop (.refreshing index) with gate := some (.loop id) }
    | _ => none
  | .finish _ outcome published =>
    match loop.phase with
    | .refreshing index =>
      let next := world.setRuntime index (outcome.apply loop.resource (world.runtimes index))
      some { next.goto id loop (if published then .checking else .failed index) with
        gate := none }
    | _ => none
  | .react _ =>
    match loop.phase with
    | .failed index =>
      if loop.cancelled then some (world.shutdown id loop index)
      else some (world.goto id loop .checking)
    | _ => none
  | .wake _ =>
    match loop.phase with
    | .sleeping _ => some (world.goto id loop .checking)
    | _ => none
  | .interrupt _ =>
    match loop.phase with
    | .sleeping index => if loop.cancelled then some (world.shutdown id loop index) else none
    | _ => none
  | _ => none

/-- Keep the loop of a resource that has one, else spawn one that waits for the start gate. -/
def prepareResourceTask (previous : List ResourceTask) (since : Nat)
    (state : List ResourceTask × List Nat × (Map Nat Loop) × Nat)
    (resource : ConfigId) :
    List ResourceTask × List Nat × (Map Nat Loop) × Nat :=
  let (tasks, spawned, loops, nextLoop) := state
  match previous.find? (·.resource == resource) with
  | some task => (tasks ++ [task], spawned, loops, nextLoop)
  | none =>
    (tasks ++ [⟨resource, nextLoop⟩], spawned ++ [nextLoop],
      loops.insert nextLoop ⟨resource, since, false, .waiting⟩, nextLoop + 1)

def prepareResourceTasks (runtime : Workers) :
    List ResourceTask × List Nat × (Map Nat Loop) × Nat :=
  (resourceWorkerIds runtime).foldl (prepareResourceTask world.tasks (world.current + 1))
    ([], [], world.loops, world.nextLoop)

def World.stage (resources : List (ConfigId × ResourceSchedulePolicy × Nat))
    (compatible : ConfigId → Bool) : World :=
  let candidate := mergeStateFrom compatible (buildResourceWorkers resources)
    (world.runtimes world.current)
  let (tasks, spawned, loops, nextLoop) := prepareResourceTasks world candidate
  { world.setRuntime (world.current + 1) candidate with
    loops
    nextLoop
    gate := some .reload
    reload := .staged tasks spawned }

def removedLoops (previous next : List ResourceTask) : List Nat :=
  (previous.filter fun task => !next.any (·.resource == task.resource)).map (·.loop)

/-- A loop that waits for the start gate goes on. -/
def Loop.release (loop : Loop) : Loop :=
  match loop.phase with
  | .waiting => { loop with phase := .checking }
  | _ => loop

def stepReload : Action → Option World
  | .stage resources compatible =>
    match world.reload with
    | .idle => if world.gate.isSome then none else some (world.stage resources compatible)
    | _ => none
  | .abort =>
    match world.reload with
    | .staged _ spawned =>
      some { world with
        loops := spawned.foldl (fun loops id => loops.erase id) world.loops
        gate := none
        reload := .idle }
    | _ => none
  | .commit =>
    match world.reload with
    | .staged tasks _ =>
      some { world with
        current := world.current + 1
        gate := none
        reload := .committed tasks (removedLoops world.tasks tasks) }
    | _ => none
  | .cancelRemoved =>
    match world.reload with
    | .committed tasks (id :: removed) =>
      let cancelled := { world with reload := .committed tasks removed }
      match world.loops.lookup id with
      | some loop =>
        some { cancelled with loops := world.loops.insert id { loop with cancelled := true } }
      | none => some cancelled
    | _ => none
  | .complete =>
    match world.reload with
    | .committed tasks [] =>
      some { world with
        loops := world.loops.mapValues fun _ loop => loop.release
        tasks := tasks
        reload := .idle }
    | _ => none
  | _ => none

/-- The loop that takes a step. -/
def Action.loop : Action → Option Nat
  | .check id | .load id _ | .decide id | .begin id | .finish id _ _ | .react id | .wake id
  | .interrupt id => some id
  | .stage _ _ | .abort | .commit | .cancelRemoved | .complete => none

def step (action : Action) : Option (World × Unit) :=
  let next := match action.loop with
    | some id =>
      match world.loops.lookup id with
      | some loop => stepLoop world id loop action
      | none => none
    | none => stepReload world action
  next.map fun next => (next, ())

/-- The service after its start with the first runtime. -/
def World.start (resources : List (ConfigId × ResourceSchedulePolicy × Nat)) : World :=
  let runtime := buildResourceWorkers resources
  let empty : World := ⟨fun _ => runtime, 0, ∅, 0, [], none, .idle⟩
  let (tasks, _, loops, nextLoop) := (resourceWorkerIds runtime).foldl (prepareResourceTask [] 0)
    ([], [], ∅, 0)
  { empty with
    loops := loops.mapValues fun _ loop => loop.release
    nextLoop
    tasks }

end FluxDns.Runtime.RefreshLoops
