import FluxDns.Library.Execution

/-!
# Waking the snapshot worker

The periodic worker looks at the state, gives up its lock and only then begins to wait for a change.
A switch that is published and announced in between is not noticed.
-/

namespace FluxDns.Cache.SnapshotWake

open Execution

/-- The place of `run_periodic` in its loop. -/
inductive Place where
  | looking
  /-- The state lock is given up again. -/
  | looked (enabled : Bool)
  /-- A `Notified` exists, in the branch of a disabled source or beside the interval. -/
  | waiting (enabled notified : Bool)
  | writing
  | returned

/-- What decides whether the worker wakes up. -/
structure World where
  enabled : Bool
  stopped : Bool
  worker : Place
  /-- `publish_switch` has still to notify and holds the publish lock. -/
  switching : Bool
  /-- `shutdown` has still to notify. -/
  stopping : Bool

def World.started (enabled : Bool) : World := ⟨enabled, false, .looking, false, false⟩

inductive Action where
  | look
  /-- The worker creates its `Notified`. -/
  | await
  | resume
  /-- The interval ends. -/
  | elapse
  | finish
  | publishSwitch (enabled : Bool)
  | announceSwitch
  | shutdown
  | announceShutdown

variable (world : World)

def World.notifyWaiters : World :=
  match world.worker with
  | .waiting enabled _ => { world with worker := .waiting enabled true }
  | _ => world

def step (action : Action) : Option (World × Unit) :=
  match action, world.worker with
  | .look, .looking =>
    some ({ world with worker := if world.stopped then .returned else .looked world.enabled }, ())
  | .await, .looked enabled => some ({ world with worker := .waiting enabled false }, ())
  | .resume, .waiting _ true | .finish, .writing => some ({ world with worker := .looking }, ())
  | .elapse, .waiting true _ => some ({ world with worker := .writing }, ())
  | .publishSwitch enabled, _ =>
    if world.switching then none else some ({ world with enabled, switching := true }, ())
  | .announceSwitch, _ =>
    if world.switching then some ({ world.notifyWaiters with switching := false }, ()) else none
  | .shutdown, _ =>
    if world.switching then none
    else if world.stopped then some (world, ())
    else some ({ world with stopped := true, stopping := true }, ())
  | .announceShutdown, _ =>
    if world.stopping then some ({ world.notifyWaiters with stopping := false }, ()) else none
  | _, _ => none

/-- The source is enabled, and no switch has still to say so. -/
def World.Announced : Prop :=
  world.enabled = true ∧ world.stopped = false ∧ world.switching = false

/-- The worker waits for a change of a source that is enabled already. -/
def World.Stuck : Prop := world.worker = .waiting false false ∧ world.Announced

/-- The worker has seen a disabled source, which has been enabled and announced since. -/
def World.Late : Prop := world.worker = .looked false ∧ world.Announced

variable {world}

theorem worker_notifyWaiters (world : World) :
    world.notifyWaiters.worker ≠ .waiting false false := by
  unfold World.notifyWaiters
  split
  · simp
  · next other => exact other _ _

/-- Only a worker that begins to wait too late is stuck afterwards. -/
theorem stuck_of_step {action : Action} {next : World}
    (taken : step world action = some (next, ())) (stuck : next.Stuck) :
    world.Stuck ∨ action = .await ∧ world.Late := by
  obtain ⟨waiting, announced⟩ := stuck
  unfold step at taken
  split at taken
  · cases taken
    split at waiting <;> cases waiting
  · next looked =>
    cases taken
    cases waiting
    exact .inr ⟨rfl, looked, announced⟩
  · cases taken
    cases waiting
  · cases taken
    cases waiting
  · cases taken
    cases waiting
  · split at taken <;> cases taken
    cases announced.2.2
  · split at taken <;> cases taken
    exact absurd waiting (worker_notifyWaiters world)
  · split_ifs at taken <;> cases taken
    · exact .inl ⟨waiting, announced⟩
    · cases announced.2.1
  · split at taken <;> cases taken
    exact absurd waiting (worker_notifyWaiters world)
  · cases taken

/-- The worker is never left waiting for an enabled source exactly when it never begins to wait
after that source has been announced. -/
theorem worker_wakes_iff (enabled : Bool) (actions : List Action) :
    (∀ move ∈ transitions step (.started enabled) actions, ¬move.after.Stuck) ↔
      ∀ move ∈ transitions step (.started enabled) actions,
        ¬(move.action = .await ∧ move.before.Late) := by
  constructor
  · rintro free ⟨before, action, output, after⟩ mem ⟨rfl, late⟩
    obtain ⟨-, taken⟩ := forall_before_of_guarded (fun _ => True) (fun _ => True)
      (fun _ _ _ _ => trivial) trivial (fun _ _ => trivial) _ mem
    have looked : before.worker = .looked false := late.1
    simp only [step, looked] at taken
    cases taken
    exact free _ mem ⟨rfl, late.2⟩
  · intro timely
    exact forall_after_of_guarded (fun world : World => ¬world.Stuck) _
      (fun _ free taken timely stuck => (stuck_of_step taken stuck).elim free timely)
      (fun stuck => nomatch stuck.1) timely

theorem enabling_switch_unnoticed : ∃ world,
    run step (.started false) [.look, .publishSwitch true, .announceSwitch, .await] = some world ∧
      world.Stuck ∧ step world .resume = none :=
  ⟨_, rfl, ⟨rfl, rfl, rfl, rfl⟩, rfl⟩

end FluxDns.Cache.SnapshotWake
