import FluxDns.Library.Execution
import FluxDns.Library.AssociationList
import FluxDns.Time

/-!
# Admission and drain of a runtime

Requests enter a runtime by an optimistic increment that is undone when the runtime drains.  Every
atomic operation is a step of its own, so calls of `try_acquire`, guard drops, `begin_drain` and the
two waits interleave freely.
-/

namespace FluxDns.Runtime.Drain

open Execution

/-- `usize::MAX`. -/
def usizeMax : Nat := 2 ^ 64 - 1

inductive AdmissionError where
  | draining
  | capacity

/-- The place of a `try_acquire` call in its code, and of the guard after it. -/
inductive Request where
  /-- About to look at the flag, with the counter that was observed last. -/
  | loaded (observed : Nat)
  /-- The flag was clear: about to exchange the counter. -/
  | checked (observed : Nat)
  /-- The counter is incremented: about to look at the flag again. -/
  | incremented
  /-- The call is refused and about to drop its guard. -/
  | undoing
  /-- The caller owns the guard. -/
  | outstanding
  /-- A drop took the counter to zero and is about to notify. -/
  | notifying

/-- A guard that `try_acquire` returned and that is not dropped. -/
def Request.isGuard : Request → Bool
  | .outstanding => true
  | _ => false

/-- An increment that is neither undone nor handed out yet. -/
def Request.isUnfinished : Request → Bool
  | .incremented | .undoing => true
  | _ => false

/-- The place of a `wait_for_drain` call; `notified` is the state of its `Notified`. -/
inductive Waiter where
  /-- About to look at the counter. -/
  | looking
  /-- The counter was not zero: about to make a `Notified`. -/
  | registering
  /-- About to look at the counter again. -/
  | registered (notified : Bool)
  | waiting (notified : Bool)

/-- The place of a `wait_for_retirement` call. -/
inductive Retirement where
  | registered (notified : Bool)
  | waiting (notified : Bool)

/-- `AdmissionState` with the calls on it. -/
structure World where
  draining : Bool
  active : Nat
  requests : Map Nat Request
  waiters : Map Nat Waiter
  retirements : Map Nat Retirement
  /-- The `begin_drain` call that set the flag has not notified yet. -/
  announcing : Bool

def initial : World := ⟨false, 0, ∅, ∅, ∅, false⟩

inductive Action where
  /-- `try_acquire` reads the counter. -/
  | acquire (id : Nat)
  | checkDraining (id : Nat)
  /-- `compare_exchange_weak`, which may fail without a reason. -/
  | exchange (id : Nat) (spurious : Bool)
  | recheckDraining (id : Nat)
  /-- The decrement of a guard drop. -/
  | release (id : Nat)
  /-- The notification of a guard drop. -/
  | notify (id : Nat)
  | beginDrain
  /-- The notification of `begin_drain`. -/
  | announce
  | activeRequests
  | waitForDrain (id : Nat)
  | checkActive (id : Nat)
  | register (id : Nat)
  | recheckActive (id : Nat)
  /-- A notified wait goes round its loop. -/
  | resume (id : Nat)
  /-- The deadline of a wait passes. -/
  | expire (id : Nat)
  | waitForRetirement (id : Nat)
  | checkRetirement (id : Nat)
  | retire (id : Nat)
  deriving DecidableEq

inductive Answer where
  | running
  | granted
  | refused (error : AdmissionError)
  | drainBegun (changed : Bool)
  | observed (active : Nat)
  | waited (result : Bool)
  | done

def Waiter.wake : Waiter → Waiter
  | .registered _ => .registered true
  | .waiting _ => .waiting true
  | waiter => waiter

def Retirement.wake : Retirement → Retirement
  | .registered _ => .registered true
  | .waiting _ => .waiting true

namespace World

variable (world : World) (id : Nat)

def setRequest (request : Request) : World :=
  { world with requests := world.requests.insert id request }

def endRequest : World :=
  { world with requests := world.requests.erase id }

def setWaiter (waiter : Waiter) : World :=
  { world with waiters := world.waiters.insert id waiter }

def endWaiter : World := { world with waiters := world.waiters.erase id }

/-- The decrement of `RequestGuard::drop`; only the last one has to notify. -/
def release : World :=
  let next := { world with active := world.active - 1 }
  if world.active = 1 then next.setRequest id .notifying else next.endRequest id

@[simp]
theorem release_draining : (world.release id).draining = world.draining := by
  unfold release
  split <;> rfl

/-- `drained.notify_waiters`. -/
def notify : World :=
  { world with waiters := world.waiters.mapValues fun _ waiter => waiter.wake }

/-- `retiring.notify_waiters`. -/
def announce : World :=
  { world with
    announcing := false
    retirements := world.retirements.mapValues fun _ retirement => retirement.wake }

end World

variable (world : World)

/-- A step of a `try_acquire` call or of the guard that it returned. -/
def stepRequest (id : Nat) (request : Request) : Action → Option (World × Answer)
  | .checkDraining _ =>
    match request with
    | .loaded observed =>
      if world.draining then some (world.endRequest id, .refused .draining)
      else if observed = usizeMax then some (world.endRequest id, .refused .capacity)
      else some (world.setRequest id (.checked observed), .running)
    | _ => none
  | .exchange _ spurious =>
    match request with
    | .checked observed =>
      if world.active = observed ∧ spurious = false then
        some ({ world with active := world.active + 1 }.setRequest id .incremented, .running)
      else some (world.setRequest id (.loaded world.active), .running)
    | _ => none
  | .recheckDraining _ =>
    match request with
    | .incremented =>
      if world.draining then some (world.setRequest id .undoing, .refused .draining)
      else some (world.setRequest id .outstanding, .granted)
    | _ => none
  | .release _ =>
    match request with
    | .undoing | .outstanding => some (world.release id, .done)
    | _ => none
  | .notify _ =>
    match request with
    | .notifying => some (world.notify.endRequest id, .done)
    | _ => none
  | _ => none

/-- A step of a `wait_for_drain` call. -/
def stepWaiter (id : Nat) (waiter : Waiter) : Action → Option (World × Answer)
  | .checkActive _ =>
    match waiter with
    | .looking =>
      if world.active = 0 then some (world.endWaiter id, .waited true)
      else some (world.setWaiter id .registering, .running)
    | _ => none
  | .register _ =>
    match waiter with
    | .registering => some (world.setWaiter id (.registered false), .running)
    | _ => none
  | .recheckActive _ =>
    match waiter with
    | .registered notified =>
      if world.active = 0 then some (world.endWaiter id, .waited true)
      else some (world.setWaiter id (.waiting notified), .running)
    | _ => none
  | .resume _ =>
    match waiter with
    | .waiting true => some (world.setWaiter id .looking, .running)
    | _ => none
  | .expire _ =>
    match waiter with
    | .waiting _ => some (world.endWaiter id, .waited false)
    | _ => none
  | _ => none

/-- A step of a `wait_for_retirement` call. -/
def stepRetirement (id : Nat) (retirement : Retirement) :
    Action → Option (World × Answer)
  | .checkRetirement _ =>
    match retirement with
    | .registered notified =>
      if world.draining then
        some ({ world with retirements := world.retirements.erase id }, .done)
      else
        some ({ world with retirements := world.retirements.insert id (.waiting notified) },
          .running)
    | _ => none
  | .retire _ =>
    match retirement with
    | .waiting true => some ({ world with retirements := world.retirements.erase id }, .done)
    | _ => none
  | _ => none

def step (action : Action) : Option (World × Answer) :=
  match action with
  | .acquire id =>
    if (world.requests.lookup id).isSome then none
    else some (world.setRequest id (.loaded world.active), .running)
  | .checkDraining id | .exchange id _ | .recheckDraining id | .release id | .notify id =>
    (world.requests.lookup id).bind fun request => stepRequest world id request action
  | .beginDrain =>
    if world.draining then some (world, .drainBegun false)
    else some ({ world with draining := true, announcing := true }, .drainBegun true)
  | .announce => if world.announcing then some (world.announce, .done) else none
  | .activeRequests => some (world, .observed world.active)
  | .waitForDrain id =>
    if (world.waiters.lookup id).isSome then none
    else some (world.setWaiter id .looking, .running)
  | .checkActive id | .register id | .recheckActive id | .resume id | .expire id =>
    (world.waiters.lookup id).bind fun waiter => stepWaiter world id waiter action
  | .waitForRetirement id =>
    if (world.retirements.lookup id).isSome then none
    else some ({ world with retirements := world.retirements.insert id (.registered false) },
      .running)
  | .checkRetirement id | .retire id =>
    (world.retirements.lookup id).bind fun retirement =>
      stepRetirement world id retirement action

end FluxDns.Runtime.Drain
