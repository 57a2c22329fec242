import FluxDns.Runtime.Drain

/-!
# A drained runtime stays drained

The counter is the number of guards and of unfinished increments.  Once it was zero while the
runtime drained no guard is granted any more, and a waiter that sleeps while the counter is zero is
owed a notification by the drop that took it there.
-/

namespace FluxDns.Runtime.Drain

open Execution AList Request Option World

variable {world next : World} {id : Nat} {action : Action} {answer : Answer}

/-- The steps of the system, one case for each way a step can go. -/
inductive Effect (world : World) : Action → World → Answer → Prop where
  | began {id : Nat} (fresh : world.requests.lookup id = none) :
      Effect world (.acquire id) (world.setRequest id (.loaded world.active)) .running
  | turnedAway {id observed : Nat} {error : AdmissionError}
      (found : world.requests.lookup id = some (.loaded observed)) :
      Effect world (.checkDraining id) (world.endRequest id) (.refused error)
  | checked {id observed : Nat} (found : world.requests.lookup id = some (.loaded observed))
      (room : observed ≠ usizeMax) :
      Effect world (.checkDraining id) (world.setRequest id (.checked observed)) .running
  | exchanged {id : Nat} {spurious : Bool}
      (found : world.requests.lookup id = some (.checked world.active)) :
      Effect world (.exchange id spurious)
        ({ world with active := world.active + 1 }.setRequest id .incremented) .running
  | retried {id observed : Nat} {spurious : Bool}
      (found : world.requests.lookup id = some (.checked observed)) :
      Effect world (.exchange id spurious) (world.setRequest id (.loaded world.active)) .running
  | refused {id : Nat} (found : world.requests.lookup id = some .incremented)
      (draining : world.draining = true) :
      Effect world (.recheckDraining id) (world.setRequest id .undoing) (.refused .draining)
  | granted {id : Nat} (found : world.requests.lookup id = some .incremented)
      (open_ : world.draining = false) :
      Effect world (.recheckDraining id) (world.setRequest id .outstanding) .granted
  | released {id : Nat} {request : Request} (found : world.requests.lookup id = some request)
      (held : request = .undoing ∨ request = .outstanding) :
      Effect world (.release id) (world.release id) .done
  | notified {id : Nat} (found : world.requests.lookup id = some .notifying) :
      Effect world (.notify id) (world.notify.endRequest id) .done
  | drainBegun (open_ : world.draining = false) :
      Effect world .beginDrain { world with draining := true, announcing := true }
        (.drainBegun true)
  | drainAgain : Effect world .beginDrain world (.drainBegun false)
  | announced : Effect world .announce world.announce .done
  | observed : Effect world .activeRequests world (.observed world.active)
  | waits {id : Nat} (fresh : world.waiters.lookup id = none) :
      Effect world (.waitForDrain id) (world.setWaiter id .looking) .running
  | sawZero {id : Nat} {action : Action}
      (own : action = .checkActive id ∨ action = .recheckActive id)
      (awake : ∀ notified, world.waiters.lookup id ≠ some (.waiting notified))
      (zero : world.active = 0) : Effect world action (world.endWaiter id) (.waited true)
  | registers {id : Nat} (awake : ∀ notified, world.waiters.lookup id ≠ some (.waiting notified)) :
      Effect world (.checkActive id) (world.setWaiter id .registering) .running
  | registered {id : Nat} (awake : ∀ notified, world.waiters.lookup id ≠ some (.waiting notified)) :
      Effect world (.register id) (world.setWaiter id (.registered false)) .running
  | sleeps {id : Nat} {notified : Bool}
      (awake : ∀ notified, world.waiters.lookup id ≠ some (.waiting notified))
      (busy : world.active ≠ 0) :
      Effect world (.recheckActive id) (world.setWaiter id (.waiting notified)) .running
  | resumed {id : Nat} : Effect world (.resume id) (world.setWaiter id .looking) .running
  | expired {id : Nat} : Effect world (.expire id) (world.endWaiter id) (.waited false)
  | retires {id : Nat} (fresh : world.retirements.lookup id = none) :
      Effect world (.waitForRetirement id)
        { world with retirements := world.retirements.insert id (.registered false) } .running
  | idles {id : Nat} {notified : Bool} (open_ : world.draining = false) :
      Effect world (.checkRetirement id)
        { world with retirements := world.retirements.insert id (.waiting notified) } .running
  | retired {id : Nat} {action : Action}
      (own : action = .checkRetirement id ∨ action = .retire id) :
      Effect world action { world with retirements := world.retirements.erase id } .done

theorem stepRequest_effect {request : Request} (found : world.requests.lookup id = some request)
    (own : action = .checkDraining id ∨ (∃ spurious, action = .exchange id spurious) ∨ action =
      .recheckDraining id ∨ action = .release id ∨ action = .notify id)
    (taken : stepRequest world id request action = some (next, answer)) :
    Effect world action next answer := by
  obtain rfl | ⟨spurious, rfl⟩ | rfl | rfl | rfl := own
  all_goals
    cases request <;> simp only [stepRequest, reduceCtorEq, some.injEq] at taken
  case inl.loaded observed =>
    split at taken
    · cases taken; exact .turnedAway found
    · split at taken
      · cases taken; exact .turnedAway found
      · next room => cases taken; exact .checked found room
  case inr.inl.checked observed =>
    split at taken
    · next same => cases taken; exact .exchanged (same.1 ▸ found)
    · cases taken; exact .retried found
  case inr.inr.inl.incremented =>
    split at taken
    · next draining => cases taken; exact .refused found draining
    · next open_ => cases taken; exact .granted found (Bool.eq_false_iff.mpr open_)
  case inr.inr.inr.inl.undoing => cases taken; exact .released found (.inl rfl)
  case inr.inr.inr.inl.outstanding => cases taken; exact .released found (.inr rfl)
  case inr.inr.inr.inr.notifying => cases taken; exact .notified found

theorem stepWaiter_effect {waiter : Waiter} (found : world.waiters.lookup id = some waiter)
    (own : action = .checkActive id ∨ action = .register id ∨ action = .recheckActive id ∨ action =
      .resume id ∨ action = .expire id)
    (taken : stepWaiter world id waiter action = some (next, answer)) :
    Effect world action next answer := by
  obtain rfl | rfl | rfl | rfl | rfl := own
  all_goals
    cases waiter <;> simp only [stepWaiter, reduceCtorEq, some.injEq] at taken
  case inl.looking =>
    split at taken
    · next zero => cases taken; exact .sawZero (.inl rfl) (by simp [found]) zero
    · cases taken; exact .registers (by simp [found])
  case inr.inl.registering => cases taken; exact .registered (by simp [found])
  case inr.inr.inl.registered notified =>
    split at taken
    · next zero => cases taken; exact .sawZero (.inr rfl) (by simp [found]) zero
    · next busy => cases taken; exact .sleeps (by simp [found]) busy
  case inr.inr.inr.inl.waiting notified =>
    cases notified <;> cases taken
    exact .resumed
  case inr.inr.inr.inr.waiting notified => cases taken; exact .expired

theorem stepRetirement_effect {retirement : Retirement}
    (own : action = .checkRetirement id ∨ action = .retire id)
    (taken : stepRetirement world id retirement action = some (next, answer)) :
    Effect world action next answer := by
  obtain rfl | rfl := own
  · cases retirement <;> simp only [stepRetirement, reduceCtorEq] at taken
    split at taken
    · cases taken; exact .retired (.inl rfl)
    · next open_ => cases taken; exact .idles (Bool.eq_false_iff.mpr open_)
  · cases retirement <;> simp only [stepRetirement, reduceCtorEq] at taken
    next notified =>
    cases notified <;> cases taken
    exact .retired (.inr rfl)

theorem step_effect (taken : step world action = some (next, answer)) :
    Effect world action next answer := by
  cases action with simp only [step] at taken
  | acquire id =>
    split at taken <;> cases taken
    next absent => exact .began (not_isSome_iff_eq_none.mp absent)
  | checkDraining id | exchange id spurious | recheckDraining id | release id | notify id =>
    obtain ⟨request, found, moved⟩ := bind_eq_some_iff.mp taken
    exact stepRequest_effect found (by simp) moved
  | beginDrain =>
    split at taken
    · cases taken; exact .drainAgain
    · next open_ => cases taken; exact .drainBegun (Bool.eq_false_iff.mpr open_)
  | announce =>
    split at taken
    · cases taken; exact .announced
    · cases taken
  | activeRequests => cases taken; exact .observed
  | waitForDrain id =>
    split at taken <;> cases taken
    next absent => exact .waits (not_isSome_iff_eq_none.mp absent)
  | checkActive id | register id | recheckActive id | resume id | expire id =>
    obtain ⟨waiter, found, moved⟩ := bind_eq_some_iff.mp taken
    exact stepWaiter_effect found (by simp) moved
  | waitForRetirement id =>
    split at taken <;> cases taken
    next absent => exact .retires (not_isSome_iff_eq_none.mp absent)
  | checkRetirement id | retire id =>
    obtain ⟨retirement, -, moved⟩ := bind_eq_some_iff.mp taken
    exact stepRetirement_effect (by simp) moved

/-- What holds between any two steps. -/
structure Invariant (world : World) : Prop where
  balanced : world.active =
    world.requests.count isGuard + world.requests.count isUnfinished
  bounded : world.active ≤ usizeMax
  room : ∀ id observed, world.requests.lookup id = some (.checked observed) → observed ≠ usizeMax
  /-- A waiter sleeps at zero only while a notification is on its way. -/
  owed : ∀ id, world.active = 0 → world.waiters.lookup id = some (.waiting false) →
    ∃ drop, world.requests.lookup drop = some .notifying

theorem invariant_initial : Invariant initial where
  balanced := rfl
  bounded := Nat.zero_le _
  room _ _ found := by cases found
  owed _ _ found := by cases found

section Requests

variable {world : World} {id : Nat} {old request : Request}
  {requests others : Map Nat Request}

theorem counted_insert (found : requests.lookup id = some old) (request : Request) :
    (requests.insert id request).count isGuard +
        (requests.insert id request).count isUnfinished +
        (if old.isGuard || old.isUnfinished then 1 else 0) =
      requests.count isGuard + requests.count isUnfinished +
        if request.isGuard || request.isUnfinished then 1 else 0 := by
  have guards := count_insert_add found isGuard request
  have unfinished := count_insert_add found isUnfinished request
  cases old <;> cases request <;> simp_all [isGuard, isUnfinished] <;> omega

theorem counted_erase (found : requests.lookup id = some old) :
    requests.count isGuard + requests.count isUnfinished =
      (requests.erase id).count isGuard + (requests.erase id).count isUnfinished +
        if old.isGuard || old.isUnfinished then 1 else 0 := by
  have guards := count_erase found isGuard
  have unfinished := count_erase found isUnfinished
  cases old <;> simp_all [isGuard, isUnfinished] <;> omega

/-- A notification stays on its way while another request moves. -/
theorem owing_of_ne (same : ∀ other, other ≠ id → others.lookup other = requests.lookup other)
    (not_owing : requests.lookup id ≠ some .notifying) :
    (∃ drop, requests.lookup drop = some .notifying) →
      ∃ drop, others.lookup drop = some .notifying := by
  rintro ⟨drop, owing⟩
  refine ⟨drop, (same drop ?_).trans owing⟩
  rintro rfl
  exact not_owing owing

variable (inv : Invariant world)

include inv

theorem Invariant.room_insert
    (room : ∀ observed, request = .checked observed → observed ≠ usizeMax) (other observed : Nat)
    (found : (world.requests.insert id request).lookup other = some (.checked observed)) :
    observed ≠ usizeMax := by
  rw [lookup_insert_eq_ite] at found
  split at found
  · exact room observed (some.inj found)
  · exact inv.room other observed found

theorem Invariant.room_erase (other observed : Nat)
    (found : (world.requests.erase id).lookup other = some (.checked observed)) :
    observed ≠ usizeMax := by
  rw [lookup_erase_eq_ite] at found
  split_ifs at found
  exact inv.room other observed found

/-- A request moves on without touching the counter. -/
theorem Invariant.setRequest (found : world.requests.lookup id = some old)
    (counted : (old.isGuard || old.isUnfinished) = (request.isGuard || request.isUnfinished))
    (room : ∀ observed, request = .checked observed → observed ≠ usizeMax)
    (not_owing : old ≠ .notifying) : Invariant (world.setRequest id request) where
  balanced := by
    have moved := counted_insert found request
    rw [counted] at moved
    exact inv.balanced.trans (Nat.add_right_cancel moved).symm
  bounded := inv.bounded
  room := inv.room_insert room
  owed waiter zero sleeping := owing_of_ne (fun _ => lookup_insert_ne)
    (by simp [found, not_owing]) (inv.owed waiter zero sleeping)

theorem Invariant.endRequest (found : world.requests.lookup id = some old)
    (uncounted : (old.isGuard || old.isUnfinished) = false)
    (not_owing : old ≠ .notifying ∨ ∀ id, world.waiters.lookup id ≠ some (.waiting false)) :
    Invariant (world.endRequest id) where
  balanced := by
    have ended := counted_erase found
    rw [uncounted] at ended
    exact inv.balanced.trans ended
  bounded := inv.bounded
  room := inv.room_erase
  owed waiter zero sleeping := by
    obtain not_owing | awake := not_owing
    · exact owing_of_ne (fun _ => lookup_erase_ne) (by simp [found, not_owing])
        (inv.owed waiter zero sleeping)
    · exact absurd sleeping (awake waiter)

theorem Invariant.began (fresh : world.requests.lookup id = none) (observed : Nat) : Invariant
    (world.setRequest id (.loaded observed)) where
  balanced := by
    have absent : id ∉ world.requests := lookup_eq_none.mp fresh
    simp only [World.setRequest, count_insert_of_notMem absent, inv.balanced]
    rfl
  bounded := inv.bounded
  room := inv.room_insert (by simp)
  owed waiter zero sleeping := owing_of_ne (fun _ => lookup_insert_ne) (by simp [fresh])
    (inv.owed waiter zero sleeping)

/-- The counter and the increment of the call change together. -/
theorem Invariant.exchanged (found : world.requests.lookup id = some (.checked world.active)) :
    Invariant ({ world with active := world.active + 1 }.setRequest id .incremented) where
  balanced := (congrArg (· + 1) inv.balanced).trans (counted_insert found .incremented).symm
  bounded := Nat.lt_of_le_of_ne inv.bounded (inv.room id world.active found)
  room := inv.room_insert (by simp)
  owed _ zero _ := by cases zero

/-- A drop gives the increment back, and the last one owes a notification. -/
theorem Invariant.released (found : world.requests.lookup id = some request)
    (held : request = .undoing ∨ request = .outstanding) : Invariant (world.release id) := by
  have balanced := inv.balanced
  have bounded := inv.bounded
  have counted : (request.isGuard || request.isUnfinished) = true := by
    obtain rfl | rfl := held <;> rfl
  unfold release
  split
  · next last =>
    have moved := counted_insert found .notifying
    rw [counted] at moved
    refine ⟨?_, ?_, inv.room_insert (by simp), fun _ _ _ => ⟨id, by simp [World.setRequest]⟩⟩
    · simp only [World.setRequest]
      simp only [isGuard, isUnfinished, Bool.or_self, Bool.false_eq_true, if_false,
        if_true] at moved
      omega
    · simp only [World.setRequest]
      omega
  · next more =>
    have ended := counted_erase found
    rw [counted, if_pos rfl] at ended
    refine ⟨?_, ?_, inv.room_erase, fun _ zero _ => ?_⟩ <;> simp only [World.endRequest] at *
    · omega
    · omega
    · -- The counter was at least two.
      omega

end Requests

section Waiters

variable {world : World} {id : Nat}

theorem lookup_notify_ne_sleeping (world : World) (id : Nat) :
    world.notify.waiters.lookup id ≠ some (.waiting false) := by
  rw [notify, lookup_mapValues]
  cases world.waiters.lookup id with
  | none => simp
  | some waiter => cases waiter <;> simp [Waiter.wake]

theorem lookup_notify_waiting {notified : Bool}
    (waits : world.waiters.lookup id = some (.waiting notified)) :
    world.notify.waiters.lookup id = some (.waiting true) := by
  simp [notify, waits, Waiter.wake]

theorem Invariant.notify (inv : Invariant world) : Invariant world.notify :=
  { inv with owed := fun id _ sleeping => absurd sleeping (lookup_notify_ne_sleeping world id) }

theorem Invariant.setWaiter (inv : Invariant world) {waiter : Waiter}
    (busy : waiter = .waiting false → world.active ≠ 0) :
    Invariant (world.setWaiter id waiter) := by
  refine { inv with owed := fun other zero sleeping => ?_ }
  simp only [World.setWaiter, lookup_insert_eq_ite] at sleeping
  split at sleeping
  · exact absurd zero (busy (some.inj sleeping))
  · exact inv.owed other zero sleeping

theorem Invariant.endWaiter (inv : Invariant world) : Invariant (world.endWaiter id) := by
  refine { inv with owed := fun other zero sleeping => ?_ }
  simp only [World.endWaiter, lookup_erase_eq_ite] at sleeping
  split at sleeping
  · cases sleeping
  · exact inv.owed other zero sleeping

end Waiters

theorem invariant_preserved : Preserves step Invariant := by
  intro world action next answer inv taken
  have same : ∀ draining retirements announcing,
      Invariant { world with draining, retirements, announcing } := fun _ _ _ =>
    { inv with }
  cases step_effect taken with
  | began fresh => exact inv.began fresh _
  | turnedAway found => exact inv.endRequest found rfl (.inl (by simp))
  | checked found room =>
    refine inv.setRequest found rfl ?_ (by simp)
    rintro observed ⟨⟩
    exact room
  | exchanged found => exact inv.exchanged found
  | retried found => exact inv.setRequest found rfl (by simp) (by simp)
  | refused found | granted found => exact inv.setRequest found rfl (by simp) (by simp)
  | released found held => exact inv.released found held
  | notified found =>
    exact inv.notify.endRequest found rfl (.inr (lookup_notify_ne_sleeping world))
  | drainBegun | announced | retires | idles | retired => exact same _ _ _
  | drainAgain | observed => exact inv
  | waits | registers | registered | resumed => exact inv.setWaiter (by simp)
  | sleeps _ busy => exact inv.setWaiter fun _ => busy
  | sawZero | expired => exact inv.endWaiter

/-- The runtime drains and no guard is left. -/
structure Closed (world : World) : Prop where
  draining : world.draining = true
  no_guard : ∀ id, world.requests.lookup id ≠ some .outstanding

theorem closed_of_zero (inv : Invariant world) (draining : world.draining = true)
    (zero : world.active = 0) : Closed world := by
  refine ⟨draining, fun id found => ?_⟩
  have counted : 0 < world.requests.count isGuard := count_pos_of_lookup found rfl
  have balanced := inv.balanced
  omega

/-- Only the second look at the flag grants a guard, and it finds the flag set. -/
theorem Closed.step (closed : Closed world) (taken : step world action = some (next, answer)) :
    Closed next ∧ answer ≠ .granted := by
  have inserted : ∀ id request, request ≠ .outstanding →
      ∀ other, (world.requests.insert id request).lookup other ≠ some .outstanding := by
    intro id request other_place other
    rw [lookup_insert_eq_ite]
    split
    · exact fun same => other_place (some.inj same)
    · exact closed.no_guard other
  have erased : ∀ id other, (world.requests.erase id).lookup other ≠ some .outstanding := by
    intro id other
    rw [lookup_erase_eq_ite]
    split
    · simp
    · exact closed.no_guard other
  cases step_effect taken with
  | began | checked | exchanged | retried | refused =>
    exact ⟨⟨closed.draining, inserted _ _ (by simp)⟩, by simp⟩
  | turnedAway | notified => exact ⟨⟨closed.draining, erased _⟩, by simp⟩
  | granted _ open_ =>
    rw [closed.draining] at open_
    cases open_
  | released =>
    refine ⟨?_, by simp⟩
    unfold release
    split
    · exact ⟨closed.draining, inserted _ _ (by simp)⟩
    · exact ⟨closed.draining, erased _⟩
  | drainBegun => exact ⟨⟨rfl, closed.no_guard⟩, by simp⟩
  | drainAgain | announced | observed | waits | sawZero | registers | registered | sleeps
  | resumed | expired | retires | idles | retired =>
    exact ⟨⟨closed.draining, closed.no_guard⟩, by simp⟩

theorem Closed.transitions (closed : Closed world) (actions : List Action) :
    ∀ move ∈ transitions Drain.step world actions,
      move.output ≠ .granted ∧ Closed move.after := by
  intro move mem
  have preserves : Preserves Drain.step Closed := fun _ _ _ _ closed taken => (closed.step taken).1
  obtain ⟨before, taken⟩ := preserves.of_mem_transitions closed mem
  exact ⟨(before.step taken).2, (before.step taken).1⟩

/-- The waiter is woken, or a notification is on its way to it. -/
def Awaited (id : Nat) (world : World) : Prop :=
  world.waiters.lookup id = some (.waiting true) ∨
    world.waiters.lookup id = some (.waiting false) ∧
      ∃ drop, world.requests.lookup drop = some .notifying

theorem Awaited.waits (awaited : Awaited id world) :
    ∃ notified, world.waiters.lookup id = some (.waiting notified) :=
  awaited.elim (fun woken => ⟨_, woken⟩) fun sleeps => ⟨_, sleeps.1⟩

theorem awaited_of_zero (inv : Invariant world) {notified : Bool} (zero : world.active = 0)
    (waits : world.waiters.lookup id = some (.waiting notified)) : Awaited id world := by
  cases notified with
  | true => exact .inl waits
  | false => exact .inr ⟨waits, inv.owed id zero waits⟩

/-- No step of another call loses the notification. -/
theorem Awaited.step (awaited : Awaited id world) (taken : step world action = some (next, answer))
    (not_resume : action ≠ .resume id) (not_expire : action ≠ .expire id) : Awaited id next := by
  have moved : ∀ (other : Nat) (request : Request) (active : Nat),
      world.requests.lookup other ≠ some .notifying →
        Awaited id ({ world with active }.setRequest other request) := by
    intro other request active not_owing
    exact awaited.imp_right fun ⟨sleeps, owing⟩ =>
      ⟨sleeps, owing_of_ne (fun _ => lookup_insert_ne) not_owing owing⟩
  have ended : ∀ other active, world.requests.lookup other ≠ some .notifying →
      Awaited id ({ world with active }.endRequest other) := by
    intro other active not_owing
    exact awaited.imp_right fun ⟨sleeps, owing⟩ =>
      ⟨sleeps, owing_of_ne (fun _ => lookup_erase_ne) not_owing owing⟩
  have elsewhere : ∀ other (waiters : Map Nat Waiter), id ≠ other →
      (id ≠ other → waiters.lookup id = world.waiters.lookup id) →
        Awaited id { world with waiters } := by
    intro other waiters different same
    rw [Awaited, same different]
    exact awaited
  have awake_ne : ∀ other, (∀ notified, world.waiters.lookup other ≠ some (.waiting notified)) →
      id ≠ other := by
    rintro other awake rfl
    obtain ⟨notified, waits⟩ := awaited.waits
    exact awake notified waits
  cases step_effect taken with
  | began fresh => exact moved _ _ _ (by simp [fresh])
  | turnedAway found => exact ended _ _ (by simp [found])
  | checked found | retried found | refused found | granted found | exchanged found =>
    exact moved _ _ _ (by simp [found])
  | @released other _ found held =>
    have not_owing : world.requests.lookup other ≠ some .notifying := by
      rw [found]
      obtain rfl | rfl := held <;> simp
    unfold release
    split
    · exact moved _ _ _ not_owing
    · exact ended _ _ not_owing
  | notified found =>
    obtain ⟨notified, waits⟩ := awaited.waits
    exact .inl (lookup_notify_waiting waits)
  | drainBegun | drainAgain | announced | observed | retires | idles | retired => exact awaited
  | waits fresh =>
    exact elsewhere _ _ (awake_ne _ (by simp [fresh])) fun different =>
      lookup_insert_ne different
  | sawZero _ awake =>
    exact elsewhere _ _ (awake_ne _ awake) fun different => lookup_erase_ne different
  | registers awake | registered awake | sleeps awake =>
    exact elsewhere _ _ (awake_ne _ awake) fun different => lookup_insert_ne different
  | resumed =>
    exact elsewhere _ _ (fun same => not_resume (by rw [same])) fun different =>
      lookup_insert_ne different
  | expired =>
    exact elsewhere _ _ (fun same => not_expire (by rw [same])) fun different =>
      lookup_erase_ne different

/-- Every drop that owes a notification gives it at some time. -/
def Fair (trace : Trace step) : Prop :=
  ∀ time drop, (trace.state time).requests.lookup drop = some .notifying →
    ∃ later, time ≤ later ∧ trace.action later = .notify drop

/-- A waiter that sleeps at zero is woken unless its deadline passes first. -/
theorem Awaited.woken {trace : Trace Drain.step} (fair : Fair trace) {start : Nat}
    (awaited : Awaited id (trace.state start)) :
    ∃ time, start ≤ time ∧ ((trace.state time).waiters.lookup id = some (.waiting true) ∨
      trace.action time = .expire id) := by
  by_contra never
  push Not at never
  obtain ⟨-, drop, owing⟩ := awaited.resolve_left (never start (Nat.le_refl _)).1
  obtain ⟨time, later, notifies⟩ := fair start drop owing
  -- Up to that notification the waiter neither ran nor timed out.
  have keeps : ∀ time, Awaited id (trace.state time) →
      ¬(trace.action time = .resume id ∨ trace.action time = .expire id) →
        Awaited id (trace.state (time + 1)) := by
    intro time awaited other
    rw [not_or] at other
    exact awaited.step (trace.taken time) other.1 other.2
  have not_own : ∀ time, start ≤ time →
      ¬(trace.action time = .resume id ∨ trace.action time = .expire id) := by
    rintro time from_start (resumes | expires)
    · have taken := trace.taken time
      rw [resumes] at taken
      obtain ⟨waiter, found, moved⟩ := bind_eq_some_iff.mp taken
      cases waiter with
      | waiting notified =>
        cases notified with
        | true => exact (never time from_start).1 found
        | false => cases moved
      | looking | registering | registered => cases moved
    · exact (never time from_start).2 expires
  have awaited : Awaited id (trace.state time) :=
    trace.holds_until keeps later awaited fun time from_start _ => not_own time from_start
  have taken := trace.taken time
  rw [notifies] at taken
  obtain ⟨notified, waits⟩ := awaited.waits
  have woken : (trace.state (time + 1)).waiters.lookup id = some (.waiting true) := by
    generalize trace.state (time + 1) = next at taken
    generalize trace.output time = answer at taken
    cases step_effect taken with
    | notified => exact lookup_notify_waiting waits
    | sawZero own | retired own => simp at own
  exact (never (time + 1) (Nat.le_succ_of_le later)).1 woken

def Answer.sawZero : Answer → Bool
  | .waited result => result
  | .observed active => active == 0
  | _ => false

/-- What `try_acquire`, the guards and the waits can rely on. -/
structure Drains (world : World) : Prop where
  counted : world.active =
    world.requests.count isGuard + world.requests.count isUnfinished
  /-- Whoever reads zero while the runtime drains has seen the last guard. -/
  closed : world.draining = true → ∀ action next answer, step world action = some (next, answer) →
    answer.sawZero = true → world.requests.count isGuard = 0 ∧
      ∀ actions, ∀ transition ∈ transitions step next actions,
        transition.output ≠ .granted ∧ transition.after.requests.count isGuard = 0
  /-- When the counter is zero while a waiter sleeps, the waiter is woken. -/
  woken : world.active = 0 → ∀ id notified,
    world.waiters.lookup id = some (.waiting notified) →
      ∀ trace : Trace step, trace.state 0 = world → Fair trace →
        ∃ time, (trace.state time).waiters.lookup id = some (.waiting true) ∨
          trace.action time = .expire id

theorem count_isGuard_eq_zero (closed : Closed world) :
    world.requests.count isGuard = 0 := by
  by_contra some_guard
  obtain ⟨id, request, found, held⟩ := exists_of_count_pos (Nat.pos_of_ne_zero some_guard)
  cases request <;> cases held
  exact closed.no_guard id found

theorem active_eq_zero_of_sawZero (taken : step world action = some (next, answer))
    (saw : answer.sawZero = true) : world.active = 0 := by
  cases step_effect taken with
  | observed => exact beq_iff_eq.mp saw
  | sawZero _ _ zero => exact zero
  | expired => cases saw
  | began | turnedAway | checked | exchanged | retried | refused | granted | released | notified
  | drainBegun | drainAgain | announced | waits | registers | registered | sleeps | resumed
  | retires | idles | retired => cases saw

/-- Admission and drain of a runtime, in every interleaving. -/
theorem drains_of_reachable {world : World} (reachable : Reachable step initial world) :
    Drains world := by
  have invariant := invariant_preserved.of_reachable invariant_initial reachable
  refine ⟨invariant.balanced, ?_, ?_⟩
  · intro draining action next answer taken saw
    have closed := closed_of_zero invariant draining (active_eq_zero_of_sawZero taken saw)
    refine ⟨count_isGuard_eq_zero closed, fun actions transition member => ?_⟩
    obtain ⟨not_granted, after⟩ := (closed.step taken).1.transitions actions transition member
    exact ⟨not_granted, count_isGuard_eq_zero after⟩
  · rintro zero id notified waits trace rfl fair
    obtain ⟨time, -, woken⟩ := (awaited_of_zero invariant zero waits).woken fair
    exact ⟨time, woken⟩

/-- One request is admitted, a waiter goes to sleep, and the guard is dropped. -/
def drainedRun : List Action :=
  [.acquire 0, .checkDraining 0, .exchange 0 false, .recheckDraining 0, .beginDrain,
    .waitForDrain 0, .checkActive 0, .register 0, .recheckActive 0, .release 0]

theorem drains_after_drainedRun :
    ∃ world, run step initial drainedRun = some world ∧ world.active = 0 ∧
      world.waiters.lookup 0 = some (.waiting false) ∧ Drains world :=
  ⟨_, rfl, rfl, rfl, drains_of_reachable ⟨drainedRun, rfl⟩⟩

end FluxDns.Runtime.Drain
