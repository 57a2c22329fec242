import FluxDns.Runtime.DrainSafety

/-!
# The runtimes that a coordinator drains

Every published runtime admits requests on its own.  The coordinator lists the runtimes that it has
to drain: an activation publishes the next runtime, lists it and the one before, and drains the
latter, while lists are pruned of runtimes that are already drained.
-/

namespace FluxDns.Runtime.Owners

open Execution Drain List Option Function Request

variable {answer : Answer} {world : World}

/-- Where the activation is that runs at the moment. -/
inductive Activation where
  | idle
  /-- The next runtime is published. -/
  | exchanged
  /-- It is also listed. -/
  | registered
  /-- The one before is listed too. -/
  | listed

/-- All runtimes and the coordinator. -/
structure World where
  /-- The runtimes by their generation. -/
  runtimes : Nat → Drain.World
  current : Nat
  owners : List Nat
  activation : Activation
  /-- The runtimes that `begin_drain` has still to drain. -/
  drain : Option (List Nat)
  /-- The runtimes that `wait_for_drain` has still to wait for, and whether all went well. -/
  wait : Option (List Nat × Bool)

def World.start : World := ⟨fun _ => initial, 0, [0], .idle, none, none⟩

inductive Action where
  /-- A step of a request or of a waiter that has loaded a published runtime. -/
  | runtime (generation : Nat) (action : Drain.Action)
  | exchange
  | registerNext
  | registerPrevious
  | drainPrevious
  /-- `retain` looks at one of the listed runtimes. -/
  | prune (generation : Nat)
  | beginDrain
  | drainOwner
  | waitForDrain
  /-- The wait for one runtime returns. -/
  | ownerWaited (action : Drain.Action)
  | finishWait
  deriving DecidableEq

namespace World

def register (world : World) (generation : Nat) : World :=
  { world with
    owners := if generation ∈ world.owners then world.owners else world.owners ++ [generation] }

def advance (world : World) (generation : Nat) (action : Drain.Action) :
    Option (World × Answer) :=
  (Drain.step (world.runtimes generation) action).map fun (next, answer) =>
    ({ world with runtimes := update world.runtimes generation next }, answer)

end World

def step (world : World) : Action → Option (World × Answer)
  | .runtime generation action =>
    if generation ≤ world.current then world.advance generation action else none
  | .exchange =>
    match world.activation with
    | .idle => some ({ world with current := world.current + 1, activation := .exchanged }, .done)
    | _ => none
  | .registerNext =>
    match world.activation with
    | .exchanged => some ({ world.register world.current with activation := .registered }, .done)
    | _ => none
  | .registerPrevious =>
    match world.activation with
    | .registered => some ({ world.register (world.current - 1) with activation := .listed }, .done)
    | _ => none
  | .drainPrevious =>
    match world.activation with
    | .listed => { world with activation := .idle }.advance (world.current - 1) .beginDrain
    | _ => none
  | .prune generation =>
    let runtime := world.runtimes generation
    if runtime.draining = true ∧ runtime.active = 0 then
      some ({ world with owners := world.owners.filter (· ≠ generation) }, .done)
    else some (world, .done)
  | .beginDrain => some ({ world with drain := some world.owners }, .done)
  | .drainOwner =>
    match world.drain with
    | some (generation :: rest) => { world with drain := some rest }.advance generation .beginDrain
    | _ => none
  | .waitForDrain => some ({ world with wait := some (world.owners, true) }, .done)
  | .ownerWaited action =>
    match world.wait with
    | some (generation :: rest, completed) =>
      match world.advance generation action with
      | some (next, .waited result) =>
        some ({ next with wait := some (rest, completed && result) }, .done)
      | _ => none
    | _ => none
  | .finishWait =>
    match world.wait with
    | some ([], completed) => some ({ world with wait := none }, .waited completed)
    | _ => none

/-- The runtimes that the coordinator holds. -/
def World.held (world : World) : List Nat :=
  world.owners ++ world.drain.getD [] ++ (world.wait.elim [] Prod.fst)

/-- A published runtime that is not listed is drained for good, unless it is just being listed. -/
structure Invariant (world : World) : Prop where
  admission : ∀ generation, Drain.Invariant (world.runtimes generation)
  unpublished : ∀ generation, world.current < generation →
    world.runtimes generation = initial
  published : ∀ generation ∈ world.held, generation ≤ world.current
  listed : ∀ generation ≤ world.current, generation ∈ world.owners ∨
    Closed (world.runtimes generation) ∨
      generation = world.current ∧ world.activation = .exchanged

theorem invariant_start : Invariant .start where
  admission _ := Drain.invariant_initial
  unpublished _ _ := rfl
  published := by decide
  listed generation published := by
    have first : generation = 0 := Nat.le_zero.mp published
    simp [first, World.start]

section Steps

variable {world next : World} {generation : Nat} {action : Drain.Action} {answer : Answer}

/-- A step of one runtime leaves everything else as it is. -/
theorem advance_eq (advanced : world.advance generation action = some (next, answer)) :
    next = { world with runtimes := next.runtimes } ∧
      (∀ other, other ≠ generation → next.runtimes other = world.runtimes other) ∧
      Drain.step (world.runtimes generation) action = some (next.runtimes generation, answer) := by
  obtain ⟨⟨moved, given⟩, taken, same⟩ := map_eq_some_iff.mp advanced
  cases same
  refine ⟨rfl, fun other different => update_of_ne different _ _, ?_⟩
  dsimp only
  rwa [update_self]

theorem forall_of_advance {holds : Drain.World → Prop} (keeps : Preserves Drain.step holds)
    (advanced : world.advance generation action = some (next, answer)) (other : Nat)
    (before : holds (world.runtimes other)) : holds (next.runtimes other) := by
  obtain ⟨-, elsewhere, taken⟩ := advance_eq advanced
  by_cases here : other = generation
  · subst here
    exact keeps _ _ _ _ before taken
  · rwa [elsewhere other here]

theorem closed_preserved : Preserves Drain.step Closed :=
  fun _ _ _ _ closed taken => (closed.step taken).1

theorem draining_preserved : Preserves Drain.step fun runtime => runtime.draining = true := by
  intro runtime action next answer draining taken
  cases step_effect taken with
  | released => simpa using draining
  | drainBegun => rfl
  | _ => exact draining

theorem Invariant.advance (inv : Invariant world) (published : generation ≤ world.current)
    (advanced : world.advance generation action = some (next, answer)) : Invariant next := by
  obtain ⟨rest, elsewhere, -⟩ := advance_eq advanced
  have current_eq : next.current = world.current := by rw [rest]
  have owners_eq : next.owners = world.owners := by rw [rest]
  have activation_eq : next.activation = world.activation := by rw [rest]
  have held_eq : next.held = world.held := by rw [rest]; rfl
  refine ⟨fun other => forall_of_advance Drain.invariant_preserved advanced other
    (inv.admission other), fun other later => ?_, ?_, fun other published => ?_⟩
  · rw [current_eq] at later
    rw [elsewhere other (by omega)]
    exact inv.unpublished other later
  · rw [held_eq, current_eq]
    exact inv.published
  · rw [owners_eq, activation_eq, current_eq]
    exact (inv.listed other (current_eq ▸ published)).imp_right
      (Or.imp_left (forall_of_advance closed_preserved advanced other))

theorem mem_register (generation other : Nat) :
    other ∈ (world.register generation).owners ↔ other ∈ world.owners ∨ other = generation := by
  simp only [World.register]
  split_ifs with known
  · exact ⟨.inl, fun mem => mem.elim id fun same => same ▸ known⟩
  · simp

/-- Listing a published runtime. -/
theorem held_register {activation : Activation} (generation : Nat)
    (published : generation ≤ world.current) :
    ∀ other ∈ World.held { world.register generation with activation := activation },
      other ∈ world.held ∨ other ≤ world.current := by
  intro other mem
  simp only [World.held, mem_append, mem_register] at mem ⊢
  rcases mem with ((old | rfl) | drain) | wait
  · exact .inl (.inl (.inl old))
  · exact .inr published
  · exact .inl (.inl (.inr drain))
  · exact .inl (.inr wait)

theorem invariant_preserved : Preserves step Invariant := by
  intro world action next answer inv taken
  have untouched {other : World} (runtimes : other.runtimes = world.runtimes)
      (current : other.current = world.current)
      (held : ∀ generation ∈ other.held, generation ∈ world.held ∨ generation ≤ world.current)
      (listed : ∀ generation ≤ world.current, generation ∈ other.owners ∨
        Closed (world.runtimes generation) ∨
          generation = world.current ∧ other.activation = .exchanged) : Invariant other := by
    refine ⟨?_, ?_, fun generation mem => ?_, ?_⟩
    · rw [runtimes]
      exact inv.admission
    · rw [runtimes, current]
      exact inv.unpublished
    · rw [current]
      exact (held generation mem).elim (inv.published generation) id
    · rw [runtimes, current]
      exact listed
  cases action with simp only [step] at taken
  | runtime generation action =>
    split_ifs at taken with published
    exact inv.advance published taken
  | exchange =>
    split at taken <;> cases taken
    refine ⟨inv.admission, fun generation later => ?_, fun generation mem => ?_,
      fun generation published => ?_⟩
    · exact inv.unpublished generation (Nat.lt_of_succ_lt later)
    · exact Nat.le_succ_of_le (inv.published generation mem)
    · rcases Nat.le_succ_iff.mp published with older | same
      · next idle =>
        have old := inv.listed generation older
        simp only [idle, reduceCtorEq, and_false, or_false] at old
        exact old.imp_right .inl
      · exact .inr (.inr ⟨same, rfl⟩)
  | registerNext =>
    split at taken <;> cases taken
    refine untouched rfl rfl (held_register _ (Nat.le_refl _)) fun generation published => ?_
    rw [mem_register]
    rcases inv.listed generation published with old | closed | same
    · exact .inl (.inl old)
    · exact .inr (.inl closed)
    · exact .inl (.inr same.1)
  | registerPrevious =>
    split at taken <;> cases taken
    next registered =>
    refine untouched rfl rfl (held_register _ (Nat.sub_le _ _)) fun generation published => ?_
    rw [mem_register]
    have old := inv.listed generation published
    simp only [registered, reduceCtorEq, and_false, or_false] at old
    exact old.imp .inl .inl
  | drainPrevious =>
    split at taken <;> try cases taken
    next listed =>
    have idle : Invariant { world with activation := .idle } :=
      untouched rfl rfl (fun _ => .inl) fun generation published => by
        have old := inv.listed generation published
        simp only [listed, reduceCtorEq, and_false, or_false] at old
        exact old.imp_right .inl
    exact idle.advance (Nat.sub_le _ _) taken
  | prune generation =>
    split_ifs at taken with drained
    · cases taken
      refine untouched rfl rfl (fun other mem => .inl ?_) fun other published => ?_
      · simp only [World.held, mem_append, mem_filter] at mem ⊢
        tauto
      by_cases here : other = generation
      · subst here
        exact .inr (.inl (closed_of_zero (inv.admission other) drained.1 drained.2))
      · exact (inv.listed other published).imp_left fun mem =>
          mem_filter.mpr ⟨mem, by simpa using here⟩
    · cases taken
      exact inv
  | beginDrain =>
    cases taken
    refine untouched rfl rfl (fun generation mem => .inl ?_) inv.listed
    simp only [World.held, mem_append, getD_some] at mem ⊢
    tauto
  | drainOwner =>
    split at taken <;> try cases taken
    next generation rest left =>
    have shorter : Invariant { world with drain := some rest } := by
      refine untouched rfl rfl (fun other mem => .inl ?_) inv.listed
      simp only [World.held, mem_append, left, getD_some, mem_cons] at mem ⊢
      tauto
    refine shorter.advance (inv.published generation ?_) taken
    simp [World.held, left]
  | waitForDrain =>
    cases taken
    refine untouched rfl rfl (fun generation mem => .inl ?_) inv.listed
    simp only [World.held, mem_append, elim_some] at mem ⊢
    tauto
  | ownerWaited action =>
    split at taken <;> try cases taken
    next generation rest completed left =>
    split at taken <;> cases taken
    next moved result advanced =>
    have advanced_invariant :=
      inv.advance (inv.published generation (by simp [World.held, left])) advanced
    refine { advanced_invariant with
      published := fun other mem => advanced_invariant.published other ?_ }
    have wait_eq : moved.wait = world.wait := by rw [(advance_eq advanced).1]
    simp only [World.held, mem_append, elim_some, wait_eq, left, mem_cons] at mem ⊢
    tauto
  | finishWait =>
    split at taken <;> cases taken
    next left =>
    refine untouched rfl rfl (fun generation mem => .inl ?_) inv.listed
    simpa [World.held, left] using mem

/-- The runtimes have only taken steps of their own, no activation has begun, and only their own
calls have changed what is to be drained and what is waited for. -/
structure Frame (action : Action) (world next : World) : Prop where
  current : next.current = world.current
  runtimes : ∀ holds, Preserves Drain.step holds → ∀ generation,
    holds (world.runtimes generation) → holds (next.runtimes generation)
  settled : world.activation ≠ .exchanged → next.activation ≠ .exchanged
  drain : action = .beginDrain ∨ action = .drainOwner ∨ next.drain = world.drain
  wait : action = .waitForDrain ∨ (∃ own, action = .ownerWaited own) ∨ next.wait = world.wait ∨
    next.wait = none

theorem Frame.advance {action : Action} {own : Drain.Action} {before : World}
    (frame : Frame action world before)
    (advanced : before.advance generation own = some (next, answer)) : Frame action world next := by
  have rest := (advance_eq advanced).1
  have keeps {holds : Drain.World → Prop} (keeps : Preserves Drain.step holds) :=
    forall_of_advance keeps advanced
  rw [rest]
  exact ⟨frame.current, fun holds preserved other initially =>
    keeps preserved other (frame.runtimes holds preserved other initially), frame.settled,
    frame.drain, frame.wait⟩

theorem step_frame {action : Action} (taken : step world action = some (next, answer))
    (no_exchange : action ≠ .exchange) : Frame action world next := by
  have same {other : World} (runtimes : other.runtimes = world.runtimes)
      (current : other.current = world.current)
      (settled : world.activation ≠ .exchanged → other.activation ≠ .exchanged)
      (drain : action = .beginDrain ∨ action = .drainOwner ∨ other.drain = world.drain)
      (wait : action = .waitForDrain ∨ (∃ own, action = .ownerWaited own) ∨
        other.wait = world.wait ∨ other.wait = none) : Frame action world other :=
    ⟨current, fun _ _ _ holds => runtimes ▸ holds, settled, drain, wait⟩
  have unchanged : Frame action world world :=
    same rfl rfl id (.inr (.inr rfl)) (.inr (.inr (.inl rfl)))
  cases action with simp only [step] at taken
  | runtime generation action =>
    split_ifs at taken
    exact unchanged.advance taken
  | exchange => exact absurd rfl no_exchange
  | registerNext | registerPrevious =>
    split at taken <;> cases taken
    exact same rfl rfl (fun _ => nofun) (.inr (.inr rfl)) (.inr (.inr (.inl rfl)))
  | drainPrevious =>
    split at taken <;> try cases taken
    have idle : Frame .drainPrevious world { world with activation := .idle } :=
      same rfl rfl (fun _ => nofun) (.inr (.inr rfl)) (.inr (.inr (.inl rfl)))
    exact idle.advance taken
  | prune generation =>
    split_ifs at taken <;> cases taken
    · exact same rfl rfl id (.inr (.inr rfl)) (.inr (.inr (.inl rfl)))
    · exact unchanged
  | beginDrain =>
    cases taken
    exact same rfl rfl id (.inl rfl) (.inr (.inr (.inl rfl)))
  | drainOwner =>
    split at taken <;> try cases taken
    next rest _ =>
    have shorter : Frame .drainOwner world { world with drain := some rest } :=
      same rfl rfl id (.inr (.inl rfl)) (.inr (.inr (.inl rfl)))
    exact shorter.advance taken
  | waitForDrain =>
    cases taken
    exact same rfl rfl id (.inr (.inr rfl)) (.inl rfl)
  | ownerWaited action =>
    split at taken <;> try cases taken
    split at taken <;> cases taken
    next advanced =>
    have frame := unchanged.advance advanced
    exact { frame with wait := .inr (.inl ⟨_, rfl⟩) }
  | finishWait =>
    split at taken <;> cases taken
    exact same rfl rfl id (.inr (.inr rfl)) (.inr (.inr (.inr rfl)))

end Steps

/-- While `begin_drain` goes through its runtimes, every other one drains already. -/
structure Draining (world : World) : Prop where
  invariant : Invariant world
  settled : world.activation ≠ .exchanged
  flagged : ∀ generation ≤ world.current,
    (∃ rest ∈ world.drain, generation ∈ rest) ∨ (world.runtimes generation).draining = true

/-- While `wait_for_drain` goes through its runtimes, every other one is closed. -/
structure Awaiting (world : World) : Prop where
  invariant : Invariant world
  settled : world.activation ≠ .exchanged
  draining : ∀ generation ≤ world.current, (world.runtimes generation).draining = true
  awaited : ∀ rest, world.wait = some (rest, true) → ∀ generation ≤ world.current,
    generation ∈ rest ∨ Closed (world.runtimes generation)

theorem Invariant.listed_of_settled (inv : Invariant world)
    (settled : world.activation ≠ .exchanged) {generation : Nat}
    (published : generation ≤ world.current) :
    generation ∈ world.owners ∨ Closed (world.runtimes generation) := by
  have listed := inv.listed generation published
  simpa [settled] using listed

theorem draining_of_beginDrain {runtime next : Drain.World}
    (taken : Drain.step runtime .beginDrain = some (next, answer)) : next.draining = true := by
  simp only [Drain.step] at taken
  split_ifs at taken with draining <;> cases taken
  · exact draining
  · rfl

theorem Draining.step {next : World} {action : Action} (draining : Draining world)
    (no_exchange : action ≠ .exchange) (taken : step world action = some (next, answer)) :
    Draining next := by
  have frame := step_frame taken no_exchange
  refine ⟨invariant_preserved _ _ _ _ draining.invariant taken, frame.settled draining.settled, ?_⟩
  intro generation published
  rw [frame.current] at published
  have kept := frame.runtimes _ draining_preserved generation
  rcases frame.drain with rfl | rfl | same
  · cases taken
    exact (draining.invariant.listed_of_settled draining.settled published).imp
      (fun mem => ⟨_, rfl, mem⟩) Closed.draining
  · simp only [Owners.step] at taken
    split at taken <;> try cases taken
    next drained rest left =>
    obtain ⟨next_eq, -, moved⟩ := advance_eq taken
    have rest_eq : next.drain = some rest := by rw [next_eq]
    rcases draining.flagged generation published with ⟨list, list_eq, mem⟩ | flagged
    · rw [left, mem_some_iff] at list_eq
      subst list_eq
      rcases mem_cons.mp mem with rfl | later
      · exact .inr (draining_of_beginDrain moved)
      · exact .inl ⟨rest, rest_eq, later⟩
    · exact .inr (kept flagged)
  · rw [same]
    exact (draining.flagged generation published).imp_right kept

theorem Awaiting.step {next : World} {action : Action} (awaiting : Awaiting world)
    (no_exchange : action ≠ .exchange) (taken : step world action = some (next, answer)) :
    Awaiting next := by
  have frame := step_frame taken no_exchange
  refine ⟨invariant_preserved _ _ _ _ awaiting.invariant taken, frame.settled awaiting.settled,
    ?_, ?_⟩
  · rw [frame.current]
    exact fun generation published =>
      frame.runtimes _ draining_preserved generation (awaiting.draining generation published)
  intro rest rest_eq generation published
  rw [frame.current] at published
  have kept := frame.runtimes _ closed_preserved generation
  rcases frame.wait with rfl | ⟨own, rfl⟩ | same | past
  · cases taken
    cases rest_eq
    exact awaiting.invariant.listed_of_settled awaiting.settled published
  · simp only [Owners.step] at taken
    split at taken <;> try cases taken
    next waited left completed wait_eq =>
    split at taken <;> cases taken
    next moved result advanced =>
    cases completed <;> cases result <;> cases rest_eq
    rcases awaiting.awaited _ wait_eq generation published with mem | closed
    · rcases mem_cons.mp mem with rfl | later
      · -- the wait for this runtime has seen its counter at zero
        have zero := active_eq_zero_of_sawZero (advance_eq advanced).2.2 rfl
        exact .inr (kept (closed_of_zero (awaiting.invariant.admission generation)
          (awaiting.draining generation published) zero))
      · exact .inl later
    · exact .inr (kept closed)
  · exact (awaiting.awaited rest (same.symm.trans rest_eq) generation published).imp_right kept
  · rw [past] at rest_eq
    cases rest_eq

/-- The number of guards of a runtime that were handed out and not dropped. -/
def World.guards (world : World) (generation : Nat) : Nat :=
  (world.runtimes generation).requests.count isGuard

/-- Every runtime with guards is listed, apart from the one that an activation has published and
not listed yet.  When `begin_drain` runs outside this moment and no other runtime is published, then
no guard is left as soon as a later `wait_for_drain` reports completion. -/
theorem owners_cover_guards {actions : List Action} {world : World}
    (reached : run step .start actions = some world) :
    (∀ generation, world.guards generation ≠ 0 → generation ≤ world.current ∧
      (generation ∈ world.owners ∨
        generation = world.current ∧ world.activation = .exchanged)) ∧
    ∀ (drain wait : List Action) (drained last final : World),
      world.activation ≠ .exchanged → (∀ action ∈ drain ++ wait, action ≠ .exchange) →
      run step world (.beginDrain :: drain) = some drained → drained.drain = some [] →
      run step drained (.waitForDrain :: wait) = some last →
      step last .finishWait = some (final, .waited true) →
        ∀ generation, final.guards generation = 0 := by
  have invariant := invariant_preserved.of_run invariant_start reached
  have no_guard {runtime : Drain.World} (closed : Closed runtime) :
      runtime.requests.count isGuard = 0 := count_isGuard_eq_zero closed
  refine ⟨fun generation guards => ?_, ?_⟩
  · have published : generation ≤ world.current := by
      by_contra later
      rw [World.guards, invariant.unpublished generation (Nat.lt_of_not_le later)] at guards
      exact guards rfl
    refine ⟨published, ?_⟩
    rcases invariant.listed generation published with listed | closed | exchanged
    · exact .inl listed
    · exact absurd (no_guard closed) guards
    · exact .inr exchanged
  · intro drain wait drained last final settled no_exchange drains all_drained waits finished
    rw [forall_mem_append] at no_exchange
    have begun : Draining { world with drain := some world.owners } := by
      refine ⟨invariant_preserved world .beginDrain _ .done invariant rfl, settled, ?_⟩
      exact fun generation published => (invariant.listed_of_settled settled published).imp
        (fun member => ⟨_, rfl, member⟩) Closed.draining
    have draining : Draining drained := of_run_of_allowed (· ≠ .exchange)
      (fun _ _ _ _ holds allowed taken => holds.step allowed taken) begun no_exchange.1 drains
    have started : Awaiting { drained with wait := some (drained.owners, true) } := by
      refine ⟨invariant_preserved drained .waitForDrain _ .done draining.invariant rfl,
        draining.settled, fun generation published => ?_, ?_⟩
      · have flagged := draining.flagged generation published
        simpa [all_drained] using flagged
      · rintro rest rest_eq generation published
        cases rest_eq
        exact draining.invariant.listed_of_settled draining.settled published
    have awaiting : Awaiting last := of_run_of_allowed (· ≠ .exchange)
      (fun _ _ _ _ holds allowed taken => holds.step allowed taken) started no_exchange.2 waits
    simp only [step] at finished
    split at finished <;> cases finished
    next completed wait_eq =>
    intro generation
    by_cases published : generation ≤ last.current
    · have closed := (awaiting.awaited [] wait_eq generation published).resolve_left (by simp)
      exact no_guard closed
    · show (last.runtimes generation).requests.count isGuard = 0
      rw [awaiting.invariant.unpublished generation (Nat.lt_of_not_le published)]
      rfl

/-- A request of the first runtime, an activation, and the end of the request. -/
def activatedRun : List Action :=
  [.runtime 0 (.acquire 0), .runtime 0 (.checkDraining 0), .runtime 0 (.exchange 0 false),
    .runtime 0 (.recheckDraining 0), .exchange, .registerNext, .registerPrevious, .drainPrevious,
    .runtime 0 (.release 0)]

theorem owners_cover_guards_activatedRun :
    ∃ world drained last final, run step .start activatedRun = some world ∧
      run step world [.beginDrain, .drainOwner, .drainOwner] = some drained ∧
      run step drained [.waitForDrain, .runtime 0 (.waitForDrain 1), .ownerWaited (.checkActive 1),
        .runtime 1 (.waitForDrain 1), .ownerWaited (.checkActive 1)] = some last ∧
      step last .finishWait = some (final, .waited true) ∧
      final.guards 0 = 0 ∧ final.guards 1 = 0 := by
  refine ⟨_, _, _, _, rfl, rfl, rfl, rfl, ?_⟩
  have reached : run step .start activatedRun = some _ := rfl
  have none_left := (owners_cover_guards reached).2
    [.drainOwner, .drainOwner] [.runtime 0 (.waitForDrain 1), .ownerWaited (.checkActive 1),
      .runtime 1 (.waitForDrain 1), .ownerWaited (.checkActive 1)] _ _ _ nofun (by decide) rfl rfl
    rfl rfl
  exact ⟨none_left 0, none_left 1⟩

/-- A request of a runtime that is published and not listed yet. -/
def publishedRun : List Action :=
  [.exchange, .runtime 1 (.acquire 0), .runtime 1 (.checkDraining 0),
    .runtime 1 (.exchange 0 false), .runtime 1 (.recheckDraining 0)]

/-- The coordinator does not list the runtime of this request, and a shutdown at that moment reports
completion while the guard is outstanding. -/
theorem published_not_listed :
    (run step .start publishedRun).map (fun world => (world.guards 1, world.owners)) =
      some (1, [0]) ∧
    ∃ last final, run step .start (publishedRun ++ [.beginDrain, .drainOwner, .waitForDrain,
        .runtime 0 (.waitForDrain 0), .ownerWaited (.checkActive 0)]) = some last ∧
      step last .finishWait = some (final, .waited true) ∧ final.guards 1 = 1 :=
  ⟨rfl, _, _, rfl, rfl, rfl⟩

end FluxDns.Runtime.Owners
