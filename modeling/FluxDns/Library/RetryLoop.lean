import FluxDns.Library.AssociationList
import FluxDns.Library.Execution

/-!
# Retry loops over an atomic cell

Several calls update one shared value.  A call loads the value, computes the next one and exchanges
the two unless another exchange came first; then it starts again.  Every exchange stores its value
at a new address, so that a call notices each exchange since its load.
-/

namespace RetryLoop

open Execution AList List

/-- A value and the address where it is stored. -/
structure Cell (Value : Type*) where
  value : Value
  address : Nat

/-- Where a call is in its loop. -/
inductive Phase (Value : Type*) where
  | loading
  /-- It has computed the next value from the one at the address. -/
  | exchanging (address : Nat) (next : Value)

/-- A call that has not returned yet. -/
structure Call (Value Request : Type*) where
  request : Request
  phase : Phase Value

/-- The shared cell and the running calls. -/
structure World (Value Request : Type*) where
  cell : Cell Value
  calls : Map Nat (Call Value Request)

inductive Action (Request : Type*) where
  | call (id : Nat) (request : Request)
  | load (id : Nat)
  | exchange (id : Nat)

/-- What a step of a call reports. -/
inductive Report (Request Error : Type*) where
  | pending
  | accepted (request : Request)
  | refused (request : Request) (error : Error)

variable {Value Request Error : Type*} {value : Value}

/-- The request that a step has carried out. -/
def Report.accepted? : Report Request Error → Option Request
  | .accepted request => some request
  | .pending | .refused _ _ => none

/-- The cell before any call. -/
def World.start (value : Value) : World Value Request := ⟨⟨value, 0⟩, ∅⟩

section Loop

variable (update : Value → Request → Except Error Value) (world : World Value Request)

def step : Action Request → Option (World Value Request × Report Request Error)
  | .call id request =>
    if id ∈ world.calls then none
    else some ({ world with calls := world.calls.insert id ⟨request, .loading⟩ }, .pending)
  | .load id =>
    match world.calls.lookup id with
    | some ⟨request, .loading⟩ =>
      match update world.cell.value request with
      | .error error => some ({ world with calls := world.calls.erase id }, .refused request error)
      | .ok next =>
        let phase := .exchanging world.cell.address next
        some ({ world with calls := world.calls.insert id ⟨request, phase⟩ }, .pending)
    | _ => none
  | .exchange id =>
    match world.calls.lookup id with
    | some ⟨request, .exchanging address next⟩ =>
      if address = world.cell.address then
        some (⟨⟨next, world.cell.address + 1⟩, world.calls.erase id⟩, .accepted request)
      else
        some ({ world with calls := world.calls.insert id ⟨request, .loading⟩ }, .pending)
    | _ => none

/-- Every computed value belongs to an address that was used, and to the current value when the
address is still the current one. -/
def Computed : Prop :=
  ∀ id request address next,
    world.calls.lookup id = some ⟨request, .exchanging address next⟩ →
      address ≤ world.cell.address ∧
        (address = world.cell.address → update world.cell.value request = .ok next)

variable {world}

/-- What a step does to the value of the cell, as if the call were a single step. -/
def Atomic (before after : Value) : Report Request Error → Prop
  | .pending => after = before
  | .accepted request => update before request = .ok after
  | .refused request error => update before request = .error error ∧ after = before

variable {update} {actions : List (Action Request)}

theorem Computed.start (value : Value) : Computed update (World.start value) := by
  intro id request address next found
  simp [World.start] at found

variable (computed : Computed update world)

include computed

theorem Computed.insert_loading (id : Nat) (request : Request) :
    Computed update { world with calls := world.calls.insert id ⟨request, .loading⟩ } := by
  intro other request address next found
  rw [lookup_insert_eq_ite] at found
  split_ifs at found
  · cases found
  · exact computed other request address next found

theorem Computed.erase (id : Nat) :
    Computed update { world with calls := world.calls.erase id } := by
  intro other request address next found
  exact computed other request address next (lookup_of_lookup_erase found)

theorem Computed.insert_exchanging (id : Nat) {request : Request}
    {next : Value} (updated : update world.cell.value request = .ok next) :
    Computed update { world with
      calls := world.calls.insert id ⟨request, .exchanging world.cell.address next⟩ } := by
  intro other request address next found
  rcases of_lookup_insert found with ⟨-, same⟩ | ⟨_, found⟩
  · cases same
    exact ⟨Nat.le_refl _, fun _ => updated⟩
  · exact computed other request address next found

theorem Computed.exchange (id : Nat) (next : Value) :
    Computed update ⟨⟨next, world.cell.address + 1⟩, world.calls.erase id⟩ := by
  intro other request address value found
  obtain ⟨used, _⟩ := computed other request address value (lookup_of_lookup_erase found)
  exact ⟨Nat.le_succ_of_le used, fun same => by simp only at same; omega⟩

omit computed

/-- A step keeps the invariant and acts on the value as the whole call would. -/
theorem step_atomic {before after : World Value Request} {action : Action Request}
    {report : Report Request Error} (computed : Computed update before)
    (taken : step update before action = some (after, report)) :
    Computed update after ∧ Atomic update before.cell.value after.cell.value report := by
  cases action with simp only [step] at taken
  | call id request =>
    split_ifs at taken
    cases taken
    exact ⟨computed.insert_loading id request, rfl⟩
  | load id =>
    split at taken <;> try cases taken
    split at taken <;> cases taken
    · next updated => exact ⟨computed.erase id, updated, rfl⟩
    · next updated => exact ⟨computed.insert_exchanging id updated, rfl⟩
  | exchange id =>
    split at taken <;> try cases taken
    next request address next found =>
    split_ifs at taken with same
    · cases taken
      exact ⟨computed.exchange id next, (computed id request address next found).2 same⟩
    · cases taken
      exact ⟨computed.insert_loading id request, rfl⟩

/-- Every step of a run acts on the value as the whole call would. -/
theorem atomic_of_mem_transitions
    {move : Transition (World Value Request) (Action Request) (Report Request Error)}
    (mem : move ∈ transitions (step update) (.start value) actions) :
    Atomic update move.before.cell.value move.after.cell.value move.output := by
  have preserves : Preserves (step update) (Computed update) :=
    fun _ _ _ _ computed taken => (step_atomic computed taken).1
  obtain ⟨computed, taken⟩ := preserves.of_mem_transitions (.start value) mem
  exact (step_atomic computed taken).2

/-- The requests that the steps of a run have carried out, in their order. -/
def accepted (steps : List (Transition (World Value Request) (Action Request)
    (Report Request Error))) : List Request :=
  steps.filterMap fun transition => transition.output.accepted?

theorem foldlM_accepted {final : World Value Request}
    (reached : run (step update) (.start value) actions = some final) :
    (accepted (transitions (step update) (.start value) actions)).foldlM update value =
      .ok final.cell.value := by
  suffices from_any : ∀ start : World Value Request, Computed update start →
      run (step update) start actions = some final →
      (accepted (transitions (step update) start actions)).foldlM update start.cell.value =
        .ok final.cell.value from
    from_any _ (.start value) reached
  clear reached
  induction actions with
  | nil =>
    rintro start - reached
    cases reached
    rfl
  | cons action actions induction =>
    intro start computed reached
    rw [run] at reached
    rw [transitions]
    cases taken : step update start action with
    | none => simp [taken] at reached
    | some result =>
      obtain ⟨next, report⟩ := result
      simp only [taken] at reached ⊢
      obtain ⟨kept, atomic⟩ := step_atomic computed taken
      have rest := induction next kept reached
      cases report with
      | pending =>
        have same : next.cell.value = start.cell.value := atomic
        rwa [same] at rest
      | refused request error => rwa [atomic.2] at rest
      | accepted request =>
        have carried : update start.cell.value request = .ok next.cell.value := atomic
        simpa [accepted, Report.accepted?, carried, Bind.bind, Except.bind] using rest

end Loop

/-- The entry of a key after some requests: that of the last one for this key, if there is one. -/
def latest {Key Entry : Type*} [DecidableEq Key] (key : Request → Key) (content : Request → Entry)
    (initial : Key → Entry) (requests : List Request) (wanted : Key) : Entry :=
  match (requests.filter (key · = wanted)).getLast? with
  | some request => content request
  | none => initial wanted

section Entries

variable {Key Entry : Type*} [DecidableEq Key] {key : Request → Key} {content : Request → Entry}

theorem latest_cons (initial : Key → Entry) (request : Request) (requests : List Request) :
    latest key content initial (request :: requests) =
      latest key content (Function.update initial (key request) (content request)) requests := by
  funext wanted
  unfold latest
  by_cases own : key request = wanted
  · subst own
    simp only [decide_true, filter_cons_of_pos, getLast?_cons, Function.update_self]
    cases (requests.filter (key · = key request)).getLast? <;> rfl
  · rw [filter_cons_of_neg (by simpa using own), Function.update_of_ne (Ne.symm own)]

/-- When a request sets the entry of its own key and no other, the entries after some requests are
those of the last ones. -/
theorem entry_eq_latest {update : Value → Request → Except Error Value}
    {entry : Value → Key → Entry}
    (sets : ∀ before request after, update before request = .ok after →
      entry after = Function.update (entry before) (key request) (content request))
    {requests : List Request} {final : Value} (carried : requests.foldlM update value = .ok final) :
    entry final = latest key content (entry value) requests := by
  induction requests generalizing value with
  | nil =>
    cases carried
    rfl
  | cons request requests induction =>
    rw [foldlM_cons] at carried
    cases updated : update value request with
    | error error => simp [updated, Bind.bind, Except.bind] at carried
    | ok next =>
      simp only [updated, Bind.bind, Except.bind] at carried
      rw [induction carried, sets _ _ _ updated, latest_cons]

end Entries

end RetryLoop
