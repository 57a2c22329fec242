/-!
# Programs that talk to a machine

A program is the tree of its requests: every request names how the program goes on after each
possible reply.  The machine is a function of a choice, so a run is given by its choices.
-/

namespace Interaction

/-- A program makes requests and ends with a value or an error. -/
inductive Program (Request : Type) (Reply : Request → Type) (ε α : Type) where
  | finish (result : Except ε α)
  | ask (request : Request) (next : Reply request → Program Request Reply ε α)

namespace Program

variable {Request : Type} {Reply : Request → Type} {ε δ α β : Type}

/-- Go on with the value of a program; an error ends both. -/
protected def bind (program : Program Request Reply ε α)
    (next : α → Program Request Reply ε β) : Program Request Reply ε β :=
  match program with
  | .finish (.ok value) => next value
  | .finish (.error error) => .finish (.error error)
  | .ask request rest => .ask request fun reply => (rest reply).bind next

instance : Monad (Program Request Reply ε) where
  pure value := .finish (.ok value)
  bind := Program.bind

/-- End with an error. -/
def fail (error : ε) : Program Request Reply ε α := .finish (.error error)

/-- Handle the outcome of a program, whatever it is. -/
def attempt : Program Request Reply ε α → Program Request Reply δ (Except ε α)
  | .finish result => .finish (.ok result)
  | .ask request next => .ask request fun reply => (next reply).attempt

end Program

section Runs

variable {Request : Type} {Reply : Request → Type} {ε δ α β State Choice : Type}
  (perform : State → (request : Request) → Choice → Reply request × State)

variable {post : Except ε α → State → Prop} {program : Program Request Reply ε α}

/-- A run that is never cut off. -/
def complete (choices : Nat → Choice) : State → Program Request Reply ε α → State × Except ε α
  | state, .finish result => (state, result)
  | state, .ask request next =>
    complete (fun index => choices (index + 1)) (perform state request (choices 0)).2
      (next (perform state request (choices 0)).1)
termination_by structural _ program => program

/-- Every run with allowed choices passes only through states with `always`, and ends with
`post`. -/
def Holds (allowed : Choice → Prop) (always : State → Prop) (post : Except ε α → State → Prop) :
    State → Program Request Reply ε α → Prop
  | state, .finish result => always state ∧ post result state
  | state, .ask request next => always state ∧ ∀ choice, allowed choice →
      Holds allowed always post (perform state request choice).2
        (next (perform state request choice).1)
termination_by structural _ program => program

def Then (allowed : Choice → Prop) (always : State → Prop) (post : Except ε β → State → Prop)
    (next : α → Program Request Reply ε β) : Except ε α → State → Prop
  | .ok value, state => Holds perform allowed always post state (next value)
  | .error error, state => post (.error error) state

variable {perform} {allowed : Choice → Prop} {always : State → Prop} {state : State}

theorem Holds.pure {value : α} (safe : always state) (reached : post (.ok value) state) :
    Holds perform allowed always post state
      (Pure.pure value : Program Request Reply ε α) :=
  ⟨safe, reached⟩

theorem Holds.fail {error : ε} (safe : always state) (reached : post (.error error) state) :
    Holds perform allowed always post state
      (Program.fail error : Program Request Reply ε α) :=
  ⟨safe, reached⟩

/-- A sequence of programs is verified from the left to the right. -/
theorem Holds.bind {post : Except ε β → State → Prop} {next : α → Program Request Reply ε β}
    (first : Holds perform allowed always (Then perform allowed always post next) state program) :
    Holds perform allowed always post state (program >>= next) := by
  induction program generalizing state with
  | finish result =>
    cases result with
    | ok value => exact first.2
    | error error => exact first
  | ask request rest induction =>
    exact ⟨first.1, fun choice permitted => induction _ (first.2 choice permitted)⟩

theorem Holds.attempt {post : Except δ (Except ε α) → State → Prop}
    (holds : Holds perform allowed always (fun result state =>
      post (.ok result) state) state program) :
    Holds perform allowed always post state program.attempt := by
  induction program generalizing state with
  | finish result => exact holds
  | ask request rest induction =>
    exact ⟨holds.1, fun choice permitted => induction _ (holds.2 choice permitted)⟩

theorem Holds.mono {weaker : Except ε α → State → Prop}
    (holds : Holds perform allowed always post state program)
    (implies : ∀ result state, post result state → weaker result state) :
    Holds perform allowed always weaker state program := by
  induction program generalizing state with
  | finish result => exact ⟨holds.1, implies _ _ holds.2⟩
  | ask request rest induction =>
    exact ⟨holds.1, fun choice permitted => induction _ (holds.2 choice permitted)⟩

theorem Holds.of_complete (holds : Holds perform allowed always post state program)
    {choices : Nat → Choice} (permitted : ∀ index, allowed (choices index)) :
    post (complete perform choices state program).2
      (complete perform choices state program).1 := by
  induction program generalizing state choices with
  | finish result => exact holds.2
  | ask request rest induction =>
    exact induction _ (holds.2 _ (permitted 0)) fun index => permitted (index + 1)

end Runs

end Interaction
