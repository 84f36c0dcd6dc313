/-!
# Actions that may fail

An action works on a state and ends in a result or a failure. What it had changed
before it failed stays changed: a failure is an answer, not a way back.
-/

set_option autoImplicit false

namespace HotReload

/-- An action on states of type `σ` that may fail with an `ε`. -/
abbrev Action (σ ε : Type) : Type → Type :=
  ExceptT ε (StateM σ)

namespace Action

variable {σ τ ε δ α β γ : Type}

/-- What an action answers in a state, and the state it leaves. -/
def runOn (action : Action σ ε α) (state : σ) : Except ε α × σ :=
  StateT.run (ExceptT.run action) state

/-- The action with a given outcome in every state. -/
def ofRun (run : σ → Except ε α × σ) : Action σ ε α :=
  ExceptT.mk run

/-- An action that only answers. -/
def ofExcept (result : Except ε α) : Action σ ε α :=
  ofRun fun state => (result, state)

/-- Goes on after a failure, which becomes the answer. -/
def attempt (action : Action σ ε α) : Action σ ε (Except ε α) :=
  ofRun fun state =>
    let (result, state) := action.runOn state
    (.ok result, state)

/-- An action on a part of the state, with its failures put in other words. -/
def onPart (get : σ → τ) (put : τ → σ → σ) (failure : δ → ε) (action : Action τ δ α) :
    Action σ ε α :=
  ofRun fun state =>
    let (result, part) := action.runOn (get state)
    (result.mapError failure, put part state)

@[simp] theorem runOn_ofRun (run : σ → Except ε α × σ) (state : σ) :
    (ofRun run).runOn state = run state := rfl

@[simp] theorem runOn_ofExcept (result : Except ε α) (state : σ) :
    (ofExcept result).runOn state = (result, state) := rfl

@[simp] theorem runOn_pure (answer : α) (state : σ) :
    (pure answer : Action σ ε α).runOn state = (.ok answer, state) := rfl

@[simp] theorem runOn_throw (failure : ε) (state : σ) :
    (throw failure : Action σ ε α).runOn state = (.error failure, state) := rfl

@[simp] theorem runOn_get (state : σ) : (get : Action σ ε σ).runOn state = (.ok state, state) := rfl

@[simp] theorem runOn_modify (change : σ → σ) (state : σ) :
    (modify change : Action σ ε Unit).runOn state = (.ok (), change state) := rfl

@[simp] theorem runOn_set (state old : σ) :
    (set state : Action σ ε Unit).runOn old = (.ok (), state) := rfl

@[simp] theorem runOn_attempt (action : Action σ ε α) (state : σ) :
    action.attempt.runOn state = (.ok (action.runOn state).1, (action.runOn state).2) := rfl

/-- One action after another: the second only runs when the first succeeds, and in
the state the first leaves. -/
theorem runOn_bind (first : Action σ ε α) (next : α → Action σ ε β) (state : σ) :
    (first >>= next).runOn state =
      match first.runOn state with
      | (.ok answer, state) => (next answer).runOn state
      | (.error failure, state) => (.error failure, state) := by
  show StateT.run (ExceptT.run (first >>= next)) state = _
  simp only [ExceptT.run_bind, StateT.run_bind, runOn]
  show _ = match StateT.run (ExceptT.run first) state with
    | (.ok answer, state) => StateT.run (ExceptT.run (next answer)) state
    | (.error failure, state) => (.error failure, state)
  rcases StateT.run (ExceptT.run first) state with ⟨result, after⟩
  cases result <;> rfl

/-- What follows an attempt always runs. -/
theorem runOn_attempt_bind (first : Action σ ε β) (next : Except ε β → Action σ ε γ)
    (state : σ) :
    (first.attempt >>= next).runOn state =
      (next (first.runOn state).1).runOn (first.runOn state).2 := by
  rw [runOn_bind, runOn_attempt]

/-- What follows an action that succeeds. -/
theorem runOn_bind_ok {first : Action σ ε β} {state middle : σ} {answer : β}
    (ran : first.runOn state = (.ok answer, middle)) (next : β → Action σ ε γ) :
    (first >>= next).runOn state = (next answer).runOn middle := by
  rw [runOn_bind, ran]

/-- What follows an action that fails does not run. -/
theorem runOn_bind_error {first : Action σ ε β} {state middle : σ} {failure : ε}
    (ran : first.runOn state = (.error failure, middle)) (next : β → Action σ ε γ) :
    (first >>= next).runOn state = (.error failure, middle) := by
  rw [runOn_bind, ran]

/-- A sequence that succeeds does so step by step. -/
theorem exists_of_runOn_bind_ok {first : Action σ ε β} {next : β → Action σ ε γ}
    {state after : σ} {answer : γ}
    (ran : (first >>= next).runOn state = (.ok answer, after)) :
    ∃ value middle, first.runOn state = (.ok value, middle) ∧
      (next value).runOn middle = (.ok answer, after) := by
  rw [runOn_bind] at ran
  rcases same : first.runOn state with ⟨result, middle⟩
  rw [same] at ran
  cases result with
  | error failure => exact nomatch (Prod.mk.inj ran).1
  | ok value => exact ⟨value, middle, rfl, ran⟩

end Action

end HotReload
