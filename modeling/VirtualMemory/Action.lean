/-
Module: VirtualMemory.Action
Purpose: Operations on a state that may fail, and ways to put them together.
Main exports:
  Action, Action.outcome, Action.update, Action.within, Action.causing,
  Action.attempt, Action.thenAlways

What an action did before it failed stays done.
-/

namespace VirtualMemory

/-- An operation on a state `σ`. It answers a value of type `α` or fails with a
cause of type `ε`; either way it leaves a state behind. -/
abbrev Action (σ ε α : Type) := EStateM ε σ α

namespace Action

variable {σ τ ε ε' α β : Type}

/-- How an action ends, and the state that it leaves behind. -/
def outcome (action : Action σ ε α) (state : σ) : Except ε α × σ :=
  match action state with
  | .ok answer next => (.ok answer, next)
  | .error cause next => (.error cause, next)

@[simp] theorem outcome_pure (answer : α) (state : σ) :
    (pure answer : Action σ ε α).outcome state = (.ok answer, state) := rfl

@[simp] theorem outcome_throw (cause : ε) (state : σ) :
    (throw cause : Action σ ε α).outcome state = (.error cause, state) := rfl

@[simp] theorem outcome_get (state : σ) :
    (get : Action σ ε σ).outcome state = (.ok state, state) := rfl

@[simp] theorem outcome_set (next state : σ) :
    (set next : Action σ ε PUnit).outcome state = (.ok (), next) := rfl

@[simp] theorem outcome_modify (change : σ → σ) (state : σ) :
    (modify change : Action σ ε PUnit).outcome state = (.ok (), change state) := rfl

/-- What follows an action is reached only if the action does not fail. -/
theorem outcome_bind (action : Action σ ε α) (rest : α → Action σ ε β) (state : σ) :
    (action >>= rest).outcome state =
      match action.outcome state with
      | (.ok answer, next) => (rest answer).outcome next
      | (.error cause, next) => (.error cause, next) := by
  simp only [outcome, bind, EStateM.bind]
  cases action state <;> rfl

/-- A step that either changes the state or refuses and leaves it alone. -/
def update (step : σ → Except ε (α × σ)) : Action σ ε α := fun state =>
  match step state with
  | .ok (answer, next) => .ok answer next
  | .error cause => .error cause state

theorem outcome_update (step : σ → Except ε (α × σ)) (state : σ) :
    (update step).outcome state =
      match step state with
      | .ok (answer, next) => (.ok answer, next)
      | .error cause => (.error cause, state) := by
  simp only [outcome, update]
  cases step state <;> rfl

/-- A step that cannot fail. -/
def always (step : σ → α × σ) : Action σ ε α := fun state =>
  let (answer, next) := step state
  .ok answer next

@[simp] theorem outcome_always (step : σ → α × σ) (state : σ) :
    (always step : Action σ ε α).outcome state = (.ok (step state).1, (step state).2) := rfl

/-- A question that does not change the state. -/
def inspect (question : σ → Except ε α) : Action σ ε α := fun state =>
  match question state with
  | .ok answer => .ok answer state
  | .error cause => .error cause state

theorem outcome_inspect (question : σ → Except ε α) (state : σ) :
    (inspect question).outcome state = (question state, state) := by
  simp only [outcome, inspect]
  cases question state <;> rfl

/-- An action on a part of the state. -/
def within (part : σ → τ) (replace : σ → τ → σ) (action : Action τ ε α) :
    Action σ ε α := fun state =>
  match action (part state) with
  | .ok answer next => .ok answer (replace state next)
  | .error cause next => .error cause (replace state next)

theorem outcome_within (part : σ → τ) (replace : σ → τ → σ) (action : Action τ ε α)
    (state : σ) :
    (action.within part replace).outcome state =
      ((action.outcome (part state)).1, replace state (action.outcome (part state)).2) := by
  simp only [outcome, within]
  cases action (part state) <;> rfl

/-- The same action with its causes of failure put in other words. -/
def causing (word : ε → ε') (action : Action σ ε α) : Action σ ε' α := fun state =>
  match action state with
  | .ok answer next => .ok answer next
  | .error cause next => .error (word cause) next

theorem outcome_causing (word : ε → ε') (action : Action σ ε α) (state : σ) :
    (action.causing word).outcome state =
      ((action.outcome state).1.mapError word, (action.outcome state).2) := by
  simp only [outcome, causing]
  cases action state <;> rfl

/-- Runs an action and answers how it ended, failure included. -/
def attempt (action : Action σ ε α) : Action σ ε' (Except ε α) := fun state =>
  match action state with
  | .ok answer next => .ok (.ok answer) next
  | .error cause next => .ok (.error cause) next

theorem outcome_attempt (action : Action σ ε α) (state : σ) :
    (action.attempt : Action σ ε' (Except ε α)).outcome state =
      (.ok (action.outcome state).1, (action.outcome state).2) := by
  simp only [outcome, attempt]
  cases action state <;> rfl

/-- Runs an action and then changes the state, whether the action failed or
not. -/
def thenAlways (action : Action σ ε α) (close : σ → σ) : Action σ ε α := fun state =>
  match action state with
  | .ok answer next => .ok answer (close next)
  | .error cause next => .error cause (close next)

theorem outcome_thenAlways (action : Action σ ε α) (close : σ → σ) (state : σ) :
    (action.thenAlways close).outcome state =
      ((action.outcome state).1, close (action.outcome state).2) := by
  simp only [outcome, thenAlways]
  cases action state <;> rfl

/-- Ends as told. -/
def conclude (outcome : Except ε α) : Action σ ε α := fun state =>
  match outcome with
  | .ok answer => .ok answer state
  | .error cause => .error cause state

theorem outcome_conclude (result : Except ε α) (state : σ) :
    (conclude result).outcome state = (result, state) := by
  simp only [outcome, conclude]
  cases result <;> rfl

end Action

end VirtualMemory
