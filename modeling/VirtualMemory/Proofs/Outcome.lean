/-
Module: VirtualMemory.Proofs.Outcome
Purpose: Statements on how an action ends, failure included, and the rules that
  put them together.
Main exports:
  Action.Ends and Action.Preserves, each with a rule for every way of putting
  actions together
-/
import VirtualMemory.Action

namespace VirtualMemory.Action

variable {σ τ ε ε' α β : Type}

/-- What holds of the way an action ends and of the state that it leaves. An action
always ends, so this says what happens and not only what might. -/
def Ends (action : Action σ ε α) (state : σ) (post : Except ε α → σ → Prop) : Prop :=
  post (action.outcome state).1 (action.outcome state).2

/-- What is known of every end is known of the one that comes out. -/
theorem Ends.outcome {action : Action σ ε α} {state next : σ} {result : Except ε α}
    {post : Except ε α → σ → Prop} (ends : action.Ends state post)
    (outcome : action.outcome state = (result, next)) : post result next := by
  rw [Ends, outcome] at ends
  exact ends

/-- What follows from an end may be said in its place. -/
theorem Ends.mono {action : Action σ ε α} {state : σ} {post weaker : Except ε α → σ → Prop}
    (ends : action.Ends state post)
    (weaken : ∀ result next, post result next → weaker result next) :
    action.Ends state weaker :=
  weaken _ _ ends

/-- Two things that are known of an end are known together. -/
theorem Ends.and {action : Action σ ε α} {state : σ} {first second : Except ε α → σ → Prop}
    (one : action.Ends state first) (two : action.Ends state second) :
    action.Ends state fun result next => first result next ∧ second result next :=
  ⟨one, two⟩

/-- An action ends in the one way in which it does. -/
theorem ends_self (action : Action σ ε α) (state : σ) :
    action.Ends state fun result next => action.outcome state = (result, next) := rfl

@[simp] theorem ends_pure {answer : α} {state : σ} {post : Except ε α → σ → Prop} :
    (pure answer : Action σ ε α).Ends state post ↔ post (.ok answer) state := Iff.rfl

@[simp] theorem ends_throw {cause : ε} {state : σ} {post : Except ε α → σ → Prop} :
    (throw cause : Action σ ε α).Ends state post ↔ post (.error cause) state := Iff.rfl

@[simp] theorem ends_get {state : σ} {post : Except ε σ → σ → Prop} :
    (get : Action σ ε σ).Ends state post ↔ post (.ok state) state := Iff.rfl

@[simp] theorem ends_set {next state : σ} {post : Except ε PUnit → σ → Prop} :
    (set next : Action σ ε PUnit).Ends state post ↔ post (.ok ()) next := Iff.rfl

@[simp] theorem ends_modify {change : σ → σ} {state : σ} {post : Except ε PUnit → σ → Prop} :
    (modify change : Action σ ε PUnit).Ends state post ↔ post (.ok ()) (change state) := Iff.rfl

@[simp] theorem ends_always {step : σ → α × σ} {state : σ} {post : Except ε α → σ → Prop} :
    (always step).Ends state post ↔ post (.ok (step state).1) (step state).2 := Iff.rfl

/-- What an action is followed by is reached only from its good endings. -/
theorem ends_bind {action : Action σ ε α} {rest : α → Action σ ε β} {state : σ}
    {post : Except ε β → σ → Prop} :
    (action >>= rest).Ends state post ↔
      action.Ends state fun result next =>
        match result with
        | .ok answer => (rest answer).Ends next post
        | .error cause => post (.error cause) next := by
  simp only [Ends, outcome_bind]
  rcases action.outcome state with ⟨_ | _, _⟩ <;> rfl

/-- What is known of a first part is what the second one starts from, unless the first failed. -/
theorem Ends.bind {action : Action σ ε α} {rest : α → Action σ ε β} {state : σ}
    {middle : Except ε α → σ → Prop} {post : Except ε β → σ → Prop}
    (first : action.Ends state middle)
    (good : ∀ answer next, middle (.ok answer) next → (rest answer).Ends next post)
    (bad : ∀ cause next, middle (.error cause) next → post (.error cause) next) :
    (action >>= rest).Ends state post := by
  rw [ends_bind]
  apply Ends.mono first
  intro result next holds
  cases result with
  | ok answer => exact good answer next holds
  | error cause => exact bad cause next holds

/-- A change of the answer leaves the error and the state alone. -/
theorem outcome_map (change : α → β) (action : Action σ ε α) (state : σ) :
    (change <$> action).outcome state =
      ((action.outcome state).1.map change, (action.outcome state).2) := by
  rw [map_eq_pure_bind, outcome_bind]
  rcases action.outcome state with ⟨_ | _, _⟩ <;> rfl

/-- A change of the answer leaves the state alone. -/
theorem snd_outcome_map (change : α → β) (action : Action σ ε α) (state : σ) :
    ((change <$> action).outcome state).2 = (action.outcome state).2 :=
  congrArg Prod.snd (outcome_map change action state)

/-- An update either takes its step or fails and leaves the state as it was. -/
theorem ends_update {step : σ → Except ε (α × σ)} {state : σ} {post : Except ε α → σ → Prop} :
    (update step).Ends state post ↔
      match step state with
      | .ok (answer, next) => post (.ok answer) next
      | .error cause => post (.error cause) state := by
  simp only [Ends, outcome_update]
  rcases step state with _ | ⟨_, _⟩ <;> rfl

/-- An inspection answers and leaves the state as it was. -/
theorem ends_inspect {question : σ → Except ε α} {state : σ} {post : Except ε α → σ → Prop} :
    (inspect question).Ends state post ↔ post (question state) state := by
  simp only [Ends, outcome_inspect]

theorem ends_conclude {result : Except ε α} {state : σ} {post : Except ε α → σ → Prop} :
    (conclude result).Ends state post ↔ post result state := by
  simp only [Ends, outcome_conclude]

/-- What is done to a part of a state is done to the state with that part in it. -/
theorem ends_within {part : σ → τ} {replace : σ → τ → σ} {action : Action τ ε α} {state : σ}
    {post : Except ε α → σ → Prop} :
    (action.within part replace).Ends state post ↔
      action.Ends (part state) fun result next => post result (replace state next) := by
  simp only [Ends, outcome_within]

/-- Only the error is put in other words. -/
theorem ends_causing {word : ε → ε'} {action : Action σ ε α} {state : σ}
    {post : Except ε' α → σ → Prop} :
    (action.causing word).Ends state post ↔
      action.Ends state fun result next => post (result.mapError word) next := by
  simp only [Ends, outcome_causing]

/-- An attempt never fails: it answers how the action ended. -/
theorem ends_attempt {action : Action σ ε α} {state : σ}
    {post : Except ε' (Except ε α) → σ → Prop} :
    (action.attempt : Action σ ε' (Except ε α)).Ends state post ↔
      action.Ends state fun result next => post (.ok result) next := by
  simp only [Ends, outcome_attempt]

/-- A closing step is taken however the action ended. -/
theorem ends_thenAlways {action : Action σ ε α} {close : σ → σ} {state : σ}
    {post : Except ε α → σ → Prop} :
    (action.thenAlways close).Ends state post ↔
      action.Ends state fun result next => post result (close next) := by
  simp only [Ends, outcome_thenAlways]

/-! ### Results -/

/-- A failure answers nothing. -/
theorem no_answer {cause : ε} {answer : α} {claim : Prop}
    (impossible : (Except.error cause : Except ε α) = .ok answer) : claim := by
  cases impossible

/-- An answer has no cause of failure. -/
theorem no_cause {cause : ε} {answer : α} {claim : Prop}
    (impossible : (Except.ok answer : Except ε α) = .error cause) : claim := by
  cases impossible

theorem mapError_ok (word : ε → ε') (answer : α) :
    (Except.ok answer : Except ε α).mapError word = .ok answer := rfl

theorem mapError_error (word : ε → ε') (cause : ε) :
    (Except.error cause : Except ε α).mapError word = .error (word cause) := rfl

/-! ### What an action preserves -/

/-- An action leaves a state with a property if it finds one, however it ends. -/
def Preserves (action : Action σ ε α) (invariant : σ → Prop) : Prop :=
  ∀ state, invariant state → action.Ends state fun _ next => invariant next

namespace Preserves

variable {invariant : σ → Prop} {action : Action σ ε α}

theorem pure (answer : α) : (Pure.pure answer : Action σ ε α).Preserves invariant :=
  fun _ holds => holds

theorem throw (cause : ε) :
    (MonadExcept.throw cause : Action σ ε α).Preserves invariant :=
  fun _ holds => holds

theorem get : (MonadState.get : Action σ ε σ).Preserves invariant := fun _ holds => holds

theorem inspect (question : σ → Except ε α) :
    (Action.inspect question).Preserves invariant := by
  intro state holds
  rw [ends_inspect]
  exact holds

theorem conclude (result : Except ε α) : (Action.conclude result).Preserves invariant := by
  intro state holds
  rw [ends_conclude]
  exact holds

/-- A change that keeps the invariant may be made at any time. -/
theorem modify {change : σ → σ} (keeps : ∀ state, invariant state → invariant (change state)) :
    (modify change : Action σ ε PUnit).Preserves invariant :=
  fun state holds => keeps state holds

/-- Only updates that succeed have to keep the invariant. -/
theorem update {step : σ → Except ε (α × σ)}
    (keeps : ∀ state, invariant state →
      ∀ answer next, step state = .ok (answer, next) → invariant next) :
    (Action.update step).Preserves invariant := by
  intro state holds
  rw [ends_update]
  cases stepped : step state with
  | error cause => exact holds
  | ok pair => exact keeps state holds pair.1 pair.2 stepped

/-- A step that cannot fail has to keep the invariant. -/
theorem always {step : σ → α × σ}
    (keeps : ∀ state, invariant state → invariant (step state).2) :
    (Action.always step : Action σ ε α).Preserves invariant :=
  fun state holds => keeps state holds

/-- An invariant is preserved by two actions in a row if both preserve it. -/
theorem bind {rest : α → Action σ ε β} (first : action.Preserves invariant)
    (others : ∀ answer, (rest answer).Preserves invariant) :
    (action >>= rest).Preserves invariant :=
  fun state holds =>
    (first state holds).bind (fun answer next => others answer next) (fun _ _ => id)

theorem map {change : α → β} (preserves : action.Preserves invariant) :
    (change <$> action).Preserves invariant := by
  rw [map_eq_pure_bind]
  exact preserves.bind fun answer => Preserves.pure (change answer)

theorem causing {word : ε → ε'} (preserves : action.Preserves invariant) :
    (action.causing word).Preserves invariant := by
  intro state holds
  rw [ends_causing]
  exact preserves state holds

/-- The closing step has to keep the invariant too. -/
theorem thenAlways {close : σ → σ} (preserves : action.Preserves invariant)
    (keeps : ∀ state, invariant state → invariant (close state)) :
    (action.thenAlways close).Preserves invariant := by
  intro state holds
  rw [ends_thenAlways]
  exact (preserves state holds).mono fun _ next after => keeps next after

end Preserves

end VirtualMemory.Action
