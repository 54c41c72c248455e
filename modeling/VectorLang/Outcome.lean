/-!
# Outcomes of statements

A statement changes a state and may stop with an error. What it did before the
error stays done, so an outcome holds the last state in both cases.
-/

namespace VectorLang

variable {α ε σ τ : Type}

/-- The state after a statement and the error that stopped it, if any. -/
structure Outcome (ε σ : Type) where
  error? : Option ε
  state : σ
  deriving DecidableEq, Repr

namespace Outcome

/-- Success in `state`. -/
def done (state : σ) : Outcome ε σ := ⟨none, state⟩

/-- Failure in `state`. -/
def failed (error : ε) (state : σ) : Outcome ε σ := ⟨some error, state⟩

/-- Go on from the state of a success; a failure stays as it is. -/
@[inline] def andThen (outcome : Outcome ε σ) (next : σ → Outcome ε σ) : Outcome ε σ :=
  match outcome with
  | ⟨none, state⟩ => next state
  | ⟨some error, state⟩ => ⟨some error, state⟩

/-- Go on with a computed value; if computing it failed, fail in `state`. -/
@[inline] def withValue (state : σ) (value : Except ε α) (next : α → Outcome ε σ) : Outcome ε σ :=
  match value with
  | .ok value => next value
  | .error error => failed error state

/-- Change the final state of a success and of a failure alike. -/
@[inline] def mapState (outcome : Outcome ε σ) (change : σ → τ) : Outcome ε τ :=
  ⟨outcome.error?, change outcome.state⟩

/-- Do `step` for one item after the other until the first failure. -/
def forEach (step : α → σ → Outcome ε σ) : List α → σ → Outcome ε σ
  | [], state => done state
  | item :: rest, state => (step item state).andThen (forEach step rest)

/-- The error of a failure, or nothing. -/
def result (outcome : Outcome ε σ) : Except ε Unit :=
  match outcome.error? with
  | none => .ok ()
  | some error => .error error

@[simp] theorem done_andThen (state : σ) (next : σ → Outcome ε σ) :
    (done state).andThen next = next state := rfl

@[simp] theorem failed_andThen (error : ε) (state : σ) (next : σ → Outcome ε σ) :
    (failed error state).andThen next = failed error state := rfl

@[simp] theorem withValue_ok (state : σ) (value : α) (next : α → Outcome ε σ) :
    withValue state (.ok value) next = next value := rfl

@[simp] theorem withValue_error (state : σ) (error : ε) (next : α → Outcome ε σ) :
    withValue state (.error error) next = failed error state := rfl

/-- It does not matter how a sequence of three is grouped. -/
theorem andThen_assoc (outcome : Outcome ε σ) (next last : σ → Outcome ε σ) :
    (outcome.andThen next).andThen last =
      outcome.andThen fun state => (next state).andThen last := by
  cases outcome with
  | mk error? state => cases error? <;> rfl

end Outcome

end VectorLang
