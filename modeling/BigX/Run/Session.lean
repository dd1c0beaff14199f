import Mathlib.Logic.Basic

set_option autoImplicit false

/- Commands on a state, one after the other, which return or fail. A failure leaves the state as
it is then, and may be caught. -/
namespace BigX.Run

abbrev Session (σ ε : Type) := ExceptT ε (StateM σ)

namespace Session

variable {σ ε α β : Type} {state after : σ}

/-- What comes of a session, and the state after it. -/
def outcome (session : Session σ ε α) (state : σ) : Except ε α × σ :=
  session.run.run state

@[simp] theorem outcome_pure (value : α) (state : σ) :
    outcome (pure value : Session σ ε α) state = (.ok value, state) := rfl

@[simp] theorem outcome_throw (fault : ε) (state : σ) :
    outcome (throw fault : Session σ ε α) state = (.error fault, state) := rfl

@[simp] theorem outcome_get (state : σ) :
    outcome (get : Session σ ε σ) state = (.ok state, state) := rfl

@[simp] theorem outcome_modify (change : σ → σ) (state : σ) :
    outcome (modify change : Session σ ε Unit) state = (.ok (), change state) := rfl

@[simp] theorem outcome_liftExcept (result : Except ε α) (state : σ) :
    outcome (liftExcept result : Session σ ε α) state = (result, state) := by
  cases result with
  | ok value => rfl
  | error fault => rfl

theorem outcome_bind (session : Session σ ε α) (next : α → Session σ ε β) (state : σ) :
    outcome (session >>= next) state =
      match outcome session state with
      | (.ok value, later) => outcome (next value) later
      | (.error fault, later) => (.error fault, later) := by
  show (ExceptT.bindCont next (session.run.run state).1).run (session.run.run state).2 = _
  unfold outcome
  obtain ⟨result, later⟩ := session.run.run state
  cases result with
  | ok value => rfl
  | error fault => rfl

theorem outcome_bind_of_ok {session : Session σ ε α} {next : α → Session σ ε β} {value : α}
    (returned : outcome session state = (.ok value, after)) :
    outcome (session >>= next) state = outcome (next value) after := by
  rw [outcome_bind, returned]

theorem outcome_get_bind (next : σ → Session σ ε β) (state : σ) :
    outcome (get >>= next) state = outcome (next state) state := by
  rw [outcome_bind, outcome_get]

/-- A sequence of two sessions returns exactly when both do. -/
theorem bind_ok {session : Session σ ε α} {next : α → Session σ ε β} {value : β}
    (done : outcome (session >>= next) state = (.ok value, after)) :
    ∃ first later, outcome session state = (.ok first, later) ∧
      outcome (next first) later = (.ok value, after) := by
  rw [outcome_bind] at done
  split at done
  next first later same => exact ⟨first, later, same, done⟩
  next => cases done

theorem outcome_tryCatch (session : Session σ ε α) (handler : ε → Session σ ε α) (state : σ) :
    outcome (tryCatch session handler) state =
      match outcome session state with
      | (.ok value, later) => (.ok value, later)
      | (.error fault, later) => outcome (handler fault) later := by
  simp only [outcome, tryCatch, tryCatchThe, MonadExceptOf.tryCatch, ExceptT.tryCatch,
    ExceptT.run, ExceptT.mk, StateT.run_bind]
  obtain ⟨result, later⟩ := StateT.run session state
  cases result with
  | ok value => rfl
  | error fault => rfl

/-- What a session comes to, also where it fails. -/
def attempt (session : Session σ ε α) : Session σ ε (Except ε α) :=
  tryCatch (session >>= fun value => pure (.ok value)) fun fault => pure (.error fault)

theorem outcome_attempt (session : Session σ ε α) (state : σ) :
    outcome (attempt session) state =
      (.ok (outcome session state).1, (outcome session state).2) := by
  rw [attempt, outcome_tryCatch, outcome_bind]
  obtain ⟨result, later⟩ := outcome session state
  cases result with
  | ok value => rfl
  | error fault => rfl

/-- All of the sessions in their order, whichever of them fail. -/
def gather : List (Session σ ε α) → Session σ ε (List (Except ε α))
  | [] => pure []
  | session :: rest => do
    let result ← attempt session
    let results ← gather rest
    pure (result :: results)

theorem gather_cons {session : Session σ ε α} {rest : List (Session σ ε α)} {result : Except ε α}
    {results : List (Except ε α)} {later : σ} (first : outcome session state = (result, later))
    (others : outcome (gather rest) later = (.ok results, after)) :
    outcome (gather (session :: rest)) state = (.ok (result :: results), after) := by
  have attempted : outcome (attempt session) state = (.ok result, later) := by
    rw [outcome_attempt, first]
  rw [gather, outcome_bind_of_ok attempted, outcome_bind_of_ok others]
  rfl

end Session

end BigX.Run
