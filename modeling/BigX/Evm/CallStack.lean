import BigX.Run.Trace

set_option autoImplicit false

/- A contract whose functions call out in the middle. While a call waits for its callee,
anybody can call the contract again; if the callee or what comes after it fails, the
whole call is undone. -/
namespace BigX.Evm

variable {σ ι κ ε ο : Type}

/-- How far a function got: to its end, or to a call it makes, with the rest pending. -/
inductive Progress (σ κ ο : Type)
  | done (state : σ) (output : ο)
  | calling (state : σ) (rest : κ) (output : ο)

/-- A contract: how each input starts, and how each pending rest goes on. -/
structure Machine (σ ι κ ε ο : Type) where
  enter : ι → σ → Except ε (Progress σ κ ο)
  resume : κ → σ → Except ε (Progress σ κ ο)

/-- A call that waits for its callee, with the state it started from. -/
structure Frame (σ κ : Type) where
  rest : κ
  snapshot : σ

structure Config (σ κ : Type) where
  state : σ
  stack : List (Frame σ κ)

/-- A new call, or the innermost callee returning or failing. -/
inductive Move (ι : Type)
  | call (input : ι)
  | returned
  | failed

/-- What became of a move: it wrote, or it undid the innermost call. -/
inductive Effect (ο : Type)
  | wrote (output : ο)
  | undone
  deriving DecidableEq

/-- A move that is not possible, or a call that reverts at once. -/
inductive Stuck (ε : Type)
  | idle
  | reverted (reason : ε)

def Progress.settle (progress : Progress σ κ ο) (snapshot : σ) (outer : List (Frame σ κ)) :
    Config σ κ × Effect ο :=
  match progress with
  | .done state output => (⟨state, outer⟩, .wrote output)
  | .calling state rest output => (⟨state, ⟨rest, snapshot⟩ :: outer⟩, .wrote output)

def Machine.step (machine : Machine σ ι κ ε ο) (move : Move ι) (config : Config σ κ) :
    Except (Stuck ε) (Config σ κ × Effect ο) :=
  match move with
  | .call input =>
      match machine.enter input config.state with
      | .ok progress => .ok (progress.settle config.state config.stack)
      | .error reason => .error (.reverted reason)
  | .returned =>
      match config.stack with
      | [] => .error .idle
      | frame :: outer =>
          match machine.resume frame.rest config.state with
          | .ok progress => .ok (progress.settle frame.snapshot outer)
          | .error _ => .ok (⟨frame.snapshot, outer⟩, .undone)
  | .failed =>
      match config.stack with
      | [] => .error .idle
      | frame :: outer => .ok (⟨frame.snapshot, outer⟩, .undone)

def Progress.state : Progress σ κ ο → σ
  | .done state _ => state
  | .calling state _ _ => state

def Progress.output : Progress σ κ ο → ο
  | .done _ output => output
  | .calling _ _ output => output

/-- The same progress, seen from a system that has this contract as a part. -/
def Progress.map {τ κ' ο' : Type} (wrap : σ → τ) (rest : κ → κ') (output : ο → ο') :
    Progress σ κ ο → Progress τ κ' ο'
  | .done state written => .done (wrap state) (output written)
  | .calling state pending written => .calling (wrap state) (rest pending) (output written)

@[simp] theorem map_state {τ κ' ο' : Type} (wrap : σ → τ) (rest : κ → κ') (output : ο → ο')
    (progress : Progress σ κ ο) : (progress.map wrap rest output).state = wrap progress.state := by
  cases progress <;> rfl

@[simp] theorem map_output {τ κ' ο' : Type} (wrap : σ → τ) (rest : κ → κ') (output : ο → ο')
    (progress : Progress σ κ ο) : (progress.map wrap rest output).output = output progress.output := by
  cases progress <;> rfl

/-- A function of a contract, seen from a system that has the contract as a part. -/
def Progress.lift {τ κ' ε' ο' : Type} (wrap : σ → τ) (rest : κ → κ') (output : ο → ο')
    (failure : ε → ε') (attempt : Except ε (Progress σ κ ο)) : Except ε' (Progress τ κ' ο') :=
  match attempt with
  | .ok progress => .ok (progress.map wrap rest output)
  | .error reason => .error (failure reason)

theorem lift_ok {τ κ' ε' ο' : Type} {wrap : σ → τ} {rest : κ → κ'} {output : ο → ο'}
    {failure : ε → ε'} {attempt : Except ε (Progress σ κ ο)} {progress : Progress τ κ' ο'}
    (accepted : Progress.lift wrap rest output failure attempt = .ok progress) :
    ∃ inner, attempt = .ok inner ∧ progress = inner.map wrap rest output := by
  cases attempt with
  | error reason => cases accepted
  | ok inner =>
    cases accepted
    exact ⟨inner, rfl, rfl⟩

@[simp] theorem settle_state (progress : Progress σ κ ο) (snapshot : σ)
    (outer : List (Frame σ κ)) : (progress.settle snapshot outer).1.state = progress.state := by
  cases progress <;> rfl

/-- A move that wrote ran a function's start or a pending rest on the present state. -/
theorem Machine.step_wrote (machine : Machine σ ι κ ε ο) (move : Move ι)
    (before after : Config σ κ) (output : ο)
    (accepted : machine.step move before = .ok (after, .wrote output)) :
    (∃ input progress, move = .call input ∧
        machine.enter input before.state = .ok progress ∧ after.state = progress.state) ∨
      ∃ frame progress, move = .returned ∧ frame ∈ before.stack ∧
        machine.resume frame.rest before.state = .ok progress ∧ after.state = progress.state := by
  cases move with
  | call input =>
    simp only [Machine.step] at accepted
    split at accepted
    · rename_i progress entered
      have same := congrArg (fun result : Config σ κ × Effect ο => result.1.state)
        (Except.ok.inj accepted)
      rw [settle_state] at same
      exact Or.inl ⟨input, progress, rfl, entered, same.symm⟩
    · cases accepted
  | returned =>
    simp only [Machine.step] at accepted
    split at accepted
    · cases accepted
    · rename_i frame outer stacked
      split at accepted
      · rename_i progress resumed
        have same := congrArg (fun result : Config σ κ × Effect ο => result.1.state)
          (Except.ok.inj accepted)
        rw [settle_state] at same
        exact Or.inr ⟨frame, progress, rfl, by simp [stacked], resumed, same.symm⟩
      · cases accepted
  | failed =>
    simp only [Machine.step] at accepted
    split at accepted <;> cases accepted

/-- A call that reverts at once is refused, so it undoes nothing. -/
theorem Machine.step_undone (machine : Machine σ ι κ ε ο) (move : Move ι)
    (before after : Config σ κ) (accepted : machine.step move before = .ok (after, .undone))
    (input : ι) : move ≠ .call input := by
  rintro rfl
  simp only [Machine.step] at accepted
  split at accepted
  · rename_i progress _
    cases progress <;> cases accepted
  · cases accepted

end BigX.Evm
