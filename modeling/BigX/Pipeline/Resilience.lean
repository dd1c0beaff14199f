import Mathlib.Data.Rat.Defs
import Mathlib.Algebra.Order.Ring.Rat

set_option autoImplicit false

/- Exceptions, the circuit breaker and `with_retry`. A clock reading is an input of the
call that takes it; so is what the wrapped function does at each attempt. -/
namespace BigX.Pipeline

/-- What can be raised; everything up to `transientDependency` is a
`PlanningPipelineError`. -/
inductive Exc
  | plannerParse (text : String)
  | unknownTool (toolName : String)
  | capabilityDenied (agentId requiredCapability : String)
  | memoryRetrieval (text : String)
  | toolResolution (text : String)
  | policyRejected (reason : String)
  | transientDependency (text : String)
  | other (text : String)
  deriving DecidableEq

/-- `str(exc)` -/
def Exc.text : Exc → String
  | .plannerParse text => text
  | .unknownTool toolName => "Unknown tool: " ++ toolName
  | .capabilityDenied agentId requiredCapability =>
      "Agent " ++ agentId ++ " lacks capability: " ++ requiredCapability
  | .memoryRetrieval text => text
  | .toolResolution text => text
  | .policyRejected reason => "Policy rejected: " ++ reason
  | .transientDependency text => text
  | .other text => text

/-- `isinstance(exc, PlanningPipelineError)` -/
def Exc.isPlanningPipelineError : Exc → Bool
  | .other _ => false
  | _ => true

def Exc.isTransientDependencyError : Exc → Bool
  | .transientDependency _ => true
  | _ => false

inductive CircuitState
  | closed
  | openState
  | halfOpen
  deriving DecidableEq

/-- `_opened_at` is only read after it was set. -/
structure CircuitBreaker where
  failureThreshold : Nat
  recoveryTimeoutSeconds : Rat
  failures : Nat
  state : CircuitState
  openedAt : Rat

/-- `CircuitBreaker()` -/
def CircuitBreaker.new : CircuitBreaker := ⟨5, 30, 0, .closed, 0⟩

/-- `allow()` at the time `now`, with the breaker it leaves. -/
def CircuitBreaker.allow (now : Rat) (circuit : CircuitBreaker) : Bool × CircuitBreaker :=
  match circuit.state with
  | .closed => (true, circuit)
  | .openState =>
      if circuit.recoveryTimeoutSeconds ≤ now - circuit.openedAt then
        (true, { circuit with state := .halfOpen })
      else (false, circuit)
  | .halfOpen => (true, circuit)

def CircuitBreaker.recordSuccess (circuit : CircuitBreaker) : CircuitBreaker :=
  { circuit with failures := 0, state := .closed }

def CircuitBreaker.recordFailure (now : Rat) (circuit : CircuitBreaker) : CircuitBreaker :=
  let failures := circuit.failures + 1
  if circuit.state = .halfOpen ∨ circuit.failureThreshold ≤ failures then
    { circuit with failures := failures, state := .openState, openedAt := now }
  else { circuit with failures := failures }

/-- How one `with_retry` call will go: the breaker as it finds it (other tasks share it),
and for each attempt what the wrapped function does and when a failure is recorded. -/
structure Attempts (α : Type) where
  circuit : Option CircuitBreaker
  asked : Rat
  outcome : Nat → Except Exc α
  clock : Nat → Rat

/-- The result of `with_retry`, with the outcomes of the attempts it made and the breaker
it leaves. -/
structure Retried (α : Type) where
  result : Except Exc α
  made : List (Except Exc α)
  circuit : Option CircuitBreaker

variable {α : Type}

/-- The loop over the attempts, `remaining` of them left. -/
def retryLoop (calls : Attempts α) (maxRetries : Nat) (circuit : Option CircuitBreaker)
    (lastError : String) : (attempt remaining : Nat) → Retried α
  | _, 0 =>
      ⟨.error (.transientDependency
        ("Failed after " ++ toString maxRetries ++ " attempts: " ++ lastError)), [], circuit⟩
  | attempt, remaining + 1 =>
      match calls.outcome attempt with
      | .ok value => ⟨.ok value, [.ok value], circuit.map CircuitBreaker.recordSuccess⟩
      | .error exc =>
          let rest := retryLoop calls maxRetries
            (circuit.map (CircuitBreaker.recordFailure (calls.clock attempt))) exc.text
            (attempt + 1) remaining
          { rest with made := .error exc :: rest.made }

def withRetry (maxRetries : Nat) (calls : Attempts α) : Retried α :=
  match calls.circuit with
  | none => retryLoop calls maxRetries none "None" 1 maxRetries
  | some circuit =>
      let allowed := circuit.allow calls.asked
      if allowed.1 then retryLoop calls maxRetries (some allowed.2) "None" 1 maxRetries
      else
        ⟨.error (.transientDependency "Circuit breaker open — dependency likely degraded"), [],
          some allowed.2⟩

/-- The breaker lets the call through. -/
def Attempts.admitted (calls : Attempts α) : Bool :=
  match calls.circuit with
  | none => true
  | some circuit => (circuit.allow calls.asked).1

/-- The call is let through and one of its first `maxRetries` attempts does not raise. -/
def Attempts.Answers (maxRetries : Nat) (calls : Attempts α) : Prop :=
  calls.admitted = true ∧ ∃ attempt value, 1 ≤ attempt ∧ attempt ≤ maxRetries ∧
    calls.outcome attempt = .ok value

/-- A value comes from the last attempt that was made. -/
theorem retryLoop_ok (calls : Attempts α) (maxRetries : Nat) (circuit : Option CircuitBreaker)
    (lastError : String) (attempt remaining : Nat) (value : α)
    (returned : (retryLoop calls maxRetries circuit lastError attempt remaining).result =
      .ok value) :
    .ok value ∈ (retryLoop calls maxRetries circuit lastError attempt remaining).made := by
  induction remaining generalizing circuit lastError attempt with
  | zero => cases returned
  | succ remaining ih =>
    unfold retryLoop at returned ⊢
    split at returned
    · cases returned
      exact List.mem_singleton_self _
    · exact List.mem_cons_of_mem _ (ih _ _ _ returned)

theorem withRetry_ok (maxRetries : Nat) (calls : Attempts α) (value : α)
    (returned : (withRetry maxRetries calls).result = .ok value) :
    .ok value ∈ (withRetry maxRetries calls).made := by
  unfold withRetry at returned ⊢
  split at returned
  · exact retryLoop_ok calls maxRetries _ _ _ _ value returned
  · rename_i circuit _
    by_cases allowed : (circuit.allow calls.asked).1 = true
    · simp only [allowed, ↓reduceIte] at returned ⊢
      exact retryLoop_ok calls maxRetries _ _ _ _ value returned
    · simp only [allowed] at returned
      cases returned

/-- The loop stops at its first success. -/
theorem retryLoop_made (calls : Attempts α) (maxRetries : Nat) (circuit : Option CircuitBreaker)
    (lastError : String) (attempt remaining : Nat) (value : α)
    (made : .ok value ∈ (retryLoop calls maxRetries circuit lastError attempt remaining).made) :
    (retryLoop calls maxRetries circuit lastError attempt remaining).result = .ok value := by
  induction remaining generalizing circuit lastError attempt with
  | zero => cases made
  | succ remaining ih =>
    unfold retryLoop at made ⊢
    split at made
    · cases List.mem_singleton.mp made
      rfl
    · rcases List.mem_cons.mp made with first | later
      · cases first
      · exact ih _ _ _ later

theorem withRetry_made (maxRetries : Nat) (calls : Attempts α) (value : α)
    (made : .ok value ∈ (withRetry maxRetries calls).made) :
    (withRetry maxRetries calls).result = .ok value := by
  unfold withRetry at made ⊢
  split at made
  · exact retryLoop_made calls maxRetries _ _ _ _ value made
  · rename_i circuit _
    by_cases allowed : (circuit.allow calls.asked).1 = true
    · simp only [allowed, ↓reduceIte] at made ⊢
      exact retryLoop_made calls maxRetries _ _ _ _ value made
    · simp only [allowed] at made
      cases made

/-- An attempt that succeeds ends the loop with a value, unless an earlier one did. -/
theorem retryLoop_answers (calls : Attempts α) (maxRetries : Nat)
    (circuit : Option CircuitBreaker) (lastError : String) (attempt remaining good : Nat)
    (value : α) (lower : attempt ≤ good) (upper : good < attempt + remaining)
    (succeeds : calls.outcome good = .ok value) :
    ∃ returned, (retryLoop calls maxRetries circuit lastError attempt remaining).result =
      .ok returned := by
  induction remaining generalizing circuit lastError attempt with
  | zero => omega
  | succ remaining ih =>
    unfold retryLoop
    split
    · exact ⟨_, rfl⟩
    · rename_i exc failed
      have later : attempt ≠ good := by
        rintro rfl
        rw [succeeds] at failed
        cases failed
      exact ih _ _ (attempt + 1) (by omega) (by omega)

theorem withRetry_answers (maxRetries : Nat) (calls : Attempts α)
    (answers : calls.Answers maxRetries) :
    ∃ returned, (withRetry maxRetries calls).result = .ok returned := by
  obtain ⟨admitted, good, value, lower, upper, succeeds⟩ := answers
  unfold withRetry
  unfold Attempts.admitted at admitted
  split at admitted
  · exact retryLoop_answers calls maxRetries _ _ 1 maxRetries good value lower (by omega) succeeds
  · simp only [admitted, ↓reduceIte]
    exact retryLoop_answers calls maxRetries _ _ 1 maxRetries good value lower (by omega) succeeds

/-- The call is let through, and the first of its attempts that does not raise is among the
first `maxRetries` and returns the value. -/
def Attempts.Yields (maxRetries : Nat) (calls : Attempts α) (value : α) : Prop :=
  calls.admitted = true ∧ ∃ attempt, 1 ≤ attempt ∧ attempt ≤ maxRetries ∧
    calls.outcome attempt = .ok value ∧
    ∀ earlier, 1 ≤ earlier → earlier < attempt → ∃ exc, calls.outcome earlier = .error exc

theorem retryLoop_eq_ok (calls : Attempts α) (maxRetries : Nat) (circuit : Option CircuitBreaker)
    (lastError : String) (attempt remaining : Nat) (value : α) :
    (retryLoop calls maxRetries circuit lastError attempt remaining).result = .ok value ↔
      ∃ good, attempt ≤ good ∧ good < attempt + remaining ∧ calls.outcome good = .ok value ∧
        ∀ earlier, attempt ≤ earlier → earlier < good →
          ∃ exc, calls.outcome earlier = .error exc := by
  induction remaining generalizing circuit lastError attempt with
  | zero =>
    refine iff_of_false (by simp [retryLoop]) ?_
    rintro ⟨good, lower, upper, -⟩
    omega
  | succ remaining ih =>
    unfold retryLoop
    split
    · rename_i first succeeded
      constructor
      · intro returned
        refine ⟨attempt, Nat.le_refl _, by omega, succeeded.trans returned, ?_⟩
        intro earlier lower upper
        omega
      · rintro ⟨good, lower, -, succeeds, failures⟩
        rcases Nat.lt_or_eq_of_le lower with later | same
        · obtain ⟨exc, failed⟩ := failures attempt (Nat.le_refl _) later
          rw [succeeded] at failed
          cases failed
        · rw [← same, succeeded] at succeeds
          exact succeeds
    · rename_i exc failed
      refine Iff.trans (ih _ _ _) ?_
      constructor
      · rintro ⟨good, lower, upper, succeeds, failures⟩
        refine ⟨good, by omega, by omega, succeeds, ?_⟩
        intro earlier from_ below
        rcases Nat.lt_or_eq_of_le from_ with later | same
        · exact failures earlier later below
        · exact ⟨exc, same ▸ failed⟩
      · rintro ⟨good, lower, upper, succeeds, failures⟩
        have different : attempt ≠ good := by
          rintro rfl
          rw [succeeds] at failed
          cases failed
        refine ⟨good, by omega, by omega, succeeds, ?_⟩
        intro earlier from_ below
        exact failures earlier (by omega) below

/-- What `with_retry` returns. -/
theorem withRetry_eq_ok (maxRetries : Nat) (calls : Attempts α) (value : α) :
    (withRetry maxRetries calls).result = .ok value ↔ calls.Yields maxRetries value := by
  have bound : ∀ attempt, attempt < 1 + maxRetries ↔ attempt ≤ maxRetries := by omega
  unfold withRetry Attempts.Yields Attempts.admitted
  split
  · simp only [retryLoop_eq_ok, bound, true_and]
  · rename_i circuit _
    by_cases allowed : (circuit.allow calls.asked).1 = true
    · simp only [allowed, ↓reduceIte, retryLoop_eq_ok, bound, true_and]
    · simp only [allowed, Bool.false_eq_true, ↓reduceIte, reduceCtorEq, false_and]

theorem Attempts.Yields.answers {maxRetries : Nat} {calls : Attempts α} {value : α}
    (yields : calls.Yields maxRetries value) : calls.Answers maxRetries := by
  obtain ⟨admitted, attempt, lower, upper, succeeds, -⟩ := yields
  exact ⟨admitted, attempt, value, lower, upper, succeeds⟩

theorem Attempts.Yields.unique {maxRetries : Nat} {calls : Attempts α} {first second : α}
    (yields : calls.Yields maxRetries first) (also : calls.Yields maxRetries second) :
    first = second := by
  rw [← withRetry_eq_ok] at yields also
  exact Except.ok.inj (yields.symm.trans also)

end BigX.Pipeline
