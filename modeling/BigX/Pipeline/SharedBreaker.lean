import BigX.Pipeline.Resilience
import BigX.Run.Callers

set_option autoImplicit false

/- Concurrent `with_retry` calls that share one breaker. Only a call's first attempt asks it:
a call that sleeps between two attempts does not look at it again when it wakes. -/
namespace BigX.Pipeline.SharedBreaker

open Run

/-- The loop of `with_retry`; what it catches is all of one kind. -/
def withRetry : Wrapper CircuitBreaker Rat Unit where
  allow := CircuitBreaker.allow
  recordSuccess := CircuitBreaker.recordSuccess
  afterFailure := fun _ failedAt _ attempt maxRetries circuit =>
    (if attempt < maxRetries then .backsOff else .raises, circuit.recordFailure failedAt)

/-- `CircuitBreaker(failure_threshold, recovery_timeout_seconds)` and no call yet. -/
def begin_ (failureThreshold : Nat) (recoveryTimeoutSeconds : Rat) : Callers CircuitBreaker :=
  ⟨⟨failureThreshold, recoveryTimeoutSeconds, 0, .closed, 0⟩, []⟩

/-- Open, and not yet long enough for a probe. -/
def Tripped (now : Rat) (circuit : CircuitBreaker) : Prop :=
  circuit.state = .openState ∧ now - circuit.openedAt < circuit.recoveryTimeoutSeconds

instance (now : Rat) (circuit : CircuitBreaker) : Decidable (Tripped now circuit) :=
  inferInstanceAs (Decidable (circuit.state = .openState ∧
    now - circuit.openedAt < circuit.recoveryTimeoutSeconds))

/-- A step that invokes the function does not do so on a breaker that is tripped. -/
def Spared {κ : Type} (entry : Run.Entry (Callers CircuitBreaker) (CallerMove Rat κ) (Option Rat)) :
    Prop :=
  ∀ now ∈ entry.output, ¬ Tripped now entry.after.guard

instance {κ : Type} (entry : Run.Entry (Callers CircuitBreaker) (CallerMove Rat κ) (Option Rat)) :
    Decidable (Spared entry) :=
  inferInstanceAs (Decidable (∀ now ∈ entry.output, ¬ Tripped now entry.after.guard))

/-- No call wakes for another attempt while the breaker is tripped. -/
def WakesUntripped (state : Callers CircuitBreaker) : CallerMove Rat Unit → Prop
  | .woke _ now => ¬ Tripped now state.guard
  | _ => True

/-- A breaker that is tripped refuses, and stays as it is. -/
theorem allow_eq_refused (askedAt : Rat) (circuit kept : CircuitBreaker) :
    circuit.allow askedAt = (false, kept) ↔ Tripped askedAt circuit ∧ kept = circuit := by
  unfold CircuitBreaker.allow Tripped
  split
  · rename_i closed
    simp [closed]
  · rename_i opened
    split
    · rename_i elapsed
      simp [opened, elapsed]
    · rename_i early
      simp [opened, not_le.mp early, eq_comm]
  · rename_i halfOpen
    simp [halfOpen]

/-- Whoever is let through finds the breaker closed or takes it for a probe. -/
theorem allow_untripped {askedAt : Rat} {circuit : CircuitBreaker}
    (allowed : (circuit.allow askedAt).1 = true) (now : Rat) :
    ¬ Tripped now (circuit.allow askedAt).2 := by
  suffices not_open : (circuit.allow askedAt).2.state ≠ .openState from
    fun tripped => not_open tripped.1
  revert allowed
  unfold CircuitBreaker.allow
  split
  · rename_i closed
    simp [closed]
  · split <;> simp
  · rename_i halfOpen
    simp [halfOpen]

/-- What a breaker that is not closed has counted. -/
def Counted (circuit : CircuitBreaker) : Prop :=
  circuit.state ≠ .closed → circuit.failureThreshold ≤ circuit.failures

theorem allow_counted {circuit : CircuitBreaker} (counted : Counted circuit) (askedAt : Rat) :
    Counted (circuit.allow askedAt).2 := by
  unfold CircuitBreaker.allow
  split
  · exact counted
  · rename_i opened
    split
    · intro _
      exact counted (by simp [opened])
    · exact counted
  · exact counted

theorem recordFailure_counted {circuit : CircuitBreaker} (counted : Counted circuit)
    (failedAt : Rat) : Counted (circuit.recordFailure failedAt) := by
  unfold CircuitBreaker.recordFailure
  dsimp only
  split
  · rename_i opens
    intro _
    rcases opens with halfOpen | reached
    · have enough := counted (by simp [halfOpen])
      exact Nat.le_succ_of_le enough
    · exact reached
  · intro not_closed
    exact Nat.le_succ_of_le (counted not_closed)

/-- A failure at the threshold opens the breaker anew, and no other failure leaves it open. -/
theorem tripped_recordFailure {circuit : CircuitBreaker} (counted : Counted circuit)
    (failedAt now : Rat) :
    Tripped now (circuit.recordFailure failedAt) ↔
      circuit.failureThreshold ≤ circuit.failures + 1 ∧
        now - failedAt < circuit.recoveryTimeoutSeconds := by
  unfold CircuitBreaker.recordFailure Tripped
  dsimp only
  split
  · rename_i opens
    have reached : circuit.failureThreshold ≤ circuit.failures + 1 := by
      rcases opens with halfOpen | reached
      · exact Nat.le_succ_of_le (counted (by simp [halfOpen]))
      · exact reached
    simp only [reached, true_and]
  · rename_i stays
    push Not at stays
    refine iff_of_false ?_ fun reached => absurd reached.1 (Nat.not_le_of_lt stays.2)
    rintro ⟨opened, -⟩
    change circuit.state = .openState at opened
    have enough := counted (by simp [opened])
    omega

theorem withRetry_spared_iff {before after : Callers CircuitBreaker} {move : CallerMove Rat Unit}
    {invoked : Option Rat} (accepted : withRetry.step move before = .ok (after, invoked)) :
    Spared ⟨before, move, invoked, after⟩ ↔ WakesUntripped before move := by
  unfold Spared
  dsimp only
  cases Wrapper.step_stepped accepted with
  | entered maxRetries askedAt now asked _ =>
    refine iff_of_true ?_ trivial
    rintro _ ⟨⟩
    exact allow_untripped asked now
  | woke index attempt maxRetries now calls taken =>
    simp only [Option.mem_some_iff, forall_eq', WakesUntripped]
  | wentOn index attempt maxRetries kind failedAt askedAt now guard calls taken failed =>
    simp only [withRetry, Prod.mk.injEq] at failed
    split at failed <;> cases failed.1
  | refused | unattempted | returned | raised | backedOff | cancelled =>
    exact iff_of_true (fun _ impossible => nomatch impossible) trivial

section Alone

variable {α : Type} (calls : Attempts α)

/-- The steps of a call with nothing in between, from an attempt on that is awaited. -/
def remainingMoves : (attempt remaining : Nat) → List (CallerMove Rat Unit)
  | _, 0 => []
  | attempt, remaining + 1 =>
      match calls.outcome attempt with
      | .ok _ => [.returned 0]
      | .error _ =>
          let failedAt := calls.clock attempt
          if remaining = 0 then [.raised 0 () failedAt failedAt failedAt]
          else .raised 0 () failedAt failedAt failedAt :: .woke 0 failedAt ::
            remainingMoves (attempt + 1) remaining

theorem retryLoop_uninterrupted (maxRetries : Nat) (circuit : CircuitBreaker)
    (lastError : String) (attempt remaining : Nat) (bound : attempt + remaining = maxRetries) :
    some (run withRetry.step ⟨circuit, [⟨attempt, maxRetries, false⟩]⟩
        (remainingMoves calls attempt (remaining + 1))).now.guard =
      (retryLoop calls maxRetries (some circuit) lastError attempt (remaining + 1)).circuit := by
  induction remaining generalizing circuit lastError attempt with
  | zero =>
    unfold remainingMoves retryLoop
    cases calls.outcome attempt with
    | ok value => rfl
    | error exc =>
      have last : ¬ attempt < maxRetries := by omega
      simp [run, Trace.extend, Wrapper.step, takeOut, withRetry, retryLoop, last]
  | succ remaining ih =>
    unfold remainingMoves retryLoop
    cases calls.outcome attempt with
    | ok value => rfl
    | error exc =>
      have more : attempt < maxRetries := by omega
      have failed : withRetry.step (.raised 0 () (calls.clock attempt) (calls.clock attempt)
          (calls.clock attempt)) ⟨circuit, [⟨attempt, maxRetries, false⟩]⟩ =
          .ok (⟨circuit.recordFailure (calls.clock attempt), [⟨attempt, maxRetries, true⟩]⟩,
            none) := by
        simp [Wrapper.step, takeOut, withRetry, more]
      have woke : withRetry.step (.woke 0 (calls.clock attempt))
          ⟨circuit.recordFailure (calls.clock attempt), [⟨attempt, maxRetries, true⟩]⟩ =
          .ok (⟨circuit.recordFailure (calls.clock attempt), [⟨attempt + 1, maxRetries, false⟩]⟩,
            some (calls.clock attempt)) := rfl
      simp only [Nat.add_eq_zero_iff, Nat.one_ne_zero, and_false, ↓reduceIte]
      rw [run_cons_now failed, run_cons_now woke]
      exact ih _ exc.text (attempt + 1) (by omega)

/-- With no other call in between, the breaker is left as `with_retry` leaves it. -/
theorem withRetry_uninterrupted (circuit : CircuitBreaker) (maxRetries : Nat)
    (shared : calls.circuit = some circuit)
    (allowed : (circuit.allow calls.asked).1 = true) :
    some (run withRetry.step ⟨circuit, []⟩ (.called maxRetries calls.asked calls.asked ::
        remainingMoves calls 1 maxRetries)).now.guard =
      (Pipeline.withRetry maxRetries calls).circuit := by
  have entered : withRetry.allow calls.asked circuit = (true, (circuit.allow calls.asked).2) :=
    Prod.ext allowed rfl
  unfold Pipeline.withRetry
  rw [shared]
  simp only [allowed, ↓reduceIte]
  cases maxRetries with
  | zero =>
    have called : withRetry.step (.called 0 calls.asked calls.asked) ⟨circuit, []⟩ =
        .ok (⟨(circuit.allow calls.asked).2, []⟩, none) := by
      simp only [Wrapper.step, entered, Nat.lt_irrefl, ↓reduceIte]
    rw [run_cons_now called]
    rfl
  | succ more =>
    have called : withRetry.step (.called (more + 1) calls.asked calls.asked) ⟨circuit, []⟩ =
        .ok (⟨(circuit.allow calls.asked).2, [⟨1, more + 1, false⟩]⟩, some calls.asked) := by
      simp only [Wrapper.step, entered, Nat.succ_pos, ↓reduceIte, List.nil_append]
    rw [run_cons_now called]
    exact retryLoop_uninterrupted calls (more + 1) _ "None" 1 more (Nat.add_comm 1 more)

end Alone

end BigX.Pipeline.SharedBreaker
