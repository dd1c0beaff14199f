import BigX.Pipeline.Resilience

set_option autoImplicit false

/- What a breaker answers, told from what has been reported to it: the failures since the last
success, and when the last failure was. -/
namespace BigX.Pipeline

/-- What is reported to a breaker. -/
inductive Report
  | succeeded
  | failed (failedAt : Rat)
  deriving DecidableEq

def CircuitBreaker.take (report : Report) (circuit : CircuitBreaker) : CircuitBreaker :=
  match report with
  | .succeeded => circuit.recordSuccess
  | .failed failedAt => circuit.recordFailure failedAt

/-- The failures since the last success, and the time of the last failure. -/
structure Reported where
  failures : Nat
  lastFailure : Option Rat
  deriving DecidableEq

def Reported.none_ : Reported := ⟨0, none⟩

def Reported.take (report : Report) (reported : Reported) : Reported :=
  match report with
  | .succeeded => { reported with failures := 0 }
  | .failed failedAt => ⟨reported.failures + 1, some failedAt⟩

/-- Too few failures for the breaker, or the last of them long enough ago. -/
def Reported.Lets (failureThreshold : Nat) (recoveryTimeoutSeconds now : Rat)
    (reported : Reported) : Prop :=
  reported.failures < failureThreshold ∨
    ∃ failedAt, reported.lastFailure = some failedAt ∧ recoveryTimeoutSeconds ≤ now - failedAt

instance (failureThreshold : Nat) (recoveryTimeoutSeconds now : Rat) (reported : Reported) :
    Decidable (reported.Lets failureThreshold recoveryTimeoutSeconds now) :=
  match same : reported.lastFailure with
  | none => decidable_of_iff (reported.failures < failureThreshold) (by
      simp [Reported.Lets, same])
  | some failedAt => decidable_of_iff
      (reported.failures < failureThreshold ∨ recoveryTimeoutSeconds ≤ now - failedAt) (by
      simp [Reported.Lets, same])

example : Reported.Lets 5 30 36 ⟨5, some 6⟩ ∧ ¬ Reported.Lets 5 30 35 ⟨5, some 6⟩ := by
  decide +kernel

/-- The breaker, at the time `now`, is what was reported makes of it. -/
structure Agrees (now : Rat) (circuit : CircuitBreaker) (reported : Reported) : Prop where
  positive : 0 < circuit.failureThreshold
  failures : circuit.failures = reported.failures
  closed : circuit.state = .closed ↔ reported.failures < circuit.failureThreshold
  opened : circuit.state = .openState → reported.lastFailure = some circuit.openedAt
  halfOpen : circuit.state = .halfOpen → ∃ failedAt, reported.lastFailure = some failedAt ∧
    circuit.recoveryTimeoutSeconds ≤ now - failedAt

/-- The two settings of a breaker never change. -/
theorem allow_settings (now : Rat) (circuit : CircuitBreaker) :
    (circuit.allow now).2.failureThreshold = circuit.failureThreshold ∧
      (circuit.allow now).2.recoveryTimeoutSeconds = circuit.recoveryTimeoutSeconds := by
  unfold CircuitBreaker.allow
  split
  · exact ⟨rfl, rfl⟩
  · split <;> exact ⟨rfl, rfl⟩
  · exact ⟨rfl, rfl⟩

theorem take_settings (report : Report) (circuit : CircuitBreaker) :
    (circuit.take report).failureThreshold = circuit.failureThreshold ∧
      (circuit.take report).recoveryTimeoutSeconds = circuit.recoveryTimeoutSeconds := by
  cases report with
  | succeeded => exact ⟨rfl, rfl⟩
  | failed failedAt =>
    unfold CircuitBreaker.take CircuitBreaker.recordFailure
    dsimp only
    split <;> exact ⟨rfl, rfl⟩

variable {now later : Rat} {circuit : CircuitBreaker} {reported : Reported}

theorem agrees_new (failureThreshold : Nat) (recoveryTimeoutSeconds openedAt now : Rat)
    (positive : 0 < failureThreshold) :
    Agrees now ⟨failureThreshold, recoveryTimeoutSeconds, 0, .closed, openedAt⟩ .none_ where
  positive := positive
  failures := rfl
  closed := iff_of_true rfl positive
  opened := by
    intro same
    cases same
  halfOpen := by
    intro same
    cases same

theorem Agrees.pass (agrees : Agrees now circuit reported) (passed : now ≤ later) :
    Agrees later circuit reported where
  positive := agrees.positive
  failures := agrees.failures
  closed := agrees.closed
  opened := agrees.opened
  halfOpen := by
    intro same
    obtain ⟨failedAt, last, recovered⟩ := agrees.halfOpen same
    exact ⟨failedAt, last, recovered.trans (sub_le_sub_right passed failedAt)⟩

/-- The breaker lets a call through exactly if what was reported does. -/
theorem Agrees.allow_iff (agrees : Agrees now circuit reported) :
    (circuit.allow now).1 = true ↔
      reported.Lets circuit.failureThreshold circuit.recoveryTimeoutSeconds now := by
  unfold CircuitBreaker.allow Reported.Lets
  split
  next closed => exact iff_of_true rfl (Or.inl (agrees.closed.mp closed))
  next opened =>
    have enough : ¬ reported.failures < circuit.failureThreshold := by
      intro few
      rw [agrees.closed.mpr few] at opened
      cases opened
    have last := agrees.opened opened
    split
    next recovered => exact iff_of_true rfl (Or.inr ⟨circuit.openedAt, last, recovered⟩)
    next early =>
      refine iff_of_false (by simp) ?_
      rintro (few | ⟨failedAt, same, recovered⟩)
      · exact enough few
      · rw [last] at same
        cases same
        exact early recovered
  next halfOpen => exact iff_of_true rfl (Or.inr (agrees.halfOpen halfOpen))

theorem Agrees.allow (agrees : Agrees now circuit reported) :
    Agrees now (circuit.allow now).2 reported := by
  unfold CircuitBreaker.allow
  split
  next => exact agrees
  next opened =>
    split
    next recovered =>
      have enough : ¬ reported.failures < circuit.failureThreshold := by
        intro few
        rw [agrees.closed.mpr few] at opened
        cases opened
      refine ⟨agrees.positive, agrees.failures, ?_, ?_, ?_⟩
      · exact iff_of_false (by simp) enough
      · intro same
        cases same
      · intro _
        exact ⟨circuit.openedAt, agrees.opened opened, recovered⟩
    next => exact agrees
  next => exact agrees

theorem Agrees.recordSuccess (agrees : Agrees now circuit reported) :
    Agrees now circuit.recordSuccess (reported.take .succeeded) where
  positive := agrees.positive
  failures := rfl
  closed := iff_of_true rfl agrees.positive
  opened := by
    intro same
    cases same
  halfOpen := by
    intro same
    cases same

/-- Every failure from the threshold on opens the breaker anew. -/
theorem Agrees.recordFailure (agrees : Agrees now circuit reported) (failedAt : Rat) :
    Agrees now (circuit.recordFailure failedAt) (reported.take (.failed failedAt)) := by
  have failures := agrees.failures
  unfold CircuitBreaker.recordFailure Reported.take
  dsimp only
  split
  next opens =>
    have enough : circuit.failureThreshold ≤ circuit.failures + 1 := by
      rcases opens with halfOpen | reached
      · have notClosed : ¬ reported.failures < circuit.failureThreshold := by
          intro few
          rw [agrees.closed.mpr few] at halfOpen
          cases halfOpen
        omega
      · exact reached
    refine ⟨agrees.positive, by dsimp only; omega, ?_, ?_, ?_⟩
    · dsimp only
      exact iff_of_false (by simp) (by omega)
    · intro _
      rfl
    · intro same
      cases same
  next stays =>
    have few : circuit.failures + 1 < circuit.failureThreshold := by
      by_contra reached
      exact stays (Or.inr (by omega))
    have closed : circuit.state = .closed := agrees.closed.mpr (by omega)
    refine ⟨agrees.positive, by dsimp only; omega, ?_, ?_, ?_⟩
    · dsimp only
      exact iff_of_true closed (by omega)
    · intro opened
      dsimp only at opened
      rw [closed] at opened
      cases opened
    · intro halfOpen
      dsimp only at halfOpen
      rw [closed] at halfOpen
      cases halfOpen

theorem Agrees.take (agrees : Agrees now circuit reported) (report : Report) :
    Agrees now (circuit.take report) (reported.take report) := by
  cases report with
  | succeeded => exact agrees.recordSuccess
  | failed failedAt => exact agrees.recordFailure failedAt

end BigX.Pipeline
