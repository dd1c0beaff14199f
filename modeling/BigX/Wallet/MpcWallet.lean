import BigX.Pipeline.SharedBreaker

set_option autoImplicit false

/- `MpcWalletClient._with_resilience`. Its `_CircuitBreaker` is the one of `with_retry`; after
a failure it asks the breaker whether to sleep, but tries again whatever the answer. -/
namespace BigX.Wallet.MpcWallet

open Run
open Pipeline (CircuitBreaker)
open Pipeline.SharedBreaker

inductive Failure
  | permanent
  | other
  deriving DecidableEq

/-- The loop of `_with_resilience`. -/
def withResilience : Wrapper CircuitBreaker Rat Failure where
  allow := CircuitBreaker.allow
  recordSuccess := CircuitBreaker.recordSuccess
  afterFailure := fun failure failedAt askedAt attempt maxRetries circuit =>
    let failed := circuit.recordFailure failedAt
    match failure with
    | .permanent => (.raises, failed)
    | .other =>
        if attempt < maxRetries then
          match failed.allow askedAt with
          | (true, allowed) => (.backsOff, allowed)
          | (false, refused) => (.goesOn, refused)
        else (.raises, failed)

/-- No call goes on to another attempt while the breaker is tripped: none wakes then, and a
failure that opens the breaker comes at a call's last attempt, or long enough before the next. -/
def GoesOnUntripped (state : Callers CircuitBreaker) : CallerMove Rat Failure → Prop
  | .woke _ now => ¬ Tripped now state.guard
  | .raised index .other failedAt askedAt now =>
      ∀ call ∈ state.calls[index]?, call.attempt < call.maxRetries →
        state.guard.failureThreshold ≤ state.guard.failures + 1 →
        askedAt - failedAt < state.guard.recoveryTimeoutSeconds →
        state.guard.recoveryTimeoutSeconds ≤ now - failedAt
  | _ => True

theorem withResilience_counted {before after : Callers CircuitBreaker}
    {move : CallerMove Rat Failure} {invoked : Option Rat} (counted : Counted before.guard)
    (accepted : withResilience.step move before = .ok (after, invoked)) : Counted after.guard := by
  have failure (failure : Failure) (failedAt askedAt : Rat) (attempt maxRetries : Nat) :
      Counted (withResilience.afterFailure failure failedAt askedAt attempt maxRetries
        before.guard).2 := by
    have failed := recordFailure_counted counted failedAt
    have asked := allow_counted failed askedAt
    cases failure with
    | permanent => exact failed
    | other =>
      simp only [withResilience]
      split
      · split
        · rename_i allowed answered
          rwa [answered] at asked
        · rename_i refused answered
          rwa [answered] at asked
      · exact failed
  cases Wrapper.step_stepped accepted with
  | refused _ askedAt _ _ => exact allow_counted counted askedAt
  | entered _ askedAt _ _ _ => exact allow_counted counted askedAt
  | unattempted askedAt _ _ => exact allow_counted counted askedAt
  | returned => exact fun not_closed => absurd rfl not_closed
  | woke => exact counted
  | cancelled => exact counted
  | raised _ attempt maxRetries kind failedAt askedAt _ _ _ _ failed
  | backedOff _ attempt maxRetries kind failedAt askedAt _ _ _ _ failed
  | wentOn _ attempt maxRetries kind failedAt askedAt _ _ _ _ failed =>
    have kept := failure kind failedAt askedAt attempt maxRetries
    rwa [failed] at kept

/-- A call goes on at once exactly when the breaker tells it to wait. -/
theorem afterFailure_goesOn (failure : Failure) (failedAt askedAt : Rat)
    (attempt maxRetries : Nat) (circuit guard : CircuitBreaker) :
    withResilience.afterFailure failure failedAt askedAt attempt maxRetries circuit =
        (.goesOn, guard) ↔
      failure = .other ∧ attempt < maxRetries ∧
        Tripped askedAt (circuit.recordFailure failedAt) ∧
          guard = circuit.recordFailure failedAt := by
  rw [← allow_eq_refused]
  cases failure with
  | permanent => simp [withResilience]
  | other =>
    simp only [withResilience]
    split
    · rename_i more
      split
      · rename_i answered
        simp [answered]
      · rename_i answered
        simp [answered, more]
    · rename_i last
      simp [last]

theorem withResilience_spared_iff {before after : Callers CircuitBreaker}
    {move : CallerMove Rat Failure} {invoked : Option Rat} (counted : Counted before.guard)
    (accepted : withResilience.step move before = .ok (after, invoked)) :
    Spared ⟨before, move, invoked, after⟩ ↔ GoesOnUntripped before move := by
  have waits {index attempt maxRetries : Nat} {failure : Failure} {failedAt askedAt now : Rat}
      {rest : List Call} {next : Afterwards} {guard : CircuitBreaker}
      (taken : takeOut index before.calls = some (⟨attempt, maxRetries, false⟩, rest))
      (failed : withResilience.afterFailure failure failedAt askedAt attempt maxRetries
        before.guard = (next, guard)) (stops : next ≠ .goesOn) :
      GoesOnUntripped before (.raised index failure failedAt askedAt now) := by
    cases failure with
    | permanent => trivial
    | other =>
      intro call found more reached early
      cases (takeOut_get taken).symm.trans found
      have goes := (afterFailure_goesOn .other failedAt askedAt attempt maxRetries before.guard
        _).mpr ⟨rfl, more, (tripped_recordFailure counted failedAt askedAt).mpr ⟨reached, early⟩,
          rfl⟩
      rw [failed] at goes
      exact absurd (congrArg Prod.fst goes) stops
  unfold Spared
  dsimp only
  cases Wrapper.step_stepped accepted with
  | entered maxRetries askedAt now asked _ =>
    refine iff_of_true ?_ trivial
    rintro _ ⟨⟩
    exact allow_untripped asked now
  | woke index attempt maxRetries now calls taken =>
    simp only [Option.mem_some_iff, forall_eq', GoesOnUntripped]
  | wentOn index attempt maxRetries failure failedAt askedAt now guard calls taken failed =>
    obtain ⟨rfl, more, asked, rfl⟩ := (afterFailure_goesOn _ _ _ _ _ _ _).mp failed
    obtain ⟨reached, early⟩ := (tripped_recordFailure counted failedAt askedAt).mp asked
    simp only [Option.mem_some_iff, forall_eq', tripped_recordFailure counted, reached, true_and,
      not_lt]
    constructor
    · intro late call found _ _ _
      exact late
    · intro untripped
      exact untripped _ (takeOut_get taken) more reached early
  | raised _ _ _ _ _ _ _ _ _ taken failed =>
    exact iff_of_true (fun _ impossible => nomatch impossible) (waits taken failed nofun)
  | backedOff _ _ _ _ _ _ _ _ _ taken failed =>
    exact iff_of_true (fun _ impossible => nomatch impossible) (waits taken failed nofun)
  | refused | unattempted | returned | cancelled =>
    exact iff_of_true (fun _ impossible => nomatch impossible) trivial

/-- In a run of concurrent calls the function is never invoked on a tripped breaker, exactly if
no call goes on to another attempt then; this holds of both retry loops. -/
theorem open_breaker_spared_iff (failureThreshold : Nat) (recoveryTimeoutSeconds : Rat) :
    (∀ moves, (∀ entry ∈ (run withRetry.step (begin_ failureThreshold recoveryTimeoutSeconds)
          moves).past, Spared entry) ↔
        Meets WakesUntripped (run withRetry.step (begin_ failureThreshold recoveryTimeoutSeconds)
          moves).past) ∧
      ∀ moves, (∀ entry ∈ (run withResilience.step
          (begin_ failureThreshold recoveryTimeoutSeconds) moves).past, Spared entry) ↔
        Meets GoesOnUntripped (run withResilience.step
          (begin_ failureThreshold recoveryTimeoutSeconds) moves).past := by
  constructor
  · apply run_entries_iff
    intro before move after invoked accepted
    exact withRetry_spared_iff accepted
  · apply run_steps_iff withResilience.step _ (fun state => Counted state.guard)
    · exact fun not_closed => absurd rfl not_closed
    · intro now move after invoked counted accepted
      exact withResilience_spared_iff counted accepted
    · intro now move after invoked counted accepted _
      exact withResilience_counted counted accepted

/-- Two calls of three attempts each that fail one after the other: the second one's second
failure is the fifth, and opens the breaker. -/
def fiveFailures {κ : Type} (kind : κ) : List (CallerMove Rat κ) :=
  [.called 3 0 0, .raised 0 kind 0 0 0, .woke 0 1, .raised 0 kind 1 1 1, .woke 0 3,
    .raised 0 kind 3 3 3, .called 3 3 3, .raised 0 kind 3 3 3, .woke 0 4, .raised 0 kind 4 4 4]

/-- Both loops call the function a sixth time while the breaker is open: one when it wakes two
seconds later, the other at once. -/
theorem open_breaker_called :
    (¬ ∀ entry ∈ (run withRetry.step (begin_ 5 30) (fiveFailures () ++ [.woke 0 6])).past,
        Spared entry) ∧
      ¬ ∀ entry ∈ (run withResilience.step (begin_ 5 30) (fiveFailures .other)).past,
        Spared entry := by
  decide +kernel

end BigX.Wallet.MpcWallet
