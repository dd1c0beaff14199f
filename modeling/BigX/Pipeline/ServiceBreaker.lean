import BigX.Run.Callers
import Mathlib.Data.Rat.Defs
import Mathlib.Algebra.Order.Ring.Rat

set_option autoImplicit false

/- The orchestrator service's own breaker and `with_retry`. A probe is let through once, by
setting the state aside, and only its recorded outcome takes the state back. -/
namespace BigX.Pipeline.Service

open Run

/-- A reading of `time.time()`. -/
structure Clock where
  reading : Rat
  after_epoch : 0 < reading

inductive BreakerState
  | closed
  | openState
  | halfOpen
  deriving DecidableEq

structure CircuitBreaker where
  failureThreshold : Int
  recoveryTimeout : Rat
  failureCount : Nat
  state : BreakerState
  lastFailureTime : Option Clock

def CircuitBreaker.new (failureThreshold : Int) (recoveryTimeout : Rat) : CircuitBreaker :=
  ⟨failureThreshold, recoveryTimeout, 0, .closed, none⟩

def CircuitBreaker.recordSuccess (circuit : CircuitBreaker) : CircuitBreaker :=
  { circuit with failureCount := 0, state := .closed }

def CircuitBreaker.recordFailure (now : Clock) (circuit : CircuitBreaker) : CircuitBreaker :=
  let failureCount := circuit.failureCount + 1
  { circuit with
    failureCount := failureCount
    lastFailureTime := some now
    state := if circuit.failureThreshold ≤ failureCount then .openState else circuit.state }

/-- The second line of `can_execute` up to its `setattr`; a time of zero counts as none. -/
def CircuitBreaker.probes (now : Clock) (circuit : CircuitBreaker) : Bool :=
  match circuit.lastFailureTime with
  | none => false
  | some last => circuit.state = .openState ∧ last.reading ≠ 0 ∧
      circuit.recoveryTimeout ≤ now.reading - last.reading

def CircuitBreaker.canExecute (now : Clock) (circuit : CircuitBreaker) : Bool × CircuitBreaker :=
  if circuit.state = .closed then (true, circuit)
  else if circuit.probes now then (true, { circuit with state := .halfOpen })
  else (false, circuit)

/-- The loop of `with_retry`. An exception that is no `Exception` is a cancellation. -/
def withRetry : Wrapper CircuitBreaker Clock Unit where
  allow := CircuitBreaker.canExecute
  recordSuccess := CircuitBreaker.recordSuccess
  afterFailure := fun _ failedAt _ attempt maxRetries circuit =>
    (if attempt = maxRetries then .raises else .backsOff, circuit.recordFailure failedAt)

abbrev history (failureThreshold : Int) (recoveryTimeout : Rat)
    (moves : List (CallerMove Clock Unit)) :
    Trace (Callers CircuitBreaker) (CallerMove Clock Unit) (Option Clock) :=
  run withRetry.step ⟨.new failureThreshold recoveryTimeout, []⟩ moves

/-- With no call in progress and the recovery timeout over, the next call is let through. -/
def Recovers (state : Callers CircuitBreaker) : Prop :=
  state.calls = [] → ∀ now : Clock,
    (∀ last ∈ state.guard.lastFailureTime,
      last.reading + state.guard.recoveryTimeout ≤ now.reading) →
    (state.guard.canExecute now).1 = true

/-- No call is cancelled as the only one while a probe is out, and none without attempts is let
through as the probe. -/
def Concluded (state : Callers CircuitBreaker) : CallerMove Clock Unit → Prop
  | .called maxRetries askedAt _ =>
      maxRetries = 0 → state.calls = [] → state.guard.probes askedAt = false
  | .cancelled _ => state.calls.length = 1 → state.guard.state ≠ .halfOpen
  | _ => True

/-- A breaker that is not closed has failures on record. -/
structure Counted (circuit : CircuitBreaker) : Prop where
  reached : circuit.state ≠ .closed → circuit.failureThreshold ≤ circuit.failureCount
  failed : circuit.state ≠ .closed → circuit.lastFailureTime.isSome = true

/-- A call is let through without ceremony, let through as the probe, or refused. -/
theorem canExecute_cases (now : Clock) (circuit : CircuitBreaker) :
    (circuit.probes now = false ∧ circuit.canExecute now = (true, circuit) ∧
        circuit.state = .closed) ∨
      (circuit.probes now = true ∧
        circuit.canExecute now = (true, { circuit with state := .halfOpen })) ∨
      (circuit.probes now = false ∧ circuit.canExecute now = (false, circuit)) := by
  unfold CircuitBreaker.canExecute
  split
  · rename_i closed
    refine .inl ⟨?_, rfl, closed⟩
    unfold CircuitBreaker.probes
    split <;> simp [closed]
  · split
    · rename_i probe
      exact .inr (.inl ⟨probe, rfl⟩)
    · rename_i early
      exact .inr (.inr ⟨Bool.eq_false_iff.mpr early, rfl⟩)

theorem canExecute_counted {circuit : CircuitBreaker} (counted : Counted circuit)
    (now : Clock) : Counted (circuit.canExecute now).2 := by
  unfold CircuitBreaker.canExecute
  split
  · exact counted
  · rename_i not_closed
    split
    · exact ⟨fun _ => counted.reached not_closed, fun _ => counted.failed not_closed⟩
    · exact counted

theorem recordFailure_counted {circuit : CircuitBreaker} (counted : Counted circuit)
    (now : Clock) : Counted (circuit.recordFailure now) := by
  refine ⟨?_, fun _ => rfl⟩
  unfold CircuitBreaker.recordFailure
  dsimp only
  split
  · rename_i reached
    exact fun _ => reached
  · intro not_closed
    have enough := counted.reached not_closed
    omega

/-- A failure during a probe opens the breaker again. -/
theorem recordFailure_not_halfOpen {circuit : CircuitBreaker} (counted : Counted circuit)
    (now : Clock) : (circuit.recordFailure now).state ≠ .halfOpen := by
  unfold CircuitBreaker.recordFailure
  dsimp only
  split
  · exact nofun
  · rename_i below
    intro halfOpen
    have enough := counted.reached (by simp [halfOpen])
    omega

/-- Nobody is let through any more once the state is set aside and nobody is left to set it. -/
theorem recovers_iff {state : Callers CircuitBreaker} (counted : Counted state.guard) :
    Recovers state ↔ (state.calls = [] → state.guard.state ≠ .halfOpen) := by
  unfold Recovers
  apply forall_congr'
  intro idle
  unfold CircuitBreaker.canExecute CircuitBreaker.probes
  cases found : state.guard.state with
  | closed => simp
  | halfOpen =>
    refine iff_of_false ?_ (fun other => other rfl)
    intro always
    obtain ⟨last, failed⟩ := Option.isSome_iff_exists.mp (counted.failed (by simp [found]))
    have late := always ⟨max 1 (last.reading + state.guard.recoveryTimeout),
      lt_max_of_lt_left one_pos⟩
    simp [failed] at late
  | openState =>
    refine iff_of_true ?_ nofun
    intro now elapsed
    obtain ⟨last, failed⟩ := Option.isSome_iff_exists.mp (counted.failed (by simp [found]))
    have late := le_sub_iff_add_le'.mpr (elapsed last failed)
    simp [failed, last.after_epoch.ne', late]

theorem withRetry_counted {before after : Callers CircuitBreaker} {move : CallerMove Clock Unit}
    {invoked : Option Clock} (counted : Counted before.guard)
    (accepted : withRetry.step move before = .ok (after, invoked)) : Counted after.guard := by
  cases Wrapper.step_stepped accepted with
  | refused _ askedAt => exact canExecute_counted counted askedAt
  | entered _ askedAt => exact canExecute_counted counted askedAt
  | unattempted askedAt => exact canExecute_counted counted askedAt
  | returned =>
    exact ⟨fun not_closed => absurd rfl not_closed, fun not_closed => absurd rfl not_closed⟩
  | woke => exact counted
  | cancelled => exact counted
  | raised _ _ _ _ failedAt _ _ _ _ _ failed
  | backedOff _ _ _ _ failedAt _ _ _ _ _ failed
  | wentOn _ _ _ _ failedAt _ _ _ _ _ failed =>
    obtain rfl : before.guard.recordFailure failedAt = _ := congrArg Prod.snd failed
    exact recordFailure_counted counted failedAt

/-- A step from a state that recovers leads to one exactly under the condition. -/
theorem withRetry_recovers_iff {before after : Callers CircuitBreaker}
    {move : CallerMove Clock Unit} {invoked : Option Clock} (counted : Counted before.guard)
    (recovers : Recovers before) (accepted : withRetry.step move before = .ok (after, invoked)) :
    Recovers after ↔ Concluded before move := by
  rw [recovers_iff (withRetry_counted counted accepted)]
  rw [recovers_iff counted] at recovers
  have occupied (calls : List Call) (call : Call) : calls ++ [call] ≠ [] := by simp
  cases Wrapper.step_stepped accepted with
  | refused maxRetries askedAt now asked =>
    change (before.guard.canExecute askedAt).1 = false at asked
    rcases canExecute_cases askedAt before.guard with ⟨-, same, -⟩ | ⟨-, same⟩ | ⟨early, same⟩
    · simp [same] at asked
    · simp [same] at asked
    · refine iff_of_true ?_ (fun _ _ => early)
      change before.calls = [] → (before.guard.canExecute askedAt).2.state ≠ .halfOpen
      rwa [same]
  | entered maxRetries askedAt now asked some_ =>
    refine iff_of_true (fun idle => absurd idle (occupied _ _)) ?_
    rintro rfl
    exact absurd some_ (Nat.lt_irrefl 0)
  | unattempted askedAt now asked =>
    change (before.guard.canExecute askedAt).1 = true at asked
    change (before.calls = [] → (before.guard.canExecute askedAt).2.state ≠ .halfOpen) ↔ _
    unfold Concluded
    simp only [forall_const]
    apply forall_congr'
    intro idle
    rcases canExecute_cases askedAt before.guard with ⟨early, same, _⟩ | ⟨probe, same⟩ | ⟨-, same⟩
    · rw [same]
      exact iff_of_true (recovers idle) early
    · rw [same, probe]
      exact iff_of_false (fun other => other rfl) nofun
    · simp [same] at asked
  | returned => exact iff_of_true (fun _ => nofun) trivial
  | raised _ _ _ _ failedAt _ _ _ _ _ failed =>
    obtain rfl : before.guard.recordFailure failedAt = _ := congrArg Prod.snd failed
    exact iff_of_true (fun _ => recordFailure_not_halfOpen counted failedAt) trivial
  | backedOff => exact iff_of_true (fun idle => absurd idle (occupied _ _)) trivial
  | wentOn => exact iff_of_true (fun idle => absurd idle (occupied _ _)) trivial
  | woke => exact iff_of_true (fun idle => absurd idle (occupied _ _)) trivial
  | cancelled index call rest taken =>
    have length := (takeOut_perm taken).length_eq
    simp only [Concluded, length, List.length_cons, Nat.add_eq_right, List.length_eq_zero_iff]

/-- The breaker recovers in every state of a run, exactly if the last call in progress is never
cancelled while a probe is out, and no call without attempts is let through as the probe. -/
theorem breaker_recovers_iff (failureThreshold : Int) (recoveryTimeout : Rat)
    (moves : List (CallerMove Clock Unit)) :
    (∀ entry ∈ (history failureThreshold recoveryTimeout moves).past, Recovers entry.after) ↔
      Meets Concluded (history failureThreshold recoveryTimeout moves).past := by
  have fresh : Counted (.new failureThreshold recoveryTimeout) :=
    ⟨fun not_closed => absurd rfl not_closed, fun not_closed => absurd rfl not_closed⟩
  apply run_steps_iff withRetry.step _
    (fun state => Counted state.guard ∧ Recovers state) (fun entry => Recovers entry.after)
  · exact ⟨fresh, (recovers_iff fresh).mpr fun _ => nofun⟩
  · intro now move after invoked good accepted
    exact withRetry_recovers_iff good.1 good.2 accepted
  · intro now move after invoked good accepted concluded
    exact ⟨withRetry_counted good.1 accepted,
      (withRetry_recovers_iff good.1 good.2 accepted).mpr concluded⟩

section Sample

def second : Clock := ⟨1, one_pos⟩

theorem sixty_pos : (0 : Rat) < 60 := rfl

def minute : Clock := ⟨60, sixty_pos⟩

/-- One failure opens the breaker; a minute later the probe is cancelled while it is awaited. -/
def cancelledProbe : List (CallerMove Clock Unit) :=
  [.called 1 second second, .raised 0 () second second second, .called 1 minute minute,
    .cancelled 0]

/-- Nobody is let through any more, not even a minute after the failure. -/
theorem breaker_stuck :
    ¬ ∀ entry ∈ (history 1 30 cancelledProbe).past, Recovers entry.after := by
  intro always
  have last := always ((history 1 30 cancelledProbe).past.getLast (by decide +kernel))
    (List.getLast_mem _)
  have passes := last (by decide +kernel) minute (by decide +kernel)
  revert passes
  decide +kernel

end Sample

end BigX.Pipeline.Service
