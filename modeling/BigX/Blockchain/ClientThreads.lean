import BigX.Pipeline.BreakerHistory
import BigX.Run.Pool
import BigX.Run.Trace

set_option autoImplicit false

/- The threads of one contract client: `call`, `send` and the event getters share its breaker,
which each attempt asks before it turns to a provider. A revert is not reported to it. -/
namespace BigX.Blockchain.ClientThreads

open Pipeline (CircuitBreaker Report Reported Agrees)
open Run

inductive Kind
  | call
  | send
  | getEvent
  deriving DecidableEq

/-- A thread is about to ask the breaker, to get the provider, or to use the contract. -/
inductive Point
  | asking
  | connecting
  | using_
  deriving DecidableEq

structure Thread where
  kind : Kind
  functionName : String
  attempt : Nat
  point : Point

structure Settings where
  contractName : String
  network : String
  maxRetries : Nat

/-- How the use of the contract fails. -/
inductive Failure
  | reverted (cause : String)
  | other (cause : String)

inductive Error
  | providerUnavailable (network : String)
  | reverted (contractName functionName cause : String)
  | exhausted (contractName functionName cause : String)
  | other (cause : String)
  deriving DecidableEq

/-- How a thread ends. -/
abbrev Result := Except Error Unit

structure State where
  circuit : CircuitBreaker
  threads : List Thread

def State.begin_ : State := ⟨.new, []⟩

inductive Move
  | called (kind : Kind) (functionName : String) (now : Rat)
  | asked (index : Nat) (now : Rat)
  | connected (index : Nat) (provider : Except String Unit) (now : Rat)
  | used (index : Nat) (outcome : Except Failure Unit) (now : Rat)

def Move.time : Move → Rat
  | .called _ _ now => now
  | .asked _ now => now
  | .connected _ _ now => now
  | .used _ _ now => now

inductive Impossible
  | impossible

/-- A thread goes on, or ends with a result. -/
def goOn (circuit : CircuitBreaker) (threads : List Thread) (thread : Thread) :
    State × Option Result := (⟨circuit, threads ++ [thread]⟩, none)

def finish (circuit : CircuitBreaker) (threads : List Thread) (result : Result) :
    State × Option Result := (⟨circuit, threads⟩, some result)

/-- The first half of `_get_provider_and_contract`. -/
def Settings.ask (settings : Settings) (now : Rat) (circuit : CircuitBreaker)
    (thread : Thread) (threads : List Thread) : State × Option Result :=
  let allowed := circuit.allow now
  if allowed.1 then goOn allowed.2 threads { thread with point := .connecting }
  else finish allowed.2 threads (.error (.providerUnavailable settings.network))

/-- The second half. -/
def Settings.connect (settings : Settings) (provider : Except String Unit) (now : Rat)
    (circuit : CircuitBreaker) (thread : Thread) (threads : List Thread) :
    State × Option Result :=
  match provider with
  | .ok () => goOn circuit threads { thread with point := .using_ }
  | .error _ =>
      finish (circuit.recordFailure now) threads (.error (.providerUnavailable settings.network))

/-- The rest of an attempt, and what `call` and `send` do after it. -/
def Settings.use (settings : Settings) (outcome : Except Failure Unit) (now : Rat)
    (circuit : CircuitBreaker) (thread : Thread) (threads : List Thread) :
    State × Option Result :=
  match thread.kind, outcome with
  | .getEvent, .ok () => finish circuit threads (.ok ())
  | .getEvent, .error (.reverted cause) => finish circuit threads (.error (.other cause))
  | .getEvent, .error (.other cause) => finish circuit threads (.error (.other cause))
  | _, .ok () => finish circuit.recordSuccess threads (.ok ())
  | _, .error (.reverted cause) => finish circuit threads
      (.error (.reverted settings.contractName thread.functionName cause))
  | _, .error (.other cause) =>
      if thread.attempt < settings.maxRetries then
        goOn (circuit.recordFailure now) threads
          { thread with attempt := thread.attempt + 1, point := .asking }
      else finish (circuit.recordFailure now) threads
        (.error (.exhausted settings.contractName thread.functionName cause))

def Settings.step (settings : Settings) (move : Move) (state : State) :
    Except Impossible (State × Option Result) :=
  match move with
  | .called kind functionName _ =>
      if kind ≠ .getEvent ∧ settings.maxRetries = 0 then
        .ok (finish state.circuit state.threads
          (.error (.exhausted settings.contractName functionName "None")))
      else .ok (goOn state.circuit state.threads ⟨kind, functionName, 1, .asking⟩)
  | .asked index now =>
      match takeOut index state.threads with
      | some (⟨kind, functionName, attempt, .asking⟩, threads) =>
          .ok (settings.ask now state.circuit ⟨kind, functionName, attempt, .asking⟩ threads)
      | _ => .error .impossible
  | .connected index provider now =>
      match takeOut index state.threads with
      | some (⟨kind, functionName, attempt, .connecting⟩, threads) =>
          .ok (settings.connect provider now state.circuit
            ⟨kind, functionName, attempt, .connecting⟩ threads)
      | _ => .error .impossible
  | .used index outcome now =>
      match takeOut index state.threads with
      | some (⟨kind, functionName, attempt, .using_⟩, threads) =>
          .ok (settings.use outcome now state.circuit ⟨kind, functionName, attempt, .using_⟩
            threads)
      | _ => .error .impossible

abbrev history (settings : Settings) (moves : List Move) : Trace State Move (Option Result) :=
  run settings.step .begin_ moves

abbrev Entry := Run.Entry State Move (Option Result)

/-- What an entry reports to the breaker. -/
def report (entry : Entry) : Option Report :=
  match entry.input with
  | .called _ _ _ => none
  | .asked _ _ => none
  | .connected _ (.ok ()) _ => none
  | .connected _ (.error _) now => some (.failed now)
  | .used index outcome now =>
      match takeOut index entry.before.threads, outcome with
      | some (⟨.getEvent, _, _, _⟩, _), _ => none
      | _, .ok () => some .succeeded
      | _, .error (.reverted _) => none
      | _, .error (.other _) => some (.failed now)

/-- What has been reported. -/
def reported (past : List Entry) : Reported :=
  past.foldl (fun reported entry => (report entry).elim reported reported.take) .none_

theorem reported_snoc (past : List Entry) (entry : Entry) :
    reported (past ++ [entry]) =
      (report entry).elim (reported past) (reported past).take := by
  rw [reported, List.foldl_append]
  rfl

/-- Each attempt is let through exactly if what was reported lets it. -/
def Asked (past : List Entry) (entry : Entry) : Prop :=
  ∀ index now, entry.input = .asked index now →
    (entry.output = none ↔ (reported past).Lets 5 30 now)

/-- The breaker is what was reported makes of it, at every time that is still to come. -/
structure Held (past : List Entry) (now : State) : Prop where
  threshold : now.circuit.failureThreshold = 5
  recovery : now.circuit.recoveryTimeoutSeconds = 30
  agrees : ∀ time, (∀ entry ∈ past, entry.input.time ≤ time) →
    Agrees time now.circuit (reported past)

section Steps

variable {settings : Settings} {past : List Entry} {now after : State} {move : Move}
  {output : Option Result}

/-- What a step does to the breaker. -/
theorem step_circuit (accepted : settings.step move now = .ok (after, output)) :
    after.circuit = match move with
      | .asked _ time => (now.circuit.allow time).2
      | _ => (report ⟨now, move, output, after⟩).elim now.circuit now.circuit.take := by
  cases move with
  | called kind functionName time =>
    unfold Settings.step at accepted
    dsimp only at accepted
    split at accepted <;> cases accepted <;> rfl
  | asked index time =>
    unfold Settings.step at accepted
    dsimp only at accepted ⊢
    split at accepted
    · unfold Settings.ask at accepted
      dsimp only at accepted
      split at accepted <;> cases accepted <;> rfl
    · cases accepted
  | connected index provider time =>
    unfold Settings.step at accepted
    dsimp only at accepted ⊢
    split at accepted
    · cases provider with
      | ok done => cases accepted; rfl
      | error cause => cases accepted; rfl
    · cases accepted
  | used index outcome time =>
    unfold Settings.step at accepted
    dsimp only at accepted ⊢
    split at accepted
    · rename_i kind functionName attempt threads taken
      unfold report
      dsimp only
      rw [taken]
      unfold Settings.use at accepted
      cases outcome with
      | ok done => cases kind <;> cases accepted <;> rfl
      | error failure =>
        cases failure with
        | reverted cause => cases kind <;> cases accepted <;> rfl
        | other cause =>
          cases kind with
          | getEvent => cases accepted; rfl
          | call =>
            dsimp only at accepted
            split at accepted <;> cases accepted <;> rfl
          | send =>
            dsimp only at accepted
            split at accepted <;> cases accepted <;> rfl
    · cases accepted

/-- An attempt ends at the breaker exactly if it is refused there. -/
theorem step_asked {index : Nat} {time : Rat}
    (accepted : settings.step (.asked index time) now = .ok (after, output)) :
    output = none ↔ (now.circuit.allow time).1 = true := by
  unfold Settings.step at accepted
  dsimp only at accepted
  split at accepted
  · unfold Settings.ask at accepted
    dsimp only at accepted
    split at accepted
    next allowed =>
      cases accepted
      exact iff_of_true rfl allowed
    next refused =>
      cases accepted
      exact iff_of_false (by simp) refused
  · cases accepted

theorem begin_held : Held [] .begin_ where
  threshold := rfl
  recovery := rfl
  agrees := fun time _ => Pipeline.agrees_new 5 30 0 time (by decide)

/-- A breaker that is asked, or told what an entry reports. -/
theorem circuit_cases (accepted : settings.step move now = .ok (after, output)) :
    (after.circuit = (now.circuit.allow move.time).2 ∧ report ⟨now, move, output, after⟩ = none) ∨
      after.circuit =
        (report ⟨now, move, output, after⟩).elim now.circuit now.circuit.take := by
  have circuit := step_circuit accepted
  cases move with
  | called kind functionName time => exact Or.inr circuit
  | asked index time => exact Or.inl ⟨circuit, rfl⟩
  | connected index provider time => exact Or.inr circuit
  | used index outcome time => exact Or.inr circuit

theorem step_held (held : Held past now) (later : NotAfter Move.time past move)
    (accepted : settings.step move now = .ok (after, output)) :
    Held (past ++ [⟨now, move, output, after⟩]) after := by
  have agrees := held.agrees move.time later
  have settled : (after.circuit.failureThreshold = 5 ∧
      after.circuit.recoveryTimeoutSeconds = 30) ∧
      Agrees move.time after.circuit (reported (past ++ [⟨now, move, output, after⟩])) := by
    rw [reported_snoc]
    rcases circuit_cases accepted with ⟨asked, silent⟩ | told
    · obtain ⟨threshold, recovery⟩ := Pipeline.allow_settings move.time now.circuit
      rw [asked, silent, threshold, recovery]
      exact ⟨⟨held.threshold, held.recovery⟩, agrees.allow⟩
    · rw [told]
      cases report ⟨now, move, output, after⟩ with
      | none => exact ⟨⟨held.threshold, held.recovery⟩, agrees⟩
      | some report =>
        obtain ⟨threshold, recovery⟩ := Pipeline.take_settings report now.circuit
        simp only [Option.elim_some, threshold, recovery]
        exact ⟨⟨held.threshold, held.recovery⟩, agrees.take report⟩
  refine ⟨settled.1.1, settled.1.2, ?_⟩
  intro time all
  apply settled.2.pass
  exact all ⟨now, move, output, after⟩ (by simp)

theorem step_lets (held : Held past now) (later : NotAfter Move.time past move)
    (accepted : settings.step move now = .ok (after, output)) :
    Asked past ⟨now, move, output, after⟩ := by
  intro index time asked
  dsimp only at asked
  subst asked
  have agrees := held.agrees time later
  rw [step_asked accepted, agrees.allow_iff, held.threshold, held.recovery]

end Steps

/-- Two threads fail four times, a third one reverts and a fourth one fails. -/
def tripped : List Move :=
  [.called .call "getAgent" 0, .called .send "pause" 0, .asked 0 1, .connected 1 (.ok ()) 1,
    .used 1 (.error (.other "timeout")) 1, .asked 0 2, .connected 1 (.error "no node") 2,
    .asked 0 3, .connected 0 (.ok ()) 3, .used 0 (.error (.other "timeout")) 3, .asked 0 4,
    .connected 0 (.ok ()) 4, .used 0 (.error (.other "timeout")) 4, .called .call "getAgent" 5,
    .asked 0 5, .connected 0 (.ok ()) 5, .used 0 (.error (.reverted "no such agent")) 5,
    .called .call "getAgent" 6, .asked 0 6, .connected 0 (.error "no node") 6,
    .called .call "getAgent" 7, .asked 0 35, .called .call "getAgent" 36, .asked 0 36]

end BigX.Blockchain.ClientThreads
