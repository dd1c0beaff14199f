import BigX.Policy.TwoStep
import BigX.Run.Pool

set_option autoImplicit false

/- Executors that ask the engine, act, and record what they spent, each in transactions of
its own. Any number of actions are under way at a time. -/
namespace BigX.Policy.TwoStep

open Evm

/-- An allowed action under way; `above` when it was above the threshold for approvals. -/
structure Flight where
  action : Action
  above : Bool
  executedOn : Option Nat
  deriving DecidableEq

structure Executed where
  action : Action
  above : Bool
  day : Nat
  deriving DecidableEq

structure Executors where
  engine : State
  flights : List Flight
  executed : List Executed

/-- A transaction of anybody with the engine, or the next one of an executor: it asks, it
acts, it records. It may also give up before it acts. -/
inductive Deed
  | call (call : Call)
  | check (action : Action)
  | execute (index : Nat)
  | record (index : Nat)
  | giveUp (index : Nat)
  deriving DecidableEq

/-- The action that an executor asks for. -/
def Deed.checks : Deed → Option Action
  | .check action => some action
  | _ => none

structure Step where
  message : Message
  deed : Deed
  deriving DecidableEq

def Executors.initial (message : Message) (admin : Address) : Executors :=
  ⟨(deploy message admin).1, [], []⟩

inductive Refused
  | engine (reason : Failure)
  | notAllowed (reason : String)
  | noSuchFlight

def step (keccak256 : List Byte → Bytes32) (input : Step) (state : Executors) :
    Except Refused (Executors × Unit) :=
  match input.deed with
  | .call call =>
      match transact input.message call state.engine with
      | .error reason => .error (.engine reason)
      | .ok (engine, _) => .ok ({ state with engine := engine }, ())
  | .check action =>
      match checkAction keccak256 input.message action state.engine with
      | .error reason => .error (.engine reason)
      | .ok (false, reason) => .error (.notAllowed reason)
      | .ok (true, _) =>
          let policy := state.engine.policies action.nftId
          .ok ({ state with flights := state.flights ++
            [⟨action, decide (policy.humanApprovalThreshold < action.value), none⟩] }, ())
  | .execute index =>
      match Run.takeOut index state.flights with
      | some (⟨action, above, none⟩, rest) =>
          let today := input.message.today.toNat
          .ok ({ state with
            flights := rest ++ [⟨action, above, some today⟩]
            executed := state.executed ++ [⟨action, above, today⟩] }, ())
      | _ => .error .noSuchFlight
  | .record index =>
      match Run.takeOut index state.flights with
      | some (⟨action, _, some _⟩, rest) =>
          match recordSpend input.message action.nftId action.value state.engine with
          | .error reason => .error (.engine reason)
          | .ok (engine, _) => .ok ({ state with engine := engine, flights := rest }, ())
      | _ => .error .noSuchFlight
  | .giveUp index =>
      match Run.takeOut index state.flights with
      | some (⟨_, _, none⟩, rest) => .ok ({ state with flights := rest }, ())
      | _ => .error .noSuchFlight

abbrev Entry : Type := Run.Entry Executors Step Unit

/-- Every step in turn, from a deployed engine. -/
abbrev history (keccak256 : List Byte → Bytes32) (deployment : Message) (admin : Address)
    (steps : List Step) : Run.Trace Executors Step Unit :=
  Run.run (step keccak256) (.initial deployment admin) steps

/-- What a step did. -/
inductive Done (keccak256 : List Byte → Bytes32) (message : Message) (before after : Executors) :
    Deed → Prop
  | called (call : Call) (engine : State) (events : List Event)
      (accepted : transact message call before.engine = .ok (engine, events))
      (after_eq : after = { before with engine := engine }) :
      Done keccak256 message before after (.call call)
  | checked (action : Action)
      (allowed : Allowed keccak256 message action before.engine)
      (after_eq : after = { before with flights := before.flights ++
        [⟨action, decide ((before.engine.policies action.nftId).humanApprovalThreshold <
          action.value), none⟩] }) :
      Done keccak256 message before after (.check action)
  | executed (index : Nat) (action : Action) (above : Bool) (rest : List Flight)
      (taken : Run.takeOut index before.flights = some (⟨action, above, none⟩, rest))
      (after_eq : after = { before with
        flights := rest ++ [⟨action, above, some message.today.toNat⟩]
        executed := before.executed ++ [⟨action, above, message.today.toNat⟩] }) :
      Done keccak256 message before after (.execute index)
  | recorded (index : Nat) (action : Action) (above : Bool) (day : Nat) (rest : List Flight)
      (engine : State)
      (taken : Run.takeOut index before.flights = some (⟨action, above, some day⟩, rest))
      (recording : RecordStep message action.nftId action.value before.engine engine)
      (after_eq : after = { before with engine := engine, flights := rest }) :
      Done keccak256 message before after (.record index)
  | gaveUp (index : Nat) (action : Action) (above : Bool) (rest : List Flight)
      (taken : Run.takeOut index before.flights = some (⟨action, above, none⟩, rest))
      (after_eq : after = { before with flights := rest }) :
      Done keccak256 message before after (.giveUp index)

theorem step_done {keccak256 : List Byte → Bytes32} {message : Message} {deed : Deed}
    {before after : Executors} {output : Unit}
    (accepted : step keccak256 ⟨message, deed⟩ before = .ok (after, output)) :
    Done keccak256 message before after deed := by
  cases deed with
  | call call =>
    simp only [step] at accepted
    split at accepted
    · cases accepted
    · rename_i engine events returned
      cases accepted
      exact .called call engine events returned rfl
  | check action =>
    simp only [step] at accepted
    split at accepted
    · cases accepted
    · cases accepted
    · rename_i reason checked
      cases accepted
      exact .checked action (checkAction_allowed checked) rfl
  | execute index =>
    simp only [step] at accepted
    split at accepted
    · rename_i action above rest taken
      cases accepted
      exact .executed index action above rest taken rfl
    · cases accepted
  | record index =>
    simp only [step] at accepted
    split at accepted
    · rename_i action above day rest taken
      split at accepted
      · cases accepted
      · rename_i engine events returned
        cases accepted
        exact .recorded index action above day rest engine taken (recordSpend_ok returned) rfl
    · cases accepted
  | giveUp index =>
    simp only [step] at accepted
    split at accepted
    · rename_i action above rest taken
      cases accepted
      exact .gaveUp index action above rest taken rfl
    · cases accepted

end BigX.Policy.TwoStep
