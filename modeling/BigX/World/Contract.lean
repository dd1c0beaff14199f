import BigX.Market.Steps
import BigX.Registry.Contract
import BigX.Revenue.Contract

set_option autoImplicit false

/- The token contract, the marketplace, the registry and the revenue tracker side by side.
The registry and the tracker keep an owner of their own for every agent; neither reads the
token contract. -/
namespace BigX.World

open Evm

structure State where
  exchange : Market.Exchange
  registry : Registry.State
  revenue : Revenue.State

inductive Call
  | exchange (call : Market.ExchangeCall)
  | registry (call : Registry.Call)
  | revenue (call : Revenue.Call)
  deriving DecidableEq

/-- A call from outside. No account has the zero address, so none calls from it. -/
structure Transaction where
  message : Message
  call : Call
  real : message.sender ≠ Address.zero

inductive Rest
  | exchange (rest : Market.ExchangeRest)
  | registry (rest : Registry.Rest)
  | revenue (rest : Revenue.Rest)

inductive Failure
  | exchange (reason : Market.ExchangeFailure)
  | registry (reason : Registry.Failure)
  | revenue (reason : Revenue.Failure)

inductive Event
  | exchange (event : Market.ExchangeEvent)
  | registry (event : Registry.Event)
  | revenue (event : Revenue.Event)
  deriving DecidableEq

abbrev Result : Type := Except Failure (Progress State Rest (List Event))

def liftExchange (state : State) (attempt : Market.ExchangeResult) : Result :=
  Progress.lift (fun exchange => { state with exchange := exchange }) .exchange (List.map .exchange) .exchange
    attempt

def liftRegistry (state : State) (attempt : Registry.Result) : Result :=
  Progress.lift (fun registry => { state with registry := registry }) .registry (List.map .registry) .registry
    attempt

def liftRevenue (state : State) (attempt : Revenue.Result) : Result :=
  Progress.lift (fun revenue => { state with revenue := revenue }) .revenue (List.map .revenue) .revenue
    attempt

def enter (market : Address) (transaction : Transaction) (state : State) : Result :=
  match transaction.call with
  | .exchange call => liftExchange state
      (Market.enter market ⟨transaction.message, call, transaction.real⟩ state.exchange)
  | .registry call => liftRegistry state (Registry.enter transaction.message call state.registry)
  | .revenue call => liftRevenue state (Revenue.enter ⟨transaction.message, call⟩ state.revenue)

def resume (rest : Rest) (state : State) : Result :=
  match rest with
  | .exchange rest => liftExchange state (Market.resumeExchange rest state.exchange)
  | .registry rest => liftRegistry state (Registry.resume rest state.registry)
  | .revenue rest => liftRevenue state (Revenue.resume rest state.revenue)

/-- The four contracts, with the marketplace at `market`. -/
def machine (market : Address) : Machine State Transaction Rest Failure (List Event) where
  enter := enter market
  resume := resume

/-- A stretch of one of the contracts that was not undone. -/
abbrev Entry : Type := Run.Entry State (Stretch Transaction Rest) (List Event)

end BigX.World
