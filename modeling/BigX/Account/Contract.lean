import BigX.Policy.Steps
import BigX.Evm.Journal

set_option autoImplicit false

/- The agents' token bound accounts beside the policy engine. An account calls the target
of `execute` in the middle of the function, and the target, like everybody else, can call
any account and the engine again; a transaction is all that happens between two `begin_`. -/
namespace BigX.Account

open Evm

/-- The token that an account is bound to, from the end of its code. -/
structure Token where
  chainId : Uint256
  tokenContract : Address
  tokenId : Uint256
  deriving DecidableEq

/-- The block and transaction, the calls of `execute` under way, `ownerOf` of the token
contracts, each account's `state` and balance, and the engine. -/
structure World where
  timestamp : Uint256
  transactions : Nat
  depth : Nat
  owners : Address → Uint256 → Option Address
  state : Address → Uint256
  balance : Address → Nat
  engine : Policy.State

abbrev Failure : Type := Policy.Failure

inductive Call
  | begin_ (timestamp : Uint256)
  | execute (sender account : Address) (msgValue : Nat) (to_ : Address) (value : Uint256)
      (data : Calldata) (operation : BitVec 8)
  | receive_ (account : Address) (msgValue : Nat)
  | transferToken (tokenContract : Address) (tokenId : Uint256) (owner : Option Address)
  | engine (sender : Address) (call : Policy.Call)
  deriving DecidableEq

/-- What an `execute` does when its target has returned. -/
inductive Rest
  | returned (account : Address)
  deriving DecidableEq

/-- What a call to the engine returned and emitted. -/
abbrev Output : Type := Option Policy.Output

abbrev Result : Type := Except Failure (Progress World Rest Output)

section Chain

variable (chainId : Uint256) (token : Address → Option Token)

/-- `owner()` of the account bound to `bound`. -/
def owner (bound : Token) (world : World) : Except Failure Address :=
  if bound.chainId ≠ chainId then pure .zero
  else
    match world.owners bound.tokenContract bound.tokenId with
    | some account => pure account
    | none => .error .bubbled

/-- `execute` up to `to.call{value: value}(data)`. -/
def execute (sender account : Address) (msgValue : Nat) (value : Uint256)
    (operation : BitVec 8) (world : World) : Result := do
  match token account with
  | none => .error .bubbled
  | some bound =>
    let owner ← owner chainId bound world
    require (sender = owner) (.reason "Not token owner")
    require (operation = 0#8) (.reason "Only plain calls supported")
    let state ← checkedAdd (world.state account) 1#256
    let funds := world.balance account + msgValue
    require (value.toNat ≤ funds) (.reason "Call failed")
    pure (.calling
      { world with
        depth := world.depth + 1
        state := Function.update world.state account state
        balance := Function.update world.balance account (funds - value.toNat) }
      (.returned account) none)

/-- The next transaction, in the same block or a later one. -/
def begin_ (timestamp : Uint256) (world : World) : Result := do
  require (world.depth = 0 ∧ world.timestamp ≤ timestamp) .bubbled
  pure (.done { world with timestamp := timestamp, transactions := world.transactions + 1 } none)

def enter (keccak256 : List Byte → Bytes32) (call : Call) (world : World) : Result :=
  match call with
  | .begin_ timestamp => begin_ timestamp world
  | .execute sender account msgValue _ value _ operation =>
      execute chainId token sender account msgValue value operation world
  | .receive_ account msgValue =>
      .ok (.done { world with
        balance := Function.update world.balance account (world.balance account + msgValue) } none)
  | .transferToken tokenContract tokenId owner =>
      .ok (.done { world with
        owners := Function.update world.owners tokenContract
          (Function.update (world.owners tokenContract) tokenId owner) } none)
  | .engine sender call => do
      let result ← Policy.transact keccak256 ⟨⟨sender, world.timestamp⟩, call⟩ world.engine
      pure (.done { world with engine := result.1 } (some result.2))

/-- The target returned; had it failed, `execute` would have too. -/
def resume (rest : Rest) (world : World) : Result :=
  match rest with
  | .returned _ => .ok (.done { world with depth := world.depth - 1 } none)

def machine (keccak256 : List Byte → Bytes32) : Machine World Call Rest Failure Output where
  enter := enter chainId token keccak256
  resume := resume

end Chain

/-- A new engine before the first transaction. -/
def genesis (deployment : Message) (admin : Address) : World where
  timestamp := 0#256
  transactions := 0
  depth := 0
  owners := fun _ _ => none
  state := fun _ => 0#256
  balance := fun _ => 0
  engine := (Policy.deploy deployment admin).1

abbrev Entry : Type := Run.Entry World (Stretch Call Rest) Output

end BigX.Account
