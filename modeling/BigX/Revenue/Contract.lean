import BigX.Evm.AccessControl
import BigX.Evm.Journal

set_option autoImplicit false

/- The revenue tracker: earnings per agent, a share of them for the agent it was forked
from, and withdrawals by the owner the tracker was last told about. A withdrawal calls
that owner, who may call anything in turn. -/
namespace BigX.Revenue

open Evm

inductive Role
  | defaultAdmin
  | treasury
  | other (id : Bytes32)
  deriving DecidableEq

abbrev Uint96 := BitVec 96

structure LineageInfo where
  parentNftId : Uint256
  royaltyBps : Uint96
  hasParent : Bool
  deriving DecidableEq

inductive Event
  | revenueRecorded (nftId amount : Uint256) (source : String)
  | lineageSet (nftId parentNftId : Uint256) (royaltyBps : Uint96)
  | withdrawn (nftId : Uint256) (target : Address) (amount : Uint256)
  | roles (event : RoleEvent Role)
  deriving DecidableEq

/-- The tracker's storage, with the ETH of its account. -/
structure State where
  roles : AccessControl Role
  entered : Bool
  totalEarned : Uint256 → Uint256
  withdrawable : Uint256 → Uint256
  lineage : Uint256 → LineageInfo
  agentOwnerCache : Uint256 → Address
  balance : Nat

abbrev Failure : Type := Revert Role Empty

/-- What is left of a call while another contract runs: a withdrawal waiting for the
owner it pays, or the call of a contract that is not the tracker. -/
inductive Rest
  | withdrawing (nftId : Uint256) (owner : Address) (amount : Uint256)
  | elsewhere

abbrev Result : Type := Except Failure (Progress State Rest (List Event))

/-- The constructor. The account may hold ETH before there is code at it. -/
def deploy (message : Message) (admin : Address) (balance : Nat) : State × List Event :=
  let first := AccessControl.empty.grant Role.defaultAdmin admin message.sender
  let second := first.1.grant .treasury admin message.sender
  ({ roles := second.1
     entered := false
     totalEarned := fun _ => 0#256
     withdrawable := fun _ => 0#256
     lineage := fun _ => ⟨0#256, 0#96, false⟩
     agentOwnerCache := fun _ => Address.zero
     balance := balance },
   (first.2 ++ second.2).map .roles)

def syncOwner (message : Message) (nftId : Uint256) (owner : Address) (state : State) : Result := do
  onlyRole state.roles .treasury message
  pure (.done { state with
    agentOwnerCache := Function.update state.agentOwnerCache nftId owner } [])

def setLineage (message : Message) (nftId parentNftId : Uint256) (royaltyBps : Uint96)
    (state : State) : Result := do
  onlyRole state.roles .defaultAdmin message
  require (royaltyBps ≤ 5000#96) (.reason "Royalty too high")
  pure (.done { state with
    lineage := Function.update state.lineage nftId ⟨parentNftId, royaltyBps, true⟩ }
    [.lineageSet nftId parentNftId royaltyBps])

/-- `ledger[key] += amount` -/
def credit (ledger : Uint256 → Uint256) (key amount : Uint256) :
    Except Failure (Uint256 → Uint256) := do
  let sum ← checkedAdd (ledger key) amount
  pure (Function.update ledger key sum)

/-- The share of the parent and the rest, which may go to one entry. -/
def creditLineage (info : LineageInfo) (nftId amount : Uint256)
    (withdrawable : Uint256 → Uint256) : Except Failure (Uint256 → Uint256) :=
  if info.hasParent = true ∧ 0#96 < info.royaltyBps then do
    let product ← checkedMul amount (info.royaltyBps.setWidth 256)
    let royalty := product / 10000#256
    let credited ← credit withdrawable info.parentNftId royalty
    let remainder ← checkedSub amount royalty
    credit credited nftId remainder
  else credit withdrawable nftId amount

/-- `recordRevenue`, called with `amount` of ETH. -/
def recordRevenue (message : Message) (amount nftId : Uint256) (source : String) (state : State) :
    Result := do
  onlyRole state.roles .treasury message
  require (0#256 < amount) (.reason "No value sent")
  let totalEarned ← credit state.totalEarned nftId amount
  let withdrawable ← creditLineage (state.lineage nftId) nftId amount state.withdrawable
  pure (.done { state with
    totalEarned := totalEarned
    withdrawable := withdrawable
    balance := state.balance + amount.toNat } [.revenueRecorded nftId amount source])

/-- `withdraw` up to its call of the owner, which takes the ETH along. A call that the
account cannot pay for fails like one that the owner rejects. -/
def withdraw (message : Message) (nftId : Uint256) (state : State) : Result := do
  nonReentrant state.entered
  let owner := state.agentOwnerCache nftId
  require (owner = message.sender) (.reason "Not agent owner")
  let amount := state.withdrawable nftId
  require (0#256 < amount) (.reason "Nothing to withdraw")
  require (amount.toNat ≤ state.balance) (.reason "Withdraw failed")
  pure (.calling { state with
    entered := true
    withdrawable := Function.update state.withdrawable nftId 0#256
    balance := state.balance - amount.toNat } (.withdrawing nftId owner amount) [])

/-- Write back what an inherited role function did. -/
def withRoles (state : State)
    (attempt : Except Failure (AccessControl Role × List (RoleEvent Role))) : Result := do
  let changed ← attempt
  pure (.done { state with roles := changed.1 } (changed.2.map .roles))

/-- The external functions that can write, ETH that arrives without a call, and the call
of another contract, whose failure undoes what it did here. -/
inductive Call
  | syncOwner (nftId : Uint256) (owner : Address)
  | setLineage (nftId parentNftId : Uint256) (royaltyBps : Uint96)
  | recordRevenue (amount nftId : Uint256) (source : String)
  | withdraw (nftId : Uint256)
  | grantRole (role : Role) (account : Address)
  | revokeRole (role : Role) (account : Address)
  | renounceRole (role : Role) (callerConfirmation : Address)
  | forced (amount : Nat)
  | elsewhere
  deriving DecidableEq

structure Transaction where
  message : Message
  call : Call
  deriving DecidableEq

def enter (transaction : Transaction) (state : State) : Result :=
  let message := transaction.message
  match transaction.call with
  | .syncOwner nftId owner => syncOwner message nftId owner state
  | .setLineage nftId parentNftId royaltyBps => setLineage message nftId parentNftId royaltyBps state
  | .recordRevenue amount nftId source => recordRevenue message amount nftId source state
  | .withdraw nftId => withdraw message nftId state
  | .grantRole role account =>
      withRoles state (state.roles.grantRole .defaultAdmin message role account)
  | .revokeRole role account =>
      withRoles state (state.roles.revokeRole .defaultAdmin message role account)
  | .renounceRole role callerConfirmation =>
      withRoles state (state.roles.renounceRole message role callerConfirmation)
  | .forced amount => .ok (.done { state with balance := state.balance + amount } [])
  | .elsewhere => .ok (.calling state .elsewhere [])

/-- What follows a callee that succeeded. -/
def resume (rest : Rest) (state : State) : Result :=
  match rest with
  | .withdrawing nftId owner amount =>
      .ok (.done { state with entered := false } [.withdrawn nftId owner amount])
  | .elsewhere => .ok (.done state [])

def machine : Machine State Transaction Rest Failure (List Event) where
  enter := enter
  resume := resume

abbrev Entry : Type :=
  Run.Entry State (Stretch Transaction Rest) (List Event)

/-- Every move in turn, from a deployed tracker and no call under way. -/
abbrev history (start : State) (moves : List (Move Transaction)) :
    Run.Trace (Config State Rest) (Move Transaction) (Effect (List Event)) :=
  Run.run machine.step ⟨start, []⟩ moves

end BigX.Revenue
