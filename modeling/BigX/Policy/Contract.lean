import BigX.Evm.Abi
import BigX.Evm.AccessControl
import BigX.Run.Trace

set_option autoImplicit false

/- The policy engine: per-agent allowlists, spend limits and human approvals. The policy
is written twice in the source, once to be asked and once to be enforced; both copies are
kept here as they stand. The hash function is a parameter. -/
namespace BigX.Policy

open Evm

inductive Role
  | defaultAdmin
  | policyAdmin
  | executor
  | humanApprover
  | other (id : Bytes32)
  deriving DecidableEq

structure AgentPolicy where
  perTxLimit : Uint256
  dailyLimit : Uint256
  humanApprovalThreshold : Uint256
  exists_ : Bool
  deriving DecidableEq

/-- What an unset key of `policies` reads as. -/
def AgentPolicy.unset : AgentPolicy := ⟨0#256, 0#256, 0#256, false⟩

inductive Event
  | policySet (nftId perTxLimit dailyLimit humanApprovalThreshold : Uint256)
  | targetAllowlisted (nftId : Uint256) (target : Address) (allowed : Bool)
  | actionApproved (nftId : Uint256) (actionHash : Bytes32) (nonce : Uint256)
  | nonceAdvanced (nftId newNonce : Uint256)
  | actionConsumed (nftId nonce : Uint256) (target : Address) (value : Uint256)
  | roles (event : RoleEvent Role)
  deriving DecidableEq

structure State where
  roles : AccessControl Role
  policies : Uint256 → AgentPolicy
  allowedTargets : Uint256 → Address → Bool
  spentToday : Uint256 → Uint256
  lastResetDay : Uint256 → Uint256
  humanApprovals : Uint256 → Bytes32 → Bool
  agentNonce : Uint256 → Uint256

/-- The contract declares no errors of its own. -/
abbrev Failure : Type := Revert Role Empty

abbrev Result : Type := Except Failure (State × List Event)

/-- The constructor. -/
def deploy (message : Message) (admin : Address) : State × List Event :=
  let first := AccessControl.empty.grant Role.defaultAdmin admin message.sender
  let second := first.1.grant .policyAdmin admin message.sender
  ({ roles := second.1
     policies := fun _ => .unset
     allowedTargets := fun _ _ => false
     spentToday := fun _ => 0#256
     lastResetDay := fun _ => 0#256
     humanApprovals := fun _ _ => false
     agentNonce := fun _ => 0#256 },
   (first.2 ++ second.2).map .roles)

def setPolicy (message : Message) (nftId perTxLimit dailyLimit humanApprovalThreshold : Uint256)
    (state : State) : Result := do
  onlyRole state.roles .policyAdmin message
  pure
    ({ state with
       policies := Function.update state.policies nftId
         ⟨perTxLimit, dailyLimit, humanApprovalThreshold, true⟩ },
     [.policySet nftId perTxLimit dailyLimit humanApprovalThreshold])

def setTargetAllowed (message : Message) (nftId : Uint256) (target : Address) (allowed : Bool)
    (state : State) : Result := do
  onlyRole state.roles .policyAdmin message
  pure
    ({ state with
       allowedTargets := Function.update state.allowedTargets nftId
         (Function.update (state.allowedTargets nftId) target allowed) },
     [.targetAllowlisted nftId target allowed])

def approveAction (message : Message) (nftId : Uint256) (actionHash : Bytes32) (state : State) :
    Result := do
  onlyRole state.roles .humanApprover message
  pure
    ({ state with
       humanApprovals := Function.update state.humanApprovals nftId
         (Function.update (state.humanApprovals nftId) actionHash true) },
     [.actionApproved nftId actionHash (state.agentNonce nftId)])

def currentNonce (nftId : Uint256) (state : State) : Uint256 :=
  state.agentNonce nftId

/-- `abi.encode(nftId, nonce, target, value, data)` -/
def encodeAction (nftId nonce : Uint256) (target : Address) (value : Uint256) (data : Calldata) :
    List Byte :=
  Abi.encode [.uint256 nftId, .uint256 nonce, .address target, .uint256 value, .bytes data]

section Hash

variable (keccak256 : List Byte → Bytes32)

def computeActionHash (nftId : Uint256) (target : Address) (value : Uint256) (data : Calldata)
    (state : State) : Bytes32 :=
  keccak256 (encodeAction nftId (state.agentNonce nftId) target value data)

/-- `checkAction`, the read-only preflight. -/
def checkAction (message : Message) (nftId : Uint256) (target : Address) (value : Uint256)
    (data : Calldata) (state : State) : Except Failure (Bool × String) := do
  let policy := state.policies nftId
  if policy.exists_ = false then return (false, "No policy set for agent")
  if state.allowedTargets nftId target = false then return (false, "Target not allowlisted")
  if policy.perTxLimit < value then return (false, "Exceeds per-tx limit")
  let today := message.today
  let spent := if state.lastResetDay nftId = today then state.spentToday nftId else 0#256
  let total ← checkedAdd spent value
  if policy.dailyLimit < total then return (false, "Exceeds daily limit")
  if policy.humanApprovalThreshold < value then
    let actionHash := computeActionHash keccak256 nftId target value data state
    if state.humanApprovals nftId actionHash = false then
      return (false, "Requires human approval")
  return (true, "")

/-- The reset at the end of `consumeAction`, before the value is added. -/
def resetDay (nftId today : Uint256) (state : State) : State :=
  if state.lastResetDay nftId ≠ today then
    { state with
      lastResetDay := Function.update state.lastResetDay nftId today
      spentToday := Function.update state.spentToday nftId 0#256 }
  else state

/-- The end of `consumeAction`: update the daily spending, advance the nonce. -/
def recordConsumption (message : Message) (nftId : Uint256) (target : Address) (value : Uint256)
    (state : State) : Except Failure ((State × List Event) × Uint256) := do
  let current := state.agentNonce nftId
  let reset := resetDay nftId message.today state
  let spentToday ← checkedAdd (reset.spentToday nftId) value
  let newNonce ← checkedAdd current 1#256
  pure
    (({ reset with
        spentToday := Function.update reset.spentToday nftId spentToday
        agentNonce := Function.update reset.agentNonce nftId newNonce },
      [.nonceAdvanced nftId newNonce, .actionConsumed nftId current target value]), current)

/-- `consumeAction`, with the nonce it returns. -/
def consumeAction (message : Message) (nftId expectedNonce : Uint256) (target : Address)
    (value : Uint256) (data : Calldata) (state : State) :
    Except Failure ((State × List Event) × Uint256) := do
  onlyRole state.roles .executor message
  let current := state.agentNonce nftId
  require (expectedNonce = current) (.reason "Invalid nonce")
  let policy := state.policies nftId
  require (policy.exists_ = true) (.reason "No policy set for agent")
  require (state.allowedTargets nftId target = true) (.reason "Target not allowlisted")
  require (¬ policy.perTxLimit < value) (.reason "Exceeds per-tx limit")
  let today := message.today
  let spent := if state.lastResetDay nftId = today then state.spentToday nftId else 0#256
  let total ← checkedAdd spent value
  require (¬ policy.dailyLimit < total) (.reason "Exceeds daily limit")
  if policy.humanApprovalThreshold < value then
    let actionHash := keccak256 (encodeAction nftId current target value data)
    require (state.humanApprovals nftId actionHash = true) (.reason "Requires human approval")
  recordConsumption message nftId target value state

end Hash

/-- Write back what an inherited role function did. -/
def withRoles (state : State)
    (attempt : Except Failure (AccessControl Role × List (RoleEvent Role))) : Result := do
  let changed ← attempt
  pure ({ state with roles := changed.1 }, changed.2.map .roles)

/-- The inherited `grantRole`, with its own check that the sender is an admin. -/
def grantRole (message : Message) (role : Role) (account : Address) (state : State) : Result :=
  withRoles state (state.roles.grantRole .defaultAdmin message role account)

def grantExecutorRole (message : Message) (executor : Address) (state : State) : Result := do
  onlyRole state.roles .policyAdmin message
  grantRole message .executor executor state

def grantHumanApproverRole (message : Message) (approver : Address) (state : State) : Result := do
  onlyRole state.roles .policyAdmin message
  grantRole message .humanApprover approver state

/-- The external functions that can write. -/
inductive Call
  | setPolicy (nftId perTxLimit dailyLimit humanApprovalThreshold : Uint256)
  | setTargetAllowed (nftId : Uint256) (target : Address) (allowed : Bool)
  | approveAction (nftId : Uint256) (actionHash : Bytes32)
  | consumeAction (nftId expectedNonce : Uint256) (target : Address) (value : Uint256)
      (data : Calldata)
  | grantExecutorRole (executor : Address)
  | grantHumanApproverRole (approver : Address)
  | grantRole (role : Role) (account : Address)
  | revokeRole (role : Role) (account : Address)
  | renounceRole (role : Role) (callerConfirmation : Address)
  deriving DecidableEq

structure Transaction where
  message : Message
  call : Call
  deriving DecidableEq

/-- What a transaction returned, if its function returns a nonce, and emitted. -/
structure Output where
  usedNonce : Option Uint256
  events : List Event
  deriving DecidableEq

def quietly (result : Result) : Except Failure (State × Output) :=
  result.map fun written => (written.1, ⟨none, written.2⟩)

def transact (keccak256 : List Byte → Bytes32) (transaction : Transaction) (state : State) :
    Except Failure (State × Output) :=
  let message := transaction.message
  match transaction.call with
  | .setPolicy nftId perTxLimit dailyLimit humanApprovalThreshold =>
      quietly (setPolicy message nftId perTxLimit dailyLimit humanApprovalThreshold state)
  | .setTargetAllowed nftId target allowed =>
      quietly (setTargetAllowed message nftId target allowed state)
  | .approveAction nftId actionHash => quietly (approveAction message nftId actionHash state)
  | .consumeAction nftId expectedNonce target value data =>
      (consumeAction keccak256 message nftId expectedNonce target value data state).map
        fun written => (written.1.1, ⟨some written.2, written.1.2⟩)
  | .grantExecutorRole executor => quietly (grantExecutorRole message executor state)
  | .grantHumanApproverRole approver => quietly (grantHumanApproverRole message approver state)
  | .grantRole role account => quietly (grantRole message role account state)
  | .revokeRole role account =>
      quietly (withRoles state (state.roles.revokeRole .defaultAdmin message role account))
  | .renounceRole role callerConfirmation =>
      quietly (withRoles state (state.roles.renounceRole message role callerConfirmation))

abbrev Entry : Type := Run.Entry State Transaction Output

/-- Every transaction in turn, from a deployed engine. -/
abbrev history (keccak256 : List Byte → Bytes32) (start : State)
    (transactions : List Transaction) : Run.Trace State Transaction Output :=
  Run.run (transact keccak256) start transactions

end BigX.Policy
