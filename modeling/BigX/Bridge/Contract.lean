import BigX.Evm.AccessControl
import BigX.Evm.Erc20
import BigX.Run.Trace

set_option autoImplicit false

/- The bridge: peg-ins released and peg-outs finalised by M-of-N relayers, with a
timelock and per-transaction and daily limits. Every function takes the storage it
reads and either reverts or returns the new storage and the events it emits. -/
namespace BigX.Bridge

open Evm

inductive Role
  | defaultAdmin
  | relayer
  | guardian
  | other (id : Bytes32)
  deriving DecidableEq

inductive Error
  | alreadyConfirmed
  | alreadyExecuted
  | insufficientConfirmations
  | timelockNotElapsed
  | exceedsPerTxLimit
  | exceedsDailyLimit
  | invalidThreshold
  deriving DecidableEq

inductive Event
  | pegInConfirmed (btcTxHash : Bytes32) (relayer : Address) (confirmations : Uint256)
  | pegInExecuted (btcTxHash : Bytes32) (recipient : Address) (amount : Uint256)
  | pegOutRequested (id : Uint256) (requester : Address) (amount : Uint256)
      (btcAddress : String)
  | pegOutConfirmed (id : Uint256) (relayer : Address) (confirmations : Uint256)
  | pegOutExecuted (id : Uint256)
  | relayerAdded (relayer : Address)
  | relayerRemoved (relayer : Address)
  | thresholdUpdated (newThreshold : Uint256)
  | roles (event : RoleEvent Role)
  | paused (account : Address)
  | unpaused (account : Address)
  deriving DecidableEq

structure PegInRequest where
  recipient : Address
  amount : Uint256
  confirmations : Uint256
  executed : Bool
  deriving DecidableEq

structure PegOutRequest where
  requester : Address
  amount : Uint256
  btcAddress : String
  confirmations : Uint256
  requestedAt : Uint64
  executed : Bool
  deriving DecidableEq

/-- What an unset key of `pegInRequests` reads as. -/
def PegInRequest.unset : PegInRequest := ⟨Address.zero, 0#256, 0#256, false⟩

/-- The zero recipient marks a request nobody has described yet. -/
def PegInRequest.describe (stored : PegInRequest) (recipient : Address) (amount : Uint256) :
    PegInRequest :=
  if stored.recipient = Address.zero then
    { stored with recipient := recipient, amount := amount }
  else stored

def PegOutRequest.unset : PegOutRequest := ⟨Address.zero, 0#256, "", 0#256, 0#64, false⟩

/-- The bridge's storage, with the ledger of the token it holds. -/
structure State (token : Erc20) where
  roles : AccessControl Role
  paused : Bool
  entered : Bool
  requiredConfirmations : Uint256
  relayerCount : Uint256
  perTxLimit : Uint256
  dailyLimit : Uint256
  withdrawnToday : Uint256
  lastResetDay : Uint256
  pegInRequests : Bytes32 → PegInRequest
  pegInConfirmedBy : Bytes32 → Address → Bool
  pegOutRequests : Uint256 → PegOutRequest
  pegOutConfirmedBy : Uint256 → Address → Bool
  nextPegOutId : Uint256
  wrappedBtc : token.Ledger

/-- `PEG_OUT_TIMELOCK = 1 hours` -/
def pegOutTimelock : Uint256 := 3600#256

variable {token : Erc20}

abbrev Result (token : Erc20) : Type :=
  Except (Revert Role Error) (State token × List Event)

/-- `require(wrappedBtc.transfer(..), "Transfer failed")` -/
def requireTransfer (attempt : Except TransferFailure token.Ledger) :
    Except (Revert Role Error) token.Ledger :=
  match attempt with
  | .ok ledger => .ok ledger
  | .error .returnedFalse => .error (.reason "Transfer failed")
  | .error .reverted => .error .bubbled

/-- The loop of the constructor over `initialRelayers`. -/
def grantInitialRelayers (sender : Address) (roles : AccessControl Role) :
    List Address → AccessControl Role × List Event
  | [] => (roles, [])
  | relayer :: rest =>
      let granted := roles.grant .relayer relayer sender
      let after := grantInitialRelayers sender granted.1 rest
      (after.1, granted.2.map .roles ++ .relayerAdded relayer :: after.2)

/-- The constructor. `wrappedBtc` is the ledger of the token it is given. -/
def deploy (message : Message) (wrappedBtc : token.Ledger) (admin : Address)
    (initialRelayers : List Address) (threshold : Uint256) : Result token := do
  let first := AccessControl.empty.grant Role.defaultAdmin admin message.sender
  let second := first.1.grant .guardian admin message.sender
  let third := grantInitialRelayers message.sender second.1 initialRelayers
  let relayerCount := BitVec.ofNat 256 initialRelayers.length
  require (¬ (threshold = 0#256 ∨ relayerCount < threshold)) (.custom .invalidThreshold)
  pure
    ({ roles := third.1
       paused := false
       entered := false
       requiredConfirmations := threshold
       relayerCount := relayerCount
       perTxLimit := 1000000000000000000#256
       dailyLimit := 10000000000000000000#256
       withdrawnToday := 0#256
       lastResetDay := 0#256
       pegInRequests := fun _ => .unset
       pegInConfirmedBy := fun _ _ => false
       pegOutRequests := fun _ => .unset
       pegOutConfirmedBy := fun _ _ => false
       nextPegOutId := 0#256
       wrappedBtc := wrappedBtc },
     (first.2 ++ second.2).map .roles ++ third.2)

/-- `_executePegIn`, run by the contract at `bridge`. -/
def executePegIn (bridge : Address) (btcTxHash : Bytes32) (state : State token) :
    Result token := do
  let req := { state.pegInRequests btcTxHash with executed := true }
  let ledger ← requireTransfer (token.transfer bridge req.recipient req.amount state.wrappedBtc)
  pure
    ({ state with
       pegInRequests := Function.update state.pegInRequests btcTxHash req
       wrappedBtc := ledger },
     [.pegInExecuted btcTxHash req.recipient req.amount])

def confirmPegIn (bridge : Address) (message : Message) (btcTxHash : Bytes32)
    (recipient : Address) (amount : Uint256) (state : State token) : Result token := do
  onlyRole state.roles .relayer message
  whenNotPaused state.paused
  nonReentrant state.entered
  let stored := state.pegInRequests btcTxHash
  require (¬ stored.executed = true) (.custom .alreadyExecuted)
  require (¬ state.pegInConfirmedBy btcTxHash message.sender = true) (.custom .alreadyConfirmed)
  let req := stored.describe recipient amount
  let confirmations ← checkedAdd req.confirmations 1#256
  let confirmed : State token := { state with
    entered := true
    pegInRequests := Function.update state.pegInRequests btcTxHash
      { req with confirmations := confirmations }
    pegInConfirmedBy := Function.update state.pegInConfirmedBy btcTxHash
      (Function.update (state.pegInConfirmedBy btcTxHash) message.sender true) }
  let events : List Event := [.pegInConfirmed btcTxHash message.sender confirmations]
  if confirmed.requiredConfirmations ≤ confirmations then
    let executed ← executePegIn bridge btcTxHash confirmed
    pure ({ executed.1 with entered := false }, events ++ executed.2)
  else
    pure ({ confirmed with entered := false }, events)

/-- `requestPegOut`, with the id it returns. -/
def requestPegOut (bridge : Address) (message : Message) (amount : Uint256)
    (btcAddress : String) (state : State token) :
    Except (Revert Role Error) ((State token × List Event) × Uint256) := do
  whenNotPaused state.paused
  nonReentrant state.entered
  require (¬ state.perTxLimit < amount) (.custom .exceedsPerTxLimit)
  let ledger ← requireTransfer
    (token.transferFrom bridge message.sender bridge amount state.wrappedBtc)
  let id := state.nextPegOutId
  let nextPegOutId ← checkedAdd id 1#256
  pure
    (({ state with
        entered := false
        wrappedBtc := ledger
        nextPegOutId := nextPegOutId
        pegOutRequests := Function.update state.pegOutRequests id
          { requester := message.sender
            amount := amount
            btcAddress := btcAddress
            confirmations := 0#256
            requestedAt := message.timestamp.setWidth 64
            executed := false } },
      [.pegOutRequested id message.sender amount btcAddress]), id)

/-- `_enforceDailyLimit` -/
def enforceDailyLimit (message : Message) (amount : Uint256) (state : State token) :
    Except (Revert Role Error) (State token) := do
  let today := message.today
  let reset : State token := if today ≠ state.lastResetDay then
    { state with lastResetDay := today, withdrawnToday := 0#256 } else state
  let withdrawn ← checkedAdd reset.withdrawnToday amount
  require (¬ reset.dailyLimit < withdrawn) (.custom .exceedsDailyLimit)
  pure { reset with withdrawnToday := withdrawn }

/-- `_executePegOut`: the native send happens off-chain, the tokens stay locked. -/
def executePegOut (message : Message) (id : Uint256) (state : State token) :
    Result token := do
  let req := state.pegOutRequests id
  let limited ← enforceDailyLimit message req.amount state
  pure
    ({ limited with
       pegOutRequests := Function.update limited.pegOutRequests id { req with executed := true } },
     [.pegOutExecuted id])

def confirmPegOut (message : Message) (id : Uint256) (state : State token) : Result token := do
  onlyRole state.roles .relayer message
  whenNotPaused state.paused
  nonReentrant state.entered
  let req := state.pegOutRequests id
  require (¬ req.executed = true) (.custom .alreadyExecuted)
  require (¬ state.pegOutConfirmedBy id message.sender = true) (.custom .alreadyConfirmed)
  let unlocked ← checkedAdd (req.requestedAt.setWidth 256) pegOutTimelock
  require (¬ message.timestamp < unlocked) (.custom .timelockNotElapsed)
  let confirmations ← checkedAdd req.confirmations 1#256
  let confirmed : State token := { state with
    entered := true
    pegOutRequests := Function.update state.pegOutRequests id
      { req with confirmations := confirmations }
    pegOutConfirmedBy := Function.update state.pegOutConfirmedBy id
      (Function.update (state.pegOutConfirmedBy id) message.sender true) }
  let events : List Event := [.pegOutConfirmed id message.sender confirmations]
  if confirmed.requiredConfirmations ≤ confirmations then
    let executed ← executePegOut message id confirmed
    pure ({ executed.1 with entered := false }, events ++ executed.2)
  else
    pure ({ confirmed with entered := false }, events)

def addRelayer (message : Message) (relayer : Address) (state : State token) :
    Result token := do
  onlyRole state.roles .defaultAdmin message
  let granted := state.roles.grant .relayer relayer message.sender
  let relayerCount ← checkedAdd state.relayerCount 1#256
  pure ({ state with roles := granted.1, relayerCount := relayerCount },
    granted.2.map .roles ++ [.relayerAdded relayer])

def removeRelayer (message : Message) (relayer : Address) (state : State token) :
    Result token := do
  onlyRole state.roles .defaultAdmin message
  let revoked := state.roles.revoke .relayer relayer message.sender
  let relayerCount ← checkedSub state.relayerCount 1#256
  require (¬ relayerCount < state.requiredConfirmations) (.custom .invalidThreshold)
  pure ({ state with roles := revoked.1, relayerCount := relayerCount },
    revoked.2.map .roles ++ [.relayerRemoved relayer])

def setThreshold (message : Message) (newThreshold : Uint256) (state : State token) :
    Result token := do
  onlyRole state.roles .defaultAdmin message
  require (¬ (newThreshold = 0#256 ∨ state.relayerCount < newThreshold))
    (.custom .invalidThreshold)
  pure ({ state with requiredConfirmations := newThreshold }, [.thresholdUpdated newThreshold])

def setLimits (message : Message) (newPerTxLimit newDailyLimit : Uint256)
    (state : State token) : Result token := do
  onlyRole state.roles .defaultAdmin message
  pure ({ state with perTxLimit := newPerTxLimit, dailyLimit := newDailyLimit }, [])

def pause (message : Message) (state : State token) : Result token := do
  onlyRole state.roles .guardian message
  whenNotPaused state.paused
  pure ({ state with paused := true }, [.paused message.sender])

def unpause (message : Message) (state : State token) : Result token := do
  onlyRole state.roles .defaultAdmin message
  whenPaused state.paused
  pure ({ state with paused := false }, [.unpaused message.sender])

/-- Write back what an inherited role function did. -/
def withRoles (state : State token)
    (attempt : Except (Revert Role Error) (AccessControl Role × List (RoleEvent Role))) :
    Result token := do
  let changed ← attempt
  pure ({ state with roles := changed.1 }, changed.2.map .roles)

/-- The external functions, the inherited role functions, and the calls other accounts
make on the token itself. -/
inductive Call
  | confirmPegIn (btcTxHash : Bytes32) (recipient : Address) (amount : Uint256)
  | requestPegOut (amount : Uint256) (btcAddress : String)
  | confirmPegOut (id : Uint256)
  | addRelayer (relayer : Address)
  | removeRelayer (relayer : Address)
  | setThreshold (newThreshold : Uint256)
  | setLimits (newPerTxLimit newDailyLimit : Uint256)
  | pause
  | unpause
  | grantRole (role : Role) (account : Address)
  | revokeRole (role : Role) (account : Address)
  | renounceRole (role : Role) (callerConfirmation : Address)
  | wrappedBtc (call : Erc20.Call)
  deriving DecidableEq

/-- A call from outside: the bridge has no code that calls itself or lets anybody
choose what it calls, so its own address never is the sender. -/
structure Transaction (bridge : Address) where
  message : Message
  call : Call
  outside : message.sender ≠ bridge

/-- One transaction. The ledger may also be moved by others through the token. -/
def transact (bridge : Address) (transaction : Transaction bridge) (state : State token) :
    Result token :=
  let message := transaction.message
  match transaction.call with
  | .confirmPegIn btcTxHash recipient amount =>
      confirmPegIn bridge message btcTxHash recipient amount state
  | .requestPegOut amount btcAddress =>
      (requestPegOut bridge message amount btcAddress state).map Prod.fst
  | .confirmPegOut id => confirmPegOut message id state
  | .addRelayer relayer => addRelayer message relayer state
  | .removeRelayer relayer => removeRelayer message relayer state
  | .setThreshold newThreshold => setThreshold message newThreshold state
  | .setLimits newPerTxLimit newDailyLimit => setLimits message newPerTxLimit newDailyLimit state
  | .pause => pause message state
  | .unpause => unpause message state
  | .grantRole role account =>
      withRoles state (state.roles.grantRole .defaultAdmin message role account)
  | .revokeRole role account =>
      withRoles state (state.roles.revokeRole .defaultAdmin message role account)
  | .renounceRole role callerConfirmation =>
      withRoles state (state.roles.renounceRole message role callerConfirmation)
  | .wrappedBtc call =>
      match token.execute message.sender state.wrappedBtc call with
      | .ok ledger => .ok ({ state with wrappedBtc := ledger }, [])
      | .error _ => .error .bubbled

abbrev Entry (token : Erc20) (bridge : Address) : Type :=
  Run.Entry (State token) (Transaction bridge) (List Event)

/-- Every transaction in turn, from a deployed bridge. -/
abbrev history (bridge : Address) (start : State token) (transactions : List (Transaction bridge)) :
    Run.Trace (State token) (Transaction bridge) (List Event) :=
  Run.run (transact bridge) start transactions

end BigX.Bridge
