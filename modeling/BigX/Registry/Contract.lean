import BigX.Evm.Journal
import BigX.Registry.Capability

set_option autoImplicit false

/- The agent registry: identity, lifecycle, capabilities, attestations and the owner on
record of every agent. The owner on record is what the registry was last told, not what
the token contract says. -/
namespace BigX.Registry

open Evm

inductive Role
  | defaultAdmin
  | registrar
  | other (id : Bytes32)
  deriving DecidableEq

inductive LifecycleState
  | created
  | provisioning
  | active
  | suspended
  | deprecated
  | archived
  deriving DecidableEq

inductive VerifierType
  | none
  | tee
  | zkp
  deriving DecidableEq

abbrev Uint32 := BitVec 32

structure Attestation where
  verifierType : VerifierType
  verifierContract : Address
  lastAttestationHash : Bytes32
  lastAttestedAt : Uint64
  deriving DecidableEq

structure AgentIdentity where
  name : String
  persona : String
  creator : Address
  version : Uint32
  createdAt : Uint64
  deriving DecidableEq

structure AgentRecord where
  owner : Address
  capabilities : Uint256
  modelVersion : String
  metadataURI : String
  endpoint : String
  tokenBoundAccount : Address
  state : LifecycleState
  deriving DecidableEq

inductive Error
  | alreadyRegistered
  | notRegistered
  | notAgentOwner
  | invalidLifecycleTransition
  | capabilityNotDefined
  | capabilityRequiresElevatedRole (riskTier : Uint8)
  | outOfGas
  deriving DecidableEq

inductive Event
  | agentRegistered (nftId : Uint256) (creator owner : Address) (name : String)
  | lifecycleChanged (nftId : Uint256) (source target : LifecycleState)
  | tokenBoundAccountCreated (nftId : Uint256) (account : Address)
  | capabilityGranted (nftId capability : Uint256)
  | capabilityRevoked (nftId capability : Uint256)
  | attestationRecorded (nftId : Uint256) (verifierType : VerifierType) (attestationHash : Bytes32)
  | ownerSynced (nftId : Uint256) (newOwner : Address)
  | endpointUpdated (nftId : Uint256) (endpoint : String)
  | modulesUpdated (policyEngine revenueTracker marketplace : Address)
  | roles (event : RoleEvent Role)
  | capability (event : CapabilityEvent)
  | paused (account : Address)
  | unpaused (account : Address)
  deriving DecidableEq

/-- The registry's storage, with the capability registry it was deployed for. -/
structure State where
  roles : AccessControl Role
  paused : Bool
  capabilityRegistry : CapabilityRegistry
  policyEngine : Address
  revenueTracker : Address
  marketplace : Address
  identities : Uint256 → AgentIdentity
  records : Uint256 → AgentRecord
  attestations : Uint256 → Attestation
  isRegistered : Uint256 → Bool
  allNftIds : List Uint256

abbrev Failure : Type := Revert Role Error

/-- A provisioning that waits for the ERC-6551 registry, which will return `account`. -/
inductive Rest
  | provisioning (nftId : Uint256) (account : Address)

abbrev Result : Type := Except Failure (Progress State Rest (List Event))

/-- The constructor. -/
def deploy (message : Message) (admin : Address) (capabilityRegistry : CapabilityRegistry) :
    State × List Event :=
  let first := AccessControl.empty.grant Role.defaultAdmin admin message.sender
  let second := first.1.grant .registrar admin message.sender
  ({ roles := second.1
     paused := false
     capabilityRegistry := capabilityRegistry
     policyEngine := Address.zero
     revenueTracker := Address.zero
     marketplace := Address.zero
     identities := fun _ => ⟨"", "", Address.zero, 0#32, 0#64⟩
     records := fun _ => ⟨Address.zero, 0#256, "", "", "", Address.zero, .created⟩
     attestations := fun _ => ⟨.none, Address.zero, 0#256, 0#64⟩
     isRegistered := fun _ => false
     allNftIds := [] },
   (first.2 ++ second.2).map .roles)

/-- `onlyRegistered(nftId)` -/
def onlyRegistered (nftId : Uint256) (state : State) : Except Failure Unit :=
  require (state.isRegistered nftId = true) (.custom .notRegistered)

/-- Write one record. -/
def State.setRecord (state : State) (nftId : Uint256) (record : AgentRecord) : State :=
  { state with records := Function.update state.records nftId record }

/-- `_validateCapabilities`, with the rounds that `gas` pays for. -/
def validateCapabilities (gas : Nat) (capabilities : Uint256) (state : State) :
    Except Failure Unit :=
  let visit (bit : Uint256) (_ : Unit) : Except Failure Unit :=
    require (capabilities &&& bit = 0#256 ∨ state.capabilityRegistry.isDefined bit = true)
      (.custom .capabilityNotDefined)
  match overBits capabilities visit gas 1#256 () with
  | some outcome => outcome
  | none => .error (.custom .outOfGas)

def registerAgent (message : Message) (gas : Nat) (nftId : Uint256) (owner : Address)
    (name persona : String) (capabilities : Uint256) (modelVersion metadataURI endpoint : String)
    (state : State) : Result := do
  onlyRole state.roles .registrar message
  whenNotPaused state.paused
  require (state.isRegistered nftId = false) (.custom .alreadyRegistered)
  validateCapabilities gas capabilities state
  pure (.done { state with
    identities := Function.update state.identities nftId
      { name := name
        persona := persona
        creator := owner
        version := 1#32
        createdAt := message.timestamp.setWidth 64 }
    records := Function.update state.records nftId
      { owner := owner
        capabilities := capabilities
        modelVersion := modelVersion
        metadataURI := metadataURI
        endpoint := endpoint
        tokenBoundAccount := Address.zero
        state := .created }
    isRegistered := Function.update state.isRegistered nftId true
    allNftIds := state.allNftIds ++ [nftId] } [.agentRegistered nftId owner owner name])

/-- `_transitionState` -/
def transitionState (nftId : Uint256) (newState : LifecycleState) (state : State) :
    State × List Event :=
  (state.setRecord nftId { state.records nftId with state := newState },
   [.lifecycleChanged nftId (state.records nftId).state newState])

/-- `provisionAccount` up to its call of the ERC-6551 registry. -/
def provisionAccount (nftId : Uint256) (account : Address) (state : State) : Result := do
  onlyRegistered nftId state
  whenNotPaused state.paused
  require ((state.records nftId).state = .created) (.custom .invalidLifecycleTransition)
  pure (.calling state (.provisioning nftId account) [])

/-- What follows the ERC-6551 registry's answer. -/
def resume (rest : Rest) (state : State) : Result :=
  match rest with
  | .provisioning nftId account =>
      let recorded := state.setRecord nftId
        { state.records nftId with tokenBoundAccount := account }
      let moved := transitionState nftId .provisioning recorded
      .ok (.done moved.1 (moved.2 ++ [.tokenBoundAccountCreated nftId account]))

/-- A change of lifecycle state from one of `sources`, the guards before it passed. -/
def changeState (nftId : Uint256) (sources : List LifecycleState) (target : LifecycleState)
    (state : State) : Result := do
  require ((state.records nftId).state ∈ sources) (.custom .invalidLifecycleTransition)
  let moved := transitionState nftId target state
  pure (.done moved.1 moved.2)

/-- The guards of the transitions that only registrars make. -/
def registrarOnly (message : Message) (nftId : Uint256) (state : State) : Except Failure Unit := do
  onlyRole state.roles .registrar message
  onlyRegistered nftId state

def activate (message : Message) (nftId : Uint256) (state : State) : Result := do
  registrarOnly message nftId state
  changeState nftId [.provisioning] .active state

def suspend (message : Message) (nftId : Uint256) (state : State) : Result := do
  onlyRegistered nftId state
  require (state.roles.hasRole .registrar message.sender = true ∨
    (state.records nftId).owner = message.sender) (.reason "Not authorized")
  changeState nftId [.active] .suspended state

def reactivate (message : Message) (nftId : Uint256) (state : State) : Result := do
  registrarOnly message nftId state
  changeState nftId [.suspended] .active state

def deprecate_ (message : Message) (nftId : Uint256) (state : State) : Result := do
  registrarOnly message nftId state
  changeState nftId [.active, .suspended] .deprecated state

def archive (message : Message) (nftId : Uint256) (state : State) : Result := do
  registrarOnly message nftId state
  changeState nftId [.deprecated] .archived state

def grantCapability (message : Message) (nftId capability : Uint256) (state : State) : Result := do
  onlyRegistered nftId state
  require (state.capabilityRegistry.isDefined capability = true) (.custom .capabilityNotDefined)
  let riskTier := state.capabilityRegistry.riskTierOf capability
  require (state.roles.hasRole (if 2#8 ≤ riskTier then .defaultAdmin else .registrar)
    message.sender = true) (.custom (.capabilityRequiresElevatedRole riskTier))
  pure (.done (state.setRecord nftId { state.records nftId with
    capabilities := (state.records nftId).capabilities ||| capability })
    [.capabilityGranted nftId capability])

def revokeCapability (message : Message) (nftId capability : Uint256) (state : State) : Result := do
  registrarOnly message nftId state
  pure (.done (state.setRecord nftId { state.records nftId with
    capabilities := (state.records nftId).capabilities &&& ~~~capability })
    [.capabilityRevoked nftId capability])

def recordAttestation (message : Message) (nftId : Uint256) (verifierType : VerifierType)
    (verifierContract : Address) (attestationHash : Bytes32) (state : State) : Result := do
  registrarOnly message nftId state
  pure (.done { state with
    attestations := Function.update state.attestations nftId
      { verifierType := verifierType
        verifierContract := verifierContract
        lastAttestationHash := attestationHash
        lastAttestedAt := message.timestamp.setWidth 64 } }
    [.attestationRecorded nftId verifierType attestationHash])

def syncOwner (message : Message) (nftId : Uint256) (newOwner : Address) (state : State) :
    Result := do
  registrarOnly message nftId state
  pure (.done (state.setRecord nftId { state.records nftId with owner := newOwner })
    [.ownerSynced nftId newOwner])

def updateEndpoint (message : Message) (nftId : Uint256) (endpoint : String) (state : State) :
    Result := do
  onlyRegistered nftId state
  require ((state.records nftId).owner = message.sender) (.custom .notAgentOwner)
  pure (.done (state.setRecord nftId { state.records nftId with endpoint := endpoint })
    [.endpointUpdated nftId endpoint])

def setModules (message : Message) (policyEngine revenueTracker marketplace : Address)
    (state : State) : Result := do
  onlyRole state.roles .defaultAdmin message
  pure (.done { state with
    policyEngine := policyEngine
    revenueTracker := revenueTracker
    marketplace := marketplace } [.modulesUpdated policyEngine revenueTracker marketplace])

def pause (message : Message) (state : State) : Result := do
  onlyRole state.roles .defaultAdmin message
  whenNotPaused state.paused
  pure (.done { state with paused := true } [.paused message.sender])

def unpause (message : Message) (state : State) : Result := do
  onlyRole state.roles .defaultAdmin message
  whenPaused state.paused
  pure (.done { state with paused := false } [.unpaused message.sender])

/-- Write back what an inherited role function did. -/
def withRoles (state : State)
    (attempt : Except Failure (AccessControl Role × List (RoleEvent Role))) : Result := do
  let changed ← attempt
  pure (.done { state with roles := changed.1 } (changed.2.map .roles))

/-- A call of the capability registry by others. -/
def withCapabilities (state : State) (attempt : CapabilityResult) : Result :=
  match attempt with
  | .ok changed => .ok (.done { state with capabilityRegistry := changed.1 }
      (changed.2.map .capability))
  | .error _ => .error .bubbled

/-- Write back what a role function of the capability registry did. -/
def withCapabilityRoles (registry : CapabilityRegistry) (attempt : Except CapabilityFailure
    (AccessControl CapabilityRole × List (RoleEvent CapabilityRole))) : CapabilityResult := do
  let changed ← attempt
  pure ({ registry with roles := changed.1 }, changed.2.map .roles)

/-- The external functions that can write, of the registry and of the capability registry. -/
inductive Call
  | registerAgent (gas : Nat) (nftId : Uint256) (owner : Address) (name persona : String)
      (capabilities : Uint256) (modelVersion metadataURI endpoint : String)
  | provisionAccount (nftId : Uint256) (account : Address)
  | activate (nftId : Uint256)
  | suspend (nftId : Uint256)
  | reactivate (nftId : Uint256)
  | deprecate_ (nftId : Uint256)
  | archive (nftId : Uint256)
  | grantCapability (nftId capability : Uint256)
  | revokeCapability (nftId capability : Uint256)
  | recordAttestation (nftId : Uint256) (verifierType : VerifierType)
      (verifierContract : Address) (attestationHash : Bytes32)
  | syncOwner (nftId : Uint256) (newOwner : Address)
  | updateEndpoint (nftId : Uint256) (endpoint : String)
  | setModules (policyEngine revenueTracker marketplace : Address)
  | pause
  | unpause
  | grantRole (role : Role) (account : Address)
  | revokeRole (role : Role) (account : Address)
  | renounceRole (role : Role) (callerConfirmation : Address)
  | defineCapability (bitPosition : Uint256) (name description : String) (riskTier : Uint8)
  | grantCapabilityRole (role : CapabilityRole) (account : Address)
  | revokeCapabilityRole (role : CapabilityRole) (account : Address)
  | renounceCapabilityRole (role : CapabilityRole) (callerConfirmation : Address)
  deriving DecidableEq

def enter (message : Message) (call : Call) (state : State) : Result :=
  match call with
  | .registerAgent gas nftId owner name persona capabilities modelVersion metadataURI endpoint =>
      registerAgent message gas nftId owner name persona capabilities modelVersion metadataURI
        endpoint state
  | .provisionAccount nftId account => provisionAccount nftId account state
  | .activate nftId => activate message nftId state
  | .suspend nftId => suspend message nftId state
  | .reactivate nftId => reactivate message nftId state
  | .deprecate_ nftId => deprecate_ message nftId state
  | .archive nftId => archive message nftId state
  | .grantCapability nftId capability => grantCapability message nftId capability state
  | .revokeCapability nftId capability => revokeCapability message nftId capability state
  | .recordAttestation nftId verifierType verifierContract attestationHash =>
      recordAttestation message nftId verifierType verifierContract attestationHash state
  | .syncOwner nftId newOwner => syncOwner message nftId newOwner state
  | .updateEndpoint nftId endpoint => updateEndpoint message nftId endpoint state
  | .setModules policyEngine revenueTracker marketplace =>
      setModules message policyEngine revenueTracker marketplace state
  | .pause => pause message state
  | .unpause => unpause message state
  | .grantRole role account =>
      withRoles state (state.roles.grantRole .defaultAdmin message role account)
  | .revokeRole role account =>
      withRoles state (state.roles.revokeRole .defaultAdmin message role account)
  | .renounceRole role callerConfirmation =>
      withRoles state (state.roles.renounceRole message role callerConfirmation)
  | .defineCapability bitPosition name description riskTier => withCapabilities state
      (state.capabilityRegistry.defineCapability message bitPosition name description riskTier)
  | .grantCapabilityRole role account =>
      withCapabilities state (withCapabilityRoles state.capabilityRegistry
        (state.capabilityRegistry.roles.grantRole .defaultAdmin message role account))
  | .revokeCapabilityRole role account =>
      withCapabilities state (withCapabilityRoles state.capabilityRegistry
        (state.capabilityRegistry.roles.revokeRole .defaultAdmin message role account))
  | .renounceCapabilityRole role callerConfirmation =>
      withCapabilities state (withCapabilityRoles state.capabilityRegistry
        (state.capabilityRegistry.roles.renounceRole message role callerConfirmation))

end BigX.Registry
