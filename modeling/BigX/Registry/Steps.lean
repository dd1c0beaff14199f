import BigX.Registry.Contract

set_option autoImplicit false

/- What each accepted call of the registry found and wrote. -/
namespace BigX.Registry

open Evm

/-- A call from outside, of the registry or of its capability registry. -/
structure Transaction where
  message : Message
  call : Call
  deriving DecidableEq

def machine : Machine State Transaction Rest Failure (List Event) where
  enter := fun transaction => enter transaction.message transaction.call
  resume := resume

/-- The agent that a stretch registers. -/
def registers : Stretch Transaction Rest → Option Uint256
  | .start ⟨_, .registerAgent _ nftId _ _ _ _ _ _ _⟩ => some nftId
  | _ => none

/-- The lifecycle. -/
def transitions : List (LifecycleState × LifecycleState) :=
  [(.created, .provisioning), (.provisioning, .active), (.active, .suspended),
   (.suspended, .active), (.active, .deprecated), (.suspended, .deprecated),
   (.deprecated, .archived)]

/-- Write what a registration writes. -/
def State.enroll (state : State) (nftId : Uint256) (identity : AgentIdentity)
    (record : AgentRecord) : State :=
  { state with
    identities := Function.update state.identities nftId identity
    records := Function.update state.records nftId record
    isRegistered := Function.update state.isRegistered nftId true
    allNftIds := state.allNftIds ++ [nftId] }

/-- The agents and the definitions of capabilities are as they were. -/
structure SameAgents (before after : State) : Prop where
  identities : after.identities = before.identities
  records : after.records = before.records
  attestations : after.attestations = before.attestations
  isRegistered : after.isRegistered = before.isRegistered
  allNftIds : after.allNftIds = before.allNftIds
  capabilities : after.capabilityRegistry.capabilities = before.capabilityRegistry.capabilities

/-- A stretch that went on: what it found, and what it wrote about agents and capabilities. -/
inductive Step (before after : State) : Stretch Transaction Rest → Prop
  | registered (message : Message) (gas : Nat) (nftId : Uint256) (owner : Address)
      (name persona : String) (capabilities : Uint256) (modelVersion metadataURI endpoint : String)
      (identity : AgentIdentity) (record : AgentRecord)
      (fresh : before.isRegistered nftId = false)
      (valid : validateCapabilities gas capabilities before = .ok ())
      (mask : record.capabilities = capabilities)
      (created : record.state = .created)
      (unprovisioned : record.tokenBoundAccount = Address.zero)
      (after_eq : after = before.enroll nftId identity record) :
      Step before after (.start ⟨message, .registerAgent gas nftId owner name persona capabilities
        modelVersion metadataURI endpoint⟩)
  | provisioning (message : Message) (nftId : Uint256) (account : Address)
      (known : before.isRegistered nftId = true)
      (created : (before.records nftId).state = .created)
      (same : after = before) :
      Step before after (.start ⟨message, .provisionAccount nftId account⟩)
  | provisioned (nftId : Uint256) (account : Address)
      (after_eq : after = before.setRecord nftId { before.records nftId with
        tokenBoundAccount := account, state := .provisioning }) :
      Step before after (.rest (.provisioning nftId account))
  | moved (message : Message) (call : Call) (nftId : Uint256) (target : LifecycleState)
      (other : registers (.start ⟨message, call⟩) = none)
      (known : before.isRegistered nftId = true)
      (edge : ((before.records nftId).state, target) ∈ transitions)
      (provided : (before.records nftId).state ≠ .created)
      (after_eq : after = before.setRecord nftId { before.records nftId with state := target }) :
      Step before after (.start ⟨message, call⟩)
  | granted (message : Message) (nftId capability : Uint256)
      (known : before.isRegistered nftId = true)
      (listed : before.capabilityRegistry.isDefined capability = true)
      (authorized : before.roles.hasRole
        (if 2#8 ≤ before.capabilityRegistry.riskTierOf capability then .defaultAdmin
          else .registrar) message.sender = true)
      (after_eq : after = before.setRecord nftId { before.records nftId with
        capabilities := (before.records nftId).capabilities ||| capability }) :
      Step before after (.start ⟨message, .grantCapability nftId capability⟩)
  | revoked (message : Message) (nftId capability : Uint256)
      (known : before.isRegistered nftId = true)
      (after_eq : after = before.setRecord nftId { before.records nftId with
        capabilities := (before.records nftId).capabilities &&& ~~~capability }) :
      Step before after (.start ⟨message, .revokeCapability nftId capability⟩)
  | attested (message : Message) (nftId : Uint256) (verifierType : VerifierType)
      (verifierContract : Address) (attestationHash : Bytes32) (attestation : Attestation)
      (known : before.isRegistered nftId = true)
      (after_eq : after = { before with
        attestations := Function.update before.attestations nftId attestation }) :
      Step before after (.start ⟨message, .recordAttestation nftId verifierType verifierContract
        attestationHash⟩)
  | rewritten (message : Message) (call : Call) (nftId : Uint256) (owner : Address)
      (endpoint : String)
      (other : registers (.start ⟨message, call⟩) = none)
      (known : before.isRegistered nftId = true)
      (after_eq : after = before.setRecord nftId { before.records nftId with
        owner := owner, endpoint := endpoint }) :
      Step before after (.start ⟨message, call⟩)
  | defined (message : Message) (bitPosition : Uint256) (name description : String)
      (riskTier : Uint8)
      (after_eq : after = { before with capabilityRegistry :=
        (before.capabilityRegistry.define bitPosition name description riskTier).1 }) :
      Step before after (.start ⟨message, .defineCapability bitPosition name description riskTier⟩)
  | aside (stretch : Stretch Transaction Rest) (other : registers stretch = none)
      (same : SameAgents before after) : Step before after stretch

theorem changeState_ok {nftId : Uint256} {sources : List LifecycleState} {target : LifecycleState}
    {state : State} {progress : Progress State Rest (List Event)}
    (accepted : changeState nftId sources target state = .ok progress) :
    (state.records nftId).state ∈ sources ∧
      progress.state = state.setRecord nftId { state.records nftId with state := target } := by
  simp only [changeState, bind_eq_ok, require_eq_ok, pure_eq_ok] at accepted
  obtain ⟨_, found, rfl⟩ := accepted
  exact ⟨found, rfl⟩

theorem registrarOnly_ok {message : Message} {nftId : Uint256} {state : State} {result : Unit}
    (accepted : registrarOnly message nftId state = .ok result) :
    state.isRegistered nftId = true := by
  simp only [registrarOnly, onlyRegistered, bind_eq_ok, require_eq_ok] at accepted
  obtain ⟨_, -, known⟩ := accepted
  exact known

/-- A transition that an accepted call makes, one of the lifecycle's when each source has
an edge to the target. -/
theorem step_moved {message : Message} {call : Call} {nftId : Uint256}
    {sources : List LifecycleState} {target : LifecycleState} {state : State}
    {progress : Progress State Rest (List Event)}
    (accepted : changeState nftId sources target state = .ok progress)
    (known : state.isRegistered nftId = true)
    (other : registers (.start ⟨message, call⟩) = none)
    (edges : ∀ source ∈ sources, (source, target) ∈ transitions ∧ source ≠ .created) :
    Step state progress.state (.start ⟨message, call⟩) := by
  obtain ⟨found, wrote⟩ := changeState_ok accepted
  obtain ⟨edge, provided⟩ := edges _ found
  exact .moved message call nftId target other known edge provided wrote

theorem step_roles {message : Message} {call : Call} {state : State}
    {attempt : Except Failure (AccessControl Role × List (RoleEvent Role))}
    {progress : Progress State Rest (List Event)}
    (accepted : withRoles state attempt = .ok progress)
    (other : registers (.start ⟨message, call⟩) = none) :
    Step state progress.state (.start ⟨message, call⟩) := by
  simp only [withRoles, bind_eq_ok, pure_eq_ok] at accepted
  obtain ⟨changed, -, rfl⟩ := accepted
  exact .aside _ other ⟨rfl, rfl, rfl, rfl, rfl, rfl⟩

theorem withCapabilities_ok {state : State} {attempt : CapabilityResult}
    {progress : Progress State Rest (List Event)}
    (accepted : withCapabilities state attempt = .ok progress) :
    ∃ changed, attempt = .ok changed ∧
      progress.state = { state with capabilityRegistry := changed.1 } := by
  unfold withCapabilities at accepted
  split at accepted
  · rename_i changed
    cases accepted
    exact ⟨changed, rfl, rfl⟩
  · cases accepted

theorem step_capabilityRoles {message : Message} {call : Call} {state : State}
    {attempt : Except CapabilityFailure
      (AccessControl CapabilityRole × List (RoleEvent CapabilityRole))}
    {progress : Progress State Rest (List Event)}
    (accepted : withCapabilities state (withCapabilityRoles state.capabilityRegistry attempt) =
      .ok progress)
    (other : registers (.start ⟨message, call⟩) = none) :
    Step state progress.state (.start ⟨message, call⟩) := by
  obtain ⟨changed, wrote, same⟩ := withCapabilities_ok accepted
  simp only [withCapabilityRoles, bind_eq_ok, pure_eq_ok] at wrote
  obtain ⟨roles, -, rfl⟩ := wrote
  rw [same]
  exact .aside _ other ⟨rfl, rfl, rfl, rfl, rfl, rfl⟩

theorem enter_step {message : Message} {call : Call} {state : State}
    {progress : Progress State Rest (List Event)}
    (accepted : enter message call state = .ok progress) :
    Step state progress.state (.start ⟨message, call⟩) := by
  cases call with
  | registerAgent gas nftId owner name persona capabilities modelVersion metadataURI endpoint =>
    simp only [enter, registerAgent, bind_eq_ok, require_eq_ok, pure_eq_ok] at accepted
    obtain ⟨_, -, _, -, _, fresh, _, valid, rfl⟩ := accepted
    exact .registered message gas nftId owner name persona capabilities modelVersion metadataURI
      endpoint _ _ fresh valid rfl rfl rfl rfl
  | provisionAccount nftId account =>
    simp only [enter, provisionAccount, onlyRegistered, bind_eq_ok, require_eq_ok,
      pure_eq_ok] at accepted
    obtain ⟨_, known, _, -, _, created, rfl⟩ := accepted
    exact .provisioning message nftId account known created rfl
  | activate nftId =>
    simp only [enter, activate, bind_eq_ok] at accepted
    obtain ⟨_, guarded, moved⟩ := accepted
    exact step_moved moved (registrarOnly_ok guarded) rfl (by decide)
  | suspend nftId =>
    simp only [enter, suspend, onlyRegistered, bind_eq_ok, require_eq_ok] at accepted
    obtain ⟨_, known, _, -, moved⟩ := accepted
    exact step_moved moved known rfl (by decide)
  | reactivate nftId =>
    simp only [enter, reactivate, bind_eq_ok] at accepted
    obtain ⟨_, guarded, moved⟩ := accepted
    exact step_moved moved (registrarOnly_ok guarded) rfl (by decide)
  | deprecate_ nftId =>
    simp only [enter, deprecate_, bind_eq_ok] at accepted
    obtain ⟨_, guarded, moved⟩ := accepted
    exact step_moved moved (registrarOnly_ok guarded) rfl (by decide)
  | archive nftId =>
    simp only [enter, archive, bind_eq_ok] at accepted
    obtain ⟨_, guarded, moved⟩ := accepted
    exact step_moved moved (registrarOnly_ok guarded) rfl (by decide)
  | grantCapability nftId capability =>
    simp only [enter, grantCapability, onlyRegistered, bind_eq_ok, require_eq_ok,
      pure_eq_ok] at accepted
    obtain ⟨_, known, _, listed, _, authorized, rfl⟩ := accepted
    exact .granted message nftId capability known listed authorized rfl
  | revokeCapability nftId capability =>
    simp only [enter, revokeCapability, bind_eq_ok, pure_eq_ok] at accepted
    obtain ⟨_, guarded, rfl⟩ := accepted
    exact .revoked message nftId capability (registrarOnly_ok guarded) rfl
  | recordAttestation nftId verifierType verifierContract attestationHash =>
    simp only [enter, recordAttestation, bind_eq_ok, pure_eq_ok] at accepted
    obtain ⟨_, guarded, rfl⟩ := accepted
    exact .attested message nftId verifierType verifierContract attestationHash _
      (registrarOnly_ok guarded) rfl
  | syncOwner nftId newOwner =>
    simp only [enter, syncOwner, bind_eq_ok, pure_eq_ok] at accepted
    obtain ⟨_, guarded, rfl⟩ := accepted
    exact .rewritten message _ nftId newOwner _ rfl (registrarOnly_ok guarded) rfl
  | updateEndpoint nftId endpoint =>
    simp only [enter, updateEndpoint, onlyRegistered, bind_eq_ok, require_eq_ok,
      pure_eq_ok] at accepted
    obtain ⟨_, known, _, -, rfl⟩ := accepted
    exact .rewritten message _ nftId _ endpoint rfl known rfl
  | setModules policyEngine revenueTracker marketplace =>
    simp only [enter, setModules, bind_eq_ok, pure_eq_ok] at accepted
    obtain ⟨_, -, rfl⟩ := accepted
    exact .aside _ rfl ⟨rfl, rfl, rfl, rfl, rfl, rfl⟩
  | pause =>
    simp only [enter, pause, bind_eq_ok, pure_eq_ok] at accepted
    obtain ⟨_, -, _, -, rfl⟩ := accepted
    exact .aside _ rfl ⟨rfl, rfl, rfl, rfl, rfl, rfl⟩
  | unpause =>
    simp only [enter, unpause, bind_eq_ok, pure_eq_ok] at accepted
    obtain ⟨_, -, _, -, rfl⟩ := accepted
    exact .aside _ rfl ⟨rfl, rfl, rfl, rfl, rfl, rfl⟩
  | grantRole role account => exact step_roles accepted rfl
  | revokeRole role account => exact step_roles accepted rfl
  | renounceRole role callerConfirmation => exact step_roles accepted rfl
  | defineCapability bitPosition name description riskTier =>
    obtain ⟨changed, wrote, same⟩ := withCapabilities_ok accepted
    simp only [CapabilityRegistry.defineCapability, bind_eq_ok, pure_eq_ok] at wrote
    obtain ⟨_, -, rfl⟩ := wrote
    exact .defined message bitPosition name description riskTier same
  | grantCapabilityRole role account => exact step_capabilityRoles accepted rfl
  | revokeCapabilityRole role account => exact step_capabilityRoles accepted rfl
  | renounceCapabilityRole role callerConfirmation => exact step_capabilityRoles accepted rfl

/-- What a stretch wrote and found, whether a call's start or what follows the answer of the
ERC-6551 registry. -/
theorem advance_step {stretch : Stretch Transaction Rest} {state : State}
    {progress : Progress State Rest (List Event)}
    (accepted : machine.advance stretch state = .ok progress) :
    Step state progress.state stretch := by
  cases stretch with
  | start transaction => exact enter_step accepted
  | rest pending =>
    obtain ⟨nftId, account⟩ := pending
    cases accepted
    refine .provisioned nftId account ?_
    simp only [Progress.state, transitionState, State.setRecord, Function.update_self,
      Function.update_idem]

end BigX.Registry
