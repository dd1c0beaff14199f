import BigX.Registry.Contract

set_option autoImplicit false

/- The owner on record: who writes it, and who is asked for it. -/
namespace BigX.Registry

open Evm

/-- The owner that a call puts on record for `nftId`. -/
def Call.names (nftId : Uint256) : Call → Option Address
  | .registerAgent _ registered owner _ _ _ _ _ _ => if registered = nftId then some owner else none
  | .syncOwner synced newOwner => if synced = nftId then some newOwner else none
  | _ => none

theorem setRecord_owner {state : State} {written : Uint256} {record : AgentRecord}
    (same : record.owner = (state.records written).owner) (nftId : Uint256) :
    ((state.setRecord written record).records nftId).owner = (state.records nftId).owner := by
  by_cases equal : nftId = written
  · rw [equal, ← same]
    simp only [State.setRecord, Function.update_self]
  · simp only [State.setRecord, Function.update_of_ne equal]

theorem changeState_owner {changed : Uint256} {sources : List LifecycleState}
    {target : LifecycleState} {state : State} {progress : Progress State Rest (List Event)}
    (accepted : changeState changed sources target state = .ok progress) (nftId : Uint256) :
    (progress.state.records nftId).owner = (state.records nftId).owner := by
  simp only [changeState, bind_eq_ok, pure_eq_ok] at accepted
  obtain ⟨_, -, rfl⟩ := accepted
  exact setRecord_owner (by rfl) nftId

theorem withRoles_owner {state : State}
    {attempt : Except Failure (AccessControl Role × List (RoleEvent Role))}
    {progress : Progress State Rest (List Event)}
    (accepted : withRoles state attempt = .ok progress) (nftId : Uint256) :
    (progress.state.records nftId).owner = (state.records nftId).owner := by
  simp only [withRoles, bind_eq_ok, pure_eq_ok] at accepted
  obtain ⟨changed, -, rfl⟩ := accepted
  rfl

theorem withCapabilities_owner {state : State} {attempt : CapabilityResult}
    {progress : Progress State Rest (List Event)}
    (accepted : withCapabilities state attempt = .ok progress) (nftId : Uint256) :
    (progress.state.records nftId).owner = (state.records nftId).owner := by
  unfold withCapabilities at accepted
  split at accepted
  · cases accepted
    rfl
  · cases accepted

/-- The owner on record changes to whom the call names, and only then. -/
theorem enter_owner {message : Message} {call : Call} {state : State}
    {progress : Progress State Rest (List Event)}
    (accepted : enter message call state = .ok progress) (nftId : Uint256) :
    (progress.state.records nftId).owner =
      (call.names nftId).getD (state.records nftId).owner := by
  cases call with
  | registerAgent gas registered owner name persona capabilities modelVersion metadataURI endpoint =>
    simp only [enter, registerAgent, bind_eq_ok, pure_eq_ok] at accepted
    obtain ⟨_, -, _, -, _, -, _, -, rfl⟩ := accepted
    by_cases same : registered = nftId
    · simp only [Call.names, Progress.state, same, Function.update_self, if_true, Option.getD_some]
    · simp only [Call.names, Progress.state, Function.update_of_ne (Ne.symm same), if_neg same,
        Option.getD_none]
  | provisionAccount provisioned account =>
    simp only [enter, provisionAccount, bind_eq_ok, pure_eq_ok] at accepted
    obtain ⟨_, -, _, -, _, -, rfl⟩ := accepted
    rfl
  | activate changed =>
    simp only [enter, activate, bind_eq_ok] at accepted
    obtain ⟨_, -, moved⟩ := accepted
    exact changeState_owner moved nftId
  | suspend changed =>
    simp only [enter, suspend, bind_eq_ok] at accepted
    obtain ⟨_, -, _, -, moved⟩ := accepted
    exact changeState_owner moved nftId
  | reactivate changed =>
    simp only [enter, reactivate, bind_eq_ok] at accepted
    obtain ⟨_, -, moved⟩ := accepted
    exact changeState_owner moved nftId
  | deprecate_ changed =>
    simp only [enter, deprecate_, bind_eq_ok] at accepted
    obtain ⟨_, -, moved⟩ := accepted
    exact changeState_owner moved nftId
  | archive changed =>
    simp only [enter, archive, bind_eq_ok] at accepted
    obtain ⟨_, -, moved⟩ := accepted
    exact changeState_owner moved nftId
  | grantCapability granted capability =>
    simp only [enter, grantCapability, bind_eq_ok, pure_eq_ok] at accepted
    obtain ⟨_, -, _, -, _, -, rfl⟩ := accepted
    exact setRecord_owner (by rfl) nftId
  | revokeCapability revoked capability =>
    simp only [enter, revokeCapability, bind_eq_ok, pure_eq_ok] at accepted
    obtain ⟨_, -, rfl⟩ := accepted
    exact setRecord_owner (by rfl) nftId
  | recordAttestation attested verifierType verifierContract attestationHash =>
    simp only [enter, recordAttestation, bind_eq_ok, pure_eq_ok] at accepted
    obtain ⟨_, -, rfl⟩ := accepted
    rfl
  | syncOwner synced newOwner =>
    simp only [enter, syncOwner, bind_eq_ok, pure_eq_ok] at accepted
    obtain ⟨_, -, rfl⟩ := accepted
    by_cases same : synced = nftId
    · simp only [Call.names, Progress.state, State.setRecord, same, Function.update_self, if_true,
        Option.getD_some]
    · simp only [Call.names, Progress.state, State.setRecord, Function.update_of_ne (Ne.symm same),
        if_neg same, Option.getD_none]
  | updateEndpoint updated endpoint =>
    simp only [enter, updateEndpoint, bind_eq_ok, pure_eq_ok] at accepted
    obtain ⟨_, -, _, -, rfl⟩ := accepted
    exact setRecord_owner (by rfl) nftId
  | setModules policyEngine revenueTracker marketplace =>
    simp only [enter, setModules, bind_eq_ok, pure_eq_ok] at accepted
    obtain ⟨_, -, rfl⟩ := accepted
    rfl
  | pause =>
    simp only [enter, pause, bind_eq_ok, pure_eq_ok] at accepted
    obtain ⟨_, -, _, -, rfl⟩ := accepted
    rfl
  | unpause =>
    simp only [enter, unpause, bind_eq_ok, pure_eq_ok] at accepted
    obtain ⟨_, -, _, -, rfl⟩ := accepted
    rfl
  | grantRole role account => exact withRoles_owner accepted nftId
  | revokeRole role account => exact withRoles_owner accepted nftId
  | renounceRole role callerConfirmation => exact withRoles_owner accepted nftId
  | defineCapability bitPosition name description riskTier =>
    exact withCapabilities_owner accepted nftId
  | grantCapabilityRole role account => exact withCapabilities_owner accepted nftId
  | revokeCapabilityRole role account => exact withCapabilities_owner accepted nftId
  | renounceCapabilityRole role callerConfirmation => exact withCapabilities_owner accepted nftId

theorem resume_owner {rest : Rest} {state : State} {progress : Progress State Rest (List Event)}
    (accepted : resume rest state = .ok progress) (nftId : Uint256) :
    (progress.state.records nftId).owner = (state.records nftId).owner := by
  obtain ⟨provisioned, account⟩ := rest
  cases accepted
  have recorded : ((state.setRecord provisioned
      { state.records provisioned with tokenBoundAccount := account }).records nftId).owner =
      (state.records nftId).owner := setRecord_owner (by rfl) nftId
  rw [← recorded]
  exact setRecord_owner (by rfl) nftId

theorem updateEndpoint_ok {message : Message} {nftId : Uint256} {endpoint : String} {state : State}
    {progress : Progress State Rest (List Event)}
    (accepted : updateEndpoint message nftId endpoint state = .ok progress) :
    (state.records nftId).owner = message.sender := by
  simp only [updateEndpoint, bind_eq_ok, require_eq_ok] at accepted
  obtain ⟨_, -, _, owned, -⟩ := accepted
  exact owned

theorem suspend_ok {message : Message} {nftId : Uint256} {state : State}
    {progress : Progress State Rest (List Event)}
    (accepted : suspend message nftId state = .ok progress) :
    state.roles.hasRole .registrar message.sender = true ∨
      (state.records nftId).owner = message.sender := by
  simp only [suspend, bind_eq_ok, require_eq_ok] at accepted
  obtain ⟨_, -, _, authorized, -⟩ := accepted
  exact authorized

end BigX.Registry
