import BigX.Revenue.Contract

set_option autoImplicit false

/- The cached owner: who writes it, and who is asked for it. -/
namespace BigX.Revenue

open Evm

/-- The owner that a call puts on record for `nftId`. -/
def Call.names (nftId : Uint256) : Call → Option Address
  | .syncOwner synced owner => if synced = nftId then some owner else none
  | _ => none

theorem withRoles_owner {state : State}
    {attempt : Except Failure (AccessControl Role × List (RoleEvent Role))}
    {progress : Progress State Rest (List Event)}
    (accepted : withRoles state attempt = .ok progress) (nftId : Uint256) :
    progress.state.agentOwnerCache nftId = state.agentOwnerCache nftId := by
  simp only [withRoles, bind_eq_ok, pure_eq_ok] at accepted
  obtain ⟨changed, -, rfl⟩ := accepted
  rfl

/-- The cached owner changes to whom the call names, and only then. -/
theorem enter_owner {transaction : Transaction} {state : State}
    {progress : Progress State Rest (List Event)}
    (accepted : enter transaction state = .ok progress) (nftId : Uint256) :
    progress.state.agentOwnerCache nftId =
      (transaction.call.names nftId).getD (state.agentOwnerCache nftId) := by
  obtain ⟨message, call⟩ := transaction
  cases call with
  | syncOwner synced owner =>
    simp only [enter, syncOwner, bind_eq_ok, pure_eq_ok] at accepted
    obtain ⟨_, -, rfl⟩ := accepted
    by_cases same : synced = nftId
    · simp only [Call.names, Progress.state, same, Function.update_self, if_true, Option.getD_some]
    · simp only [Call.names, Progress.state, Function.update_of_ne (Ne.symm same), if_neg same,
        Option.getD_none]
  | setLineage child parentNftId royaltyBps =>
    simp only [enter, setLineage, bind_eq_ok, pure_eq_ok] at accepted
    obtain ⟨_, -, _, -, rfl⟩ := accepted
    rfl
  | recordRevenue amount earning source =>
    simp only [enter, recordRevenue, bind_eq_ok, pure_eq_ok] at accepted
    obtain ⟨_, -, _, -, _, -, _, -, rfl⟩ := accepted
    rfl
  | withdraw withdrawn =>
    simp only [enter, withdraw, bind_eq_ok, pure_eq_ok] at accepted
    obtain ⟨_, -, _, -, _, -, _, -, rfl⟩ := accepted
    rfl
  | grantRole role account => exact withRoles_owner accepted nftId
  | revokeRole role account => exact withRoles_owner accepted nftId
  | renounceRole role callerConfirmation => exact withRoles_owner accepted nftId
  | forced amount =>
    cases accepted
    rfl
  | elsewhere =>
    cases accepted
    rfl

theorem resume_owner {rest : Rest} {state : State} {progress : Progress State Rest (List Event)}
    (accepted : resume rest state = .ok progress) (nftId : Uint256) :
    progress.state.agentOwnerCache nftId = state.agentOwnerCache nftId := by
  cases rest with
  | withdrawing withdrawn owner amount =>
    cases accepted
    rfl
  | elsewhere =>
    cases accepted
    rfl

theorem withdraw_ok {message : Message} {nftId : Uint256} {state : State}
    {progress : Progress State Rest (List Event)}
    (accepted : withdraw message nftId state = .ok progress) :
    state.agentOwnerCache nftId = message.sender := by
  simp only [withdraw, bind_eq_ok, require_eq_ok] at accepted
  obtain ⟨_, -, _, owned, -⟩ := accepted
  exact owned

end BigX.Revenue
