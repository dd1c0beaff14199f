import BigX.Policy.Contract
import BigX.Run.DailyMeter

set_option autoImplicit false

/- What each accepted call of the policy engine found and wrote. -/
namespace BigX.Policy

open Evm

variable {keccak256 : List Byte → Bytes32}

/-- An agent's two spending fields, read as a meter. -/
def State.meter (state : State) (nftId : Uint256) : Run.Meter Nat Nat :=
  ⟨(state.spentToday nftId).toNat, (state.lastResetDay nftId).toNat⟩

/-- What both copies of the policy take for the amount already spent. -/
theorem spent_toNat (state : State) (nftId today : Uint256) :
    (if state.lastResetDay nftId = today then state.spentToday nftId else 0#256).toNat =
      (state.meter nftId).read today.toNat := by
  unfold State.meter Run.Meter.read
  by_cases same : state.lastResetDay nftId = today
  · simp [same]
  · have other : ¬ (state.lastResetDay nftId).toNat = today.toNat := fun equal =>
      same (BitVec.eq_of_toNat_eq equal)
    simp [same, other]

/-- An accepted `consumeAction`. -/
structure ConsumeStep (keccak256 : List Byte → Bytes32) (message : Message)
    (nftId expectedNonce : Uint256) (target : Address) (value : Uint256) (data : Calldata)
    (before after : State) (events : List Event) (spent newNonce : Uint256) : Prop where
  executor : before.roles.hasRole .executor message.sender = true
  nonce : expectedNonce = before.agentNonce nftId
  policySet : (before.policies nftId).exists_ = true
  listed : before.allowedTargets nftId target = true
  perTx : value.toNat ≤ (before.policies nftId).perTxLimit.toNat
  charged : spent.toNat = (before.meter nftId).read message.today.toNat + value.toNat
  daily : spent.toNat ≤ (before.policies nftId).dailyLimit.toNat
  approved : (before.policies nftId).humanApprovalThreshold < value →
    before.humanApprovals nftId
      (keccak256 (encodeAction nftId (before.agentNonce nftId) target value data)) = true
  advanced : newNonce.toNat = (before.agentNonce nftId).toNat + 1
  after_eq : after = { before with
    lastResetDay := Function.update before.lastResetDay nftId message.today
    spentToday := Function.update before.spentToday nftId spent
    agentNonce := Function.update before.agentNonce nftId newNonce }
  events_eq : events = [.nonceAdvanced nftId newNonce,
    .actionConsumed nftId (before.agentNonce nftId) target value]

theorem resetDay_spentToday (state : State) (nftId today : Uint256) :
    ((resetDay nftId today state).spentToday nftId).toNat =
      (state.meter nftId).read today.toNat := by
  rw [← spent_toNat]
  unfold resetDay
  by_cases same : state.lastResetDay nftId = today
  · simp [same]
  · simp [same]

/-- Resetting and then writing the agent's entries is writing them at once. -/
theorem resetDay_write (state : State) (nftId today spent newNonce : Uint256) :
    ({ resetDay nftId today state with
        spentToday := Function.update (resetDay nftId today state).spentToday nftId spent
        agentNonce := Function.update (resetDay nftId today state).agentNonce nftId newNonce } :
      State) =
    { state with
      lastResetDay := Function.update state.lastResetDay nftId today
      spentToday := Function.update state.spentToday nftId spent
      agentNonce := Function.update state.agentNonce nftId newNonce } := by
  unfold resetDay
  by_cases same : state.lastResetDay nftId = today
  · simp only [same, ne_eq, not_true_eq_false, ↓reduceIte]
    rw [← same, Function.update_eq_self]
  · simp only [ne_eq, same, not_false_eq_true, ↓reduceIte, Function.update_idem]

/-- What an allowed action writes. -/
theorem recordConsumption_ok (message : Message) (nftId : Uint256) (target : Address)
    (value : Uint256) (before : State) (result : (State × List Event) × Uint256) :
    recordConsumption message nftId target value before = .ok result ↔
      ∃ spent newNonce : Uint256,
        spent.toNat = (before.meter nftId).read message.today.toNat + value.toNat ∧
        newNonce.toNat = (before.agentNonce nftId).toNat + 1 ∧
        result = (({ before with
            lastResetDay := Function.update before.lastResetDay nftId message.today
            spentToday := Function.update before.spentToday nftId spent
            agentNonce := Function.update before.agentNonce nftId newNonce },
          [.nonceAdvanced nftId newNonce,
            .actionConsumed nftId (before.agentNonce nftId) target value]),
          before.agentNonce nftId) := by
  simp only [recordConsumption, bind_eq_ok, checkedAdd_eq_ok, pure_eq_ok, resetDay_spentToday,
    resetDay_write]
  constructor
  · rintro ⟨spent, charged, newNonce, advanced, same⟩
    exact ⟨spent, newNonce, charged, advanced, same.symm⟩
  · rintro ⟨spent, newNonce, charged, advanced, same⟩
    exact ⟨spent, charged, newNonce, advanced, same.symm⟩

theorem consumeAction_ok (message : Message) (nftId expectedNonce : Uint256) (target : Address)
    (value : Uint256) (data : Calldata) (before after : State) (events : List Event)
    (usedNonce : Uint256)
    (accepted : consumeAction keccak256 message nftId expectedNonce target value data before =
      .ok ((after, events), usedNonce)) :
    usedNonce = before.agentNonce nftId ∧ ∃ spent newNonce,
      ConsumeStep keccak256 message nftId expectedNonce target value data before after events
        spent newNonce := by
  simp only [consumeAction, bind_eq_ok, onlyRole_eq_ok, require_eq_ok, checkedAdd_eq_ok,
    exists_and_left, exists_const, BitVec.not_lt] at accepted
  obtain ⟨executor, nonce, policySet, listed, perTx, total, sum, daily, rest⟩ := accepted
  rw [spent_toNat] at sum
  have approval : ((before.policies nftId).humanApprovalThreshold < value →
      before.humanApprovals nftId
        (keccak256 (encodeAction nftId (before.agentNonce nftId) target value data)) = true) ∧
      recordConsumption message nftId target value before = .ok ((after, events), usedNonce) := by
    split at rest
    · simp only [bind_eq_ok, require_eq_ok, exists_const] at rest
      exact ⟨fun _ => rest.1, rest.2⟩
    · rename_i below
      exact ⟨fun above => absurd above below, rest⟩
  obtain ⟨approved, recorded⟩ := approval
  obtain ⟨spent, newNonce, charged, advanced, same⟩ :=
    (recordConsumption_ok message nftId target value before _).mp recorded
  cases same
  have within : spent.toNat ≤ (before.policies nftId).dailyLimit.toNat := by
    rw [charged, ← sum]
    exact BitVec.le_def.mp daily
  exact ⟨rfl, spent, newNonce, executor, nonce, policySet, listed, BitVec.le_def.mp perTx,
    charged, within, approved, advanced, rfl, rfl⟩

/-- The agent whose nonce the call uses up. -/
def Call.agent : Call → Option Uint256
  | .consumeAction nftId .. => some nftId
  | _ => none

/-- What an accepted transaction can have done. -/
inductive Step (keccak256 : List Byte → Bytes32) (message : Message) (before after : State)
    (output : Output) : Call → Prop
  | consume (nftId expectedNonce : Uint256) (target : Address) (value : Uint256) (data : Calldata)
      (events : List Event) (spent newNonce : Uint256)
      (step : ConsumeStep keccak256 message nftId expectedNonce target value data before after
        events spent newNonce)
      (output_eq : output = ⟨some (before.agentNonce nftId), events⟩) :
      Step keccak256 message before after output
        (.consumeAction nftId expectedNonce target value data)
  | admin (call : Call) (plain : call.agent = none) (roles : AccessControl Role)
      (policies : Uint256 → AgentPolicy) (allowedTargets : Uint256 → Address → Bool)
      (humanApprovals : Uint256 → Bytes32 → Bool)
      (after_eq : after = { before with
        roles := roles
        policies := policies
        allowedTargets := allowedTargets
        humanApprovals := humanApprovals })
      (output_eq : output.usedNonce = none) :
      Step keccak256 message before after output call

theorem quietly_eq_ok (result : Result) (after : State) (output : Output) :
    quietly result = .ok (after, output) ↔
      ∃ events, result = .ok (after, events) ∧ output = ⟨none, events⟩ := by
  unfold quietly
  cases result with
  | error failure => simp [Except.map]
  | ok written =>
    obtain ⟨written, events⟩ := written
    simp only [Except.map, Except.ok.injEq, Prod.mk.injEq]
    constructor
    · rintro ⟨rfl, rfl⟩
      exact ⟨events, ⟨rfl, rfl⟩, rfl⟩
    · rintro ⟨events', ⟨rfl, rfl⟩, rfl⟩
      exact ⟨rfl, rfl⟩

theorem withRoles_ok (before after : State)
    (attempt : Except Failure (AccessControl Role × List (RoleEvent Role))) (events : List Event)
    (accepted : withRoles before attempt = .ok (after, events)) :
    ∃ roles, after = { before with roles := roles } := by
  simp only [withRoles, bind_eq_ok, pure_eq_ok] at accepted
  obtain ⟨changed, -, same⟩ := accepted
  cases same
  exact ⟨changed.1, rfl⟩

/-- A call that only manages roles. -/
theorem roles_step (message : Message) (call : Call) (plain : call.agent = none)
    (before after : State) (output : Output) (quiet : output.usedNonce = none)
    (roles : AccessControl Role) (after_eq : after = { before with roles := roles }) :
    Step keccak256 message before after output call :=
  .admin call plain roles before.policies before.allowedTargets before.humanApprovals after_eq quiet

theorem transact_step (transaction : Transaction) (before after : State) (output : Output)
    (accepted : transact keccak256 transaction before = .ok (after, output)) :
    Step keccak256 transaction.message before after output transaction.call := by
  obtain ⟨message, call⟩ := transaction
  cases call with
  | setPolicy nftId perTxLimit dailyLimit humanApprovalThreshold =>
    obtain ⟨events, written, rfl⟩ := (quietly_eq_ok _ _ _).mp accepted
    simp only [setPolicy, bind_eq_ok, onlyRole_eq_ok, pure_eq_ok, exists_and_left,
      exists_const] at written
    cases written.2
    exact .admin _ rfl before.roles _ before.allowedTargets before.humanApprovals rfl rfl
  | setTargetAllowed nftId target allowed =>
    obtain ⟨events, written, rfl⟩ := (quietly_eq_ok _ _ _).mp accepted
    simp only [setTargetAllowed, bind_eq_ok, onlyRole_eq_ok, pure_eq_ok, exists_and_left,
      exists_const] at written
    cases written.2
    exact .admin _ rfl before.roles before.policies _ before.humanApprovals rfl rfl
  | approveAction nftId actionHash =>
    obtain ⟨events, written, rfl⟩ := (quietly_eq_ok _ _ _).mp accepted
    simp only [approveAction, bind_eq_ok, onlyRole_eq_ok, pure_eq_ok, exists_and_left,
      exists_const] at written
    cases written.2
    exact .admin _ rfl before.roles before.policies before.allowedTargets _ rfl rfl
  | consumeAction nftId expectedNonce target value data =>
    simp only [transact] at accepted
    cases attempt : consumeAction keccak256 message nftId expectedNonce target value data before with
    | error failure =>
      rw [attempt] at accepted
      cases accepted
    | ok result =>
      obtain ⟨⟨written, events⟩, usedNonce⟩ := result
      rw [attempt] at accepted
      cases Except.ok.inj accepted
      obtain ⟨rfl, spent, newNonce, step⟩ := consumeAction_ok message nftId expectedNonce target
        value data before written events usedNonce attempt
      exact .consume nftId expectedNonce target value data events spent newNonce step rfl
  | grantExecutorRole executor =>
    obtain ⟨events, written, rfl⟩ := (quietly_eq_ok _ _ _).mp accepted
    simp only [grantExecutorRole, grantRole, bind_eq_ok, onlyRole_eq_ok, exists_const] at written
    obtain ⟨roles, after_eq⟩ := withRoles_ok before after _ events written.2
    exact roles_step message _ rfl before after _ rfl roles after_eq
  | grantHumanApproverRole approver =>
    obtain ⟨events, written, rfl⟩ := (quietly_eq_ok _ _ _).mp accepted
    simp only [grantHumanApproverRole, grantRole, bind_eq_ok, onlyRole_eq_ok, exists_const] at written
    obtain ⟨roles, after_eq⟩ := withRoles_ok before after _ events written.2
    exact roles_step message _ rfl before after _ rfl roles after_eq
  | grantRole role account =>
    obtain ⟨events, written, rfl⟩ := (quietly_eq_ok _ _ _).mp accepted
    obtain ⟨roles, after_eq⟩ := withRoles_ok before after _ events written
    exact roles_step message _ rfl before after _ rfl roles after_eq
  | revokeRole role account =>
    obtain ⟨events, written, rfl⟩ := (quietly_eq_ok _ _ _).mp accepted
    obtain ⟨roles, after_eq⟩ := withRoles_ok before after _ events written
    exact roles_step message _ rfl before after _ rfl roles after_eq
  | renounceRole role callerConfirmation =>
    obtain ⟨events, written, rfl⟩ := (quietly_eq_ok _ _ _).mp accepted
    obtain ⟨roles, after_eq⟩ := withRoles_ok before after _ events written
    exact roles_step message _ rfl before after _ rfl roles after_eq

end BigX.Policy
