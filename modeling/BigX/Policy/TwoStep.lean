import BigX.Evm.AccessControl
import BigX.Policy.Contract
import BigX.Run.DailyMeter

set_option autoImplicit false

/- The other policy engine of the repository, the one beside the agent registry. It is asked
with `checkAction` and told afterwards with `recordSpend`; an action has no nonce and an
approval is never taken back. -/
namespace BigX.Policy.TwoStep

open Evm

inductive Role
  | defaultAdmin
  | policyAdmin
  | other (id : Bytes32)
  deriving DecidableEq

inductive Event
  | policySet (nftId perTxLimit dailyLimit humanApprovalThreshold : Uint256)
  | targetAllowlisted (nftId : Uint256) (target : Address) (allowed : Bool)
  | actionApproved (nftId : Uint256) (actionHash : Bytes32)
  | roles (event : RoleEvent Role)
  deriving DecidableEq

structure State where
  roles : AccessControl Role
  policies : Uint256 → AgentPolicy
  allowedTargets : Uint256 → Address → Bool
  spentToday : Uint256 → Uint256
  lastResetDay : Uint256 → Uint256
  humanApprovals : Uint256 → Bytes32 → Bool

/-- The contract declares no errors of its own. -/
abbrev Failure : Type := Revert Role Empty

abbrev Result : Type := Except Failure (State × List Event)

/-- The constructor. -/
def deploy (message : Message) (admin : Address) : State × List Event :=
  let first := AccessControl.empty.grant Role.defaultAdmin admin message.sender
  let second := first.1.grant .policyAdmin admin message.sender
  ({ roles := second.1
     policies := fun _ => .unset
     allowedTargets := fun _ _ => false
     spentToday := fun _ => 0#256
     lastResetDay := fun _ => 0#256
     humanApprovals := fun _ _ => false },
   (first.2 ++ second.2).map .roles)

def setPolicy (message : Message) (nftId perTxLimit dailyLimit humanApprovalThreshold : Uint256)
    (state : State) : Result := do
  onlyRole state.roles .policyAdmin message
  pure
    ({ state with
       policies := Function.update state.policies nftId
         ⟨perTxLimit, dailyLimit, humanApprovalThreshold, true⟩ },
     [.policySet nftId perTxLimit dailyLimit humanApprovalThreshold])

def setTargetAllowed (message : Message) (nftId : Uint256) (target : Address) (allowed : Bool)
    (state : State) : Result := do
  onlyRole state.roles .policyAdmin message
  pure
    ({ state with
       allowedTargets := Function.update state.allowedTargets nftId
         (Function.update (state.allowedTargets nftId) target allowed) },
     [.targetAllowlisted nftId target allowed])

def approveAction (message : Message) (nftId : Uint256) (actionHash : Bytes32) (state : State) :
    Result := do
  onlyRole state.roles .policyAdmin message
  pure
    ({ state with
       humanApprovals := Function.update state.humanApprovals nftId
         (Function.update (state.humanApprovals nftId) actionHash true) },
     [.actionApproved nftId actionHash])

/-- The arguments of `checkAction`. -/
structure Action where
  nftId : Uint256
  target : Address
  value : Uint256
  data : Calldata
  deriving DecidableEq

/-- `abi.encode(nftId, target, value, data)` -/
def Action.encode (action : Action) : List Byte :=
  Abi.encode [.uint256 action.nftId, .address action.target, .uint256 action.value,
    .bytes action.data]

def checkAction (keccak256 : List Byte → Bytes32) (message : Message) (action : Action)
    (state : State) : Except Failure (Bool × String) := do
  let policy := state.policies action.nftId
  if policy.exists_ = false then return (false, "No policy set for agent")
  if state.allowedTargets action.nftId action.target = false then
    return (false, "Target not allowlisted")
  if policy.perTxLimit < action.value then return (false, "Exceeds per-tx limit")
  let today := message.today
  let spent := if state.lastResetDay action.nftId = today then state.spentToday action.nftId
    else 0#256
  let total ← checkedAdd spent action.value
  if policy.dailyLimit < total then return (false, "Exceeds daily limit")
  if policy.humanApprovalThreshold < action.value then
    let actionHash := keccak256 action.encode
    if state.humanApprovals action.nftId actionHash = false then
      return (false, "Requires human approval")
  return (true, "")

/-- The reset at the start of `recordSpend`. -/
def resetDay (nftId today : Uint256) (state : State) : State :=
  if state.lastResetDay nftId ≠ today then
    { state with
      lastResetDay := Function.update state.lastResetDay nftId today
      spentToday := Function.update state.spentToday nftId 0#256 }
  else state

def recordSpend (message : Message) (nftId value : Uint256) (state : State) : Result := do
  onlyRole state.roles .policyAdmin message
  let reset := resetDay nftId message.today state
  let spentToday ← checkedAdd (reset.spentToday nftId) value
  pure ({ reset with spentToday := Function.update reset.spentToday nftId spentToday }, [])

/-- Write back what an inherited role function did. -/
def withRoles (state : State)
    (attempt : Except Failure (AccessControl Role × List (RoleEvent Role))) : Result := do
  let changed ← attempt
  pure ({ state with roles := changed.1 }, changed.2.map .roles)

/-- The external functions that can write. -/
inductive Call
  | setPolicy (nftId perTxLimit dailyLimit humanApprovalThreshold : Uint256)
  | setTargetAllowed (nftId : Uint256) (target : Address) (allowed : Bool)
  | approveAction (nftId : Uint256) (actionHash : Bytes32)
  | recordSpend (nftId value : Uint256)
  | grantRole (role : Role) (account : Address)
  | revokeRole (role : Role) (account : Address)
  | renounceRole (role : Role) (callerConfirmation : Address)
  deriving DecidableEq

def transact (message : Message) (call : Call) (state : State) : Result :=
  match call with
  | .setPolicy nftId perTxLimit dailyLimit humanApprovalThreshold =>
      setPolicy message nftId perTxLimit dailyLimit humanApprovalThreshold state
  | .setTargetAllowed nftId target allowed => setTargetAllowed message nftId target allowed state
  | .approveAction nftId actionHash => approveAction message nftId actionHash state
  | .recordSpend nftId value => recordSpend message nftId value state
  | .grantRole role account =>
      withRoles state (state.roles.grantRole .defaultAdmin message role account)
  | .revokeRole role account =>
      withRoles state (state.roles.revokeRole .defaultAdmin message role account)
  | .renounceRole role callerConfirmation =>
      withRoles state (state.roles.renounceRole message role callerConfirmation)

/-- An agent's two spending fields, read as a meter. -/
def State.meter (state : State) (nftId : Uint256) : Run.Meter Nat Nat :=
  ⟨(state.spentToday nftId).toNat, (state.lastResetDay nftId).toNat⟩

/-- What the engine takes for the amount already spent. -/
theorem spent_toNat (state : State) (nftId today : Uint256) :
    (if state.lastResetDay nftId = today then state.spentToday nftId else 0#256).toNat =
      (state.meter nftId).read today.toNat := by
  unfold State.meter Run.Meter.read
  by_cases same : state.lastResetDay nftId = today
  · simp [same]
  · have other : ¬ (state.lastResetDay nftId).toNat = today.toNat := fun equal =>
      same (BitVec.eq_of_toNat_eq equal)
    simp [same, other]

/-- What an action found that was allowed. -/
structure Allowed (keccak256 : List Byte → Bytes32) (message : Message) (action : Action)
    (state : State) : Prop where
  daily : (state.meter action.nftId).read message.today.toNat + action.value.toNat ≤
    (state.policies action.nftId).dailyLimit.toNat
  approved : (state.policies action.nftId).humanApprovalThreshold < action.value →
    state.humanApprovals action.nftId (keccak256 action.encode) = true

theorem checkAction_allowed {keccak256 : List Byte → Bytes32} {message : Message}
    {action : Action} {state : State} {reason : String}
    (accepted : checkAction keccak256 message action state = .ok (true, reason)) :
    Allowed keccak256 message action state := by
  unfold checkAction at accepted
  dsimp only at accepted
  split at accepted
  · simp at accepted
  split at accepted
  · simp at accepted
  split at accepted
  · simp at accepted
  obtain ⟨total, summed, rest⟩ := (bind_eq_ok _ _ _).mp accepted
  split at rest
  · simp at rest
  rename_i within
  refine ⟨?_, ?_⟩
  · rw [checkedAdd_eq_ok, spent_toNat] at summed
    rw [← summed]
    exact BitVec.le_def.mp (BitVec.not_lt.mp within)
  · intro above
    rw [if_pos above] at rest
    split at rest
    · simp at rest
    · rename_i approved
      simpa using approved

/-- What a recorded value changes. -/
structure RecordStep (message : Message) (nftId value : Uint256) (before after : State) : Prop where
  meter : ∀ agent, after.meter agent = if nftId = agent then
    (before.meter nftId).charge message.today.toNat value.toNat else before.meter agent
  policies : after.policies = before.policies
  humanApprovals : after.humanApprovals = before.humanApprovals

theorem resetDay_meter (state : State) (nftId today agent : Uint256) :
    (resetDay nftId today state).meter agent = if nftId = agent then
      ⟨(state.meter nftId).read today.toNat, today.toNat⟩ else state.meter agent := by
  unfold resetDay
  by_cases own : nftId = agent
  · subst own
    rw [if_pos rfl]
    by_cases same : state.lastResetDay nftId = today
    · simp [same, State.meter, Run.Meter.read]
    · have other : ¬ (state.lastResetDay nftId).toNat = today.toNat := fun equal =>
        same (BitVec.eq_of_toNat_eq equal)
      simp [same, State.meter, Run.Meter.read, other]
  · rw [if_neg own]
    have different : agent ≠ nftId := fun equal => own equal.symm
    split
    · simp only [State.meter, Function.update_of_ne different]
    · rfl

theorem recordSpend_ok {message : Message} {nftId value : Uint256} {before : State}
    {result : State × List Event}
    (accepted : recordSpend message nftId value before = .ok result) :
    RecordStep message nftId value before result.1 := by
  simp only [recordSpend, bind_eq_ok, pure_eq_ok, checkedAdd_eq_ok] at accepted
  obtain ⟨_, -, spent, charged, rfl⟩ := accepted
  have reset := fun agent => resetDay_meter before nftId message.today agent
  refine ⟨?_, ?_, ?_⟩
  · intro agent
    by_cases own : nftId = agent
    · subst own
      have before_read := reset nftId
      rw [if_pos rfl] at before_read ⊢
      have total := congrArg Run.Meter.total before_read
      have day := congrArg Run.Meter.day before_read
      simp only [State.meter] at total day
      simp only [State.meter, Function.update_self, Run.Meter.charge, charged, total, day]
    · have different : agent ≠ nftId := fun equal => own equal.symm
      have kept := reset agent
      rw [if_neg own] at kept ⊢
      rw [← kept]
      simp only [State.meter, Function.update_of_ne different]
  · dsimp only
    unfold resetDay
    split <;> rfl
  · dsimp only
    unfold resetDay
    split <;> rfl

/-- What an accepted call changed of the policies, the approvals and the meters. -/
inductive CallStep (message : Message) (before after : State) : Call → Prop
  | policySet (nftId perTxLimit dailyLimit humanApprovalThreshold : Uint256)
      (meter : after.meter = before.meter)
      (policies : ∀ agent, agent ≠ nftId → after.policies agent = before.policies agent)
      (humanApprovals : after.humanApprovals = before.humanApprovals) :
      CallStep message before after
        (.setPolicy nftId perTxLimit dailyLimit humanApprovalThreshold)
  | approved (nftId : Uint256) (actionHash : Bytes32)
      (meter : after.meter = before.meter)
      (policies : after.policies = before.policies)
      (humanApprovals : ∀ agent hash, after.humanApprovals agent hash = true →
        agent = nftId ∧ hash = actionHash ∨ before.humanApprovals agent hash = true) :
      CallStep message before after (.approveAction nftId actionHash)
  | recorded (nftId value : Uint256) (recording : RecordStep message nftId value before after) :
      CallStep message before after (.recordSpend nftId value)
  | plain (call : Call)
      (unapproving : ∀ nftId actionHash, call ≠ .approveAction nftId actionHash)
      (unrecording : ∀ nftId value, call ≠ .recordSpend nftId value)
      (meter : after.meter = before.meter)
      (policies : after.policies = before.policies)
      (humanApprovals : after.humanApprovals = before.humanApprovals) :
      CallStep message before after call

theorem withRoles_step {message : Message} {call : Call} {before : State}
    {attempt : Except Failure (AccessControl Role × List (RoleEvent Role))}
    {result : State × List Event} (accepted : withRoles before attempt = .ok result)
    (unapproving : ∀ nftId actionHash, call ≠ .approveAction nftId actionHash)
    (unrecording : ∀ nftId value, call ≠ .recordSpend nftId value) :
    CallStep message before result.1 call := by
  simp only [withRoles, bind_eq_ok, pure_eq_ok] at accepted
  obtain ⟨changed, -, rfl⟩ := accepted
  exact .plain call unapproving unrecording rfl rfl rfl

theorem transact_step {message : Message} {call : Call} {before : State}
    {result : State × List Event} (accepted : transact message call before = .ok result) :
    CallStep message before result.1 call := by
  cases call with
  | setPolicy nftId perTxLimit dailyLimit humanApprovalThreshold =>
    simp only [transact, setPolicy, bind_eq_ok, pure_eq_ok] at accepted
    obtain ⟨_, -, rfl⟩ := accepted
    refine .policySet nftId perTxLimit dailyLimit humanApprovalThreshold rfl ?_ rfl
    intro agent other
    simp only [Function.update_of_ne other]
  | setTargetAllowed nftId target allowed =>
    simp only [transact, setTargetAllowed, bind_eq_ok, pure_eq_ok] at accepted
    obtain ⟨_, -, rfl⟩ := accepted
    exact .plain _ (fun _ _ => by simp) (fun _ _ => by simp) rfl rfl rfl
  | approveAction nftId actionHash =>
    simp only [transact, approveAction, bind_eq_ok, pure_eq_ok] at accepted
    obtain ⟨_, -, rfl⟩ := accepted
    refine .approved nftId actionHash rfl rfl ?_
    intro agent hash set
    dsimp only at set
    by_cases own : agent = nftId
    · subst own
      rw [Function.update_self] at set
      by_cases same : hash = actionHash
      · exact Or.inl ⟨rfl, same⟩
      · rw [Function.update_of_ne same] at set
        exact Or.inr set
    · rw [Function.update_of_ne own] at set
      exact Or.inr set
  | recordSpend nftId value => exact .recorded nftId value (recordSpend_ok accepted)
  | grantRole role account =>
    exact withRoles_step accepted (fun _ _ => by simp) (fun _ _ => by simp)
  | revokeRole role account =>
    exact withRoles_step accepted (fun _ _ => by simp) (fun _ _ => by simp)
  | renounceRole role callerConfirmation =>
    exact withRoles_step accepted (fun _ _ => by simp) (fun _ _ => by simp)

end BigX.Policy.TwoStep
