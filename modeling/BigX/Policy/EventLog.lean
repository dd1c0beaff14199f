import BigX.Policy.Steps

set_option autoImplicit false

/- What the policy engine's events tell. With the times of their blocks they tell all of its
storage, and those under one agent's topic all that it stores for that agent. -/
namespace BigX.Policy

open Evm Run

/-- An event, with the time of the block it was logged in. -/
structure Stamped where
  timestamp : Uint256
  event : Event
  deriving DecidableEq

/-- What the engine stores for one agent. -/
structure Agent where
  policy : AgentPolicy
  allowedTargets : Address → Bool
  spentToday : Uint256
  lastResetDay : Uint256
  humanApprovals : Bytes32 → Bool
  agentNonce : Uint256

structure Replica where
  hasRole : Role → Address → Bool
  agents : Uint256 → Agent

def State.agent (state : State) (nftId : Uint256) : Agent where
  policy := state.policies nftId
  allowedTargets := state.allowedTargets nftId
  spentToday := state.spentToday nftId
  lastResetDay := state.lastResetDay nftId
  humanApprovals := state.humanApprovals nftId
  agentNonce := state.agentNonce nftId

def State.view (state : State) : Replica :=
  ⟨state.roles.hasRole, state.agent⟩

/-- The storage has nothing that the replica leaves out. -/
theorem State.view_injective : Function.Injective State.view := by
  intro first second same
  have hasRole := congrArg Replica.hasRole same
  have agents (nftId : Uint256) := congrFun (congrArg Replica.agents same) nftId
  obtain ⟨⟨held⟩, policies, allowed, spent, reset, approvals, nonces⟩ := first
  obtain ⟨⟨held'⟩, policies', allowed', spent', reset', approvals', nonces'⟩ := second
  obtain rfl : held = held' := hasRole
  obtain rfl : policies = policies' := funext fun nftId => congrArg Agent.policy (agents nftId)
  obtain rfl : allowed = allowed' :=
    funext fun nftId => congrArg Agent.allowedTargets (agents nftId)
  obtain rfl : spent = spent' := funext fun nftId => congrArg Agent.spentToday (agents nftId)
  obtain rfl : reset = reset' := funext fun nftId => congrArg Agent.lastResetDay (agents nftId)
  obtain rfl : approvals = approvals' :=
    funext fun nftId => congrArg Agent.humanApprovals (agents nftId)
  obtain rfl : nonces = nonces' := funext fun nftId => congrArg Agent.agentNonce (agents nftId)
  rfl

/-- The indexed `nftId` of an event. -/
def Event.agent : Event → Option Uint256
  | .policySet nftId .. => some nftId
  | .targetAllowlisted nftId .. => some nftId
  | .actionApproved nftId .. => some nftId
  | .nonceAdvanced nftId .. => some nftId
  | .actionConsumed nftId .. => some nftId
  | .roles _ => none

/-- What the agent has spent on a day, read at its start or within it. -/
def Agent.spentOn (agent : Agent) (today : Uint256) : Uint256 :=
  if agent.lastResetDay = today then agent.spentToday else 0#256

def Stamped.day (stamped : Stamped) : Uint256 :=
  stamped.timestamp / secondsPerDay

/-- What an event under an agent's topic says about the agent. -/
def Stamped.applyAgent (stamped : Stamped) (agent : Agent) : Agent :=
  match stamped.event with
  | .policySet _ perTxLimit dailyLimit humanApprovalThreshold =>
      { agent with policy := ⟨perTxLimit, dailyLimit, humanApprovalThreshold, true⟩ }
  | .targetAllowlisted _ target allowed =>
      { agent with allowedTargets := Function.update agent.allowedTargets target allowed }
  | .actionApproved _ actionHash _ =>
      { agent with humanApprovals := Function.update agent.humanApprovals actionHash true }
  | .nonceAdvanced _ newNonce => { agent with agentNonce := newNonce }
  | .actionConsumed _ _ _ value =>
      { agent with
        spentToday := agent.spentOn stamped.day + value
        lastResetDay := stamped.day }
  | .roles _ => agent

/-- Which event may come next under the agent's topic. The data of an action is not logged, so
whether a human approved it cannot be seen. -/
def Stamped.AllowedAgent (stamped : Stamped) (agent : Agent) : Prop :=
  match stamped.event with
  | .actionApproved _ _ nonce => nonce = agent.agentNonce
  | .nonceAdvanced _ newNonce => newNonce.toNat = agent.agentNonce.toNat + 1
  | .actionConsumed _ nonce target value =>
      agent.agentNonce.toNat = nonce.toNat + 1 ∧ agent.policy.exists_ = true ∧
        agent.allowedTargets target = true ∧ value ≤ agent.policy.perTxLimit ∧
        (agent.spentOn stamped.day).toNat + value.toNat ≤ agent.policy.dailyLimit.toNat
  | _ => True

instance : (stamped : Stamped) → (agent : Agent) → Decidable (stamped.AllowedAgent agent)
  | ⟨_, .actionApproved ..⟩, _ => inferInstanceAs (Decidable (_ = _))
  | ⟨_, .nonceAdvanced ..⟩, _ => inferInstanceAs (Decidable (_ = _))
  | ⟨_, .actionConsumed ..⟩, _ => inferInstanceAs (Decidable (_ ∧ _ ∧ _ ∧ _ ∧ _))
  | ⟨_, .policySet ..⟩, _ => inferInstanceAs (Decidable True)
  | ⟨_, .targetAllowlisted ..⟩, _ => inferInstanceAs (Decidable True)
  | ⟨_, .roles _⟩, _ => inferInstanceAs (Decidable True)

def Stamped.readAgent : Stamped → Agent → Option Agent :=
  checked Stamped.AllowedAgent Stamped.applyAgent

/-- One event: what it says about the agent of its topic, or about the roles. -/
def Stamped.read (stamped : Stamped) (replica : Replica) : Option Replica :=
  match stamped with
  | ⟨_, .roles event⟩ =>
      (checked (RoleEvent.Allowed .defaultAdmin) RoleEvent.apply event replica.hasRole).map
        fun held => { replica with hasRole := held }
  | _ => stamped.event.agent.bind fun nftId =>
      (stamped.readAgent (replica.agents nftId)).map fun agent =>
        { replica with agents := Function.update replica.agents nftId agent }

theorem Stamped.read_topic {stamped : Stamped} {nftId : Uint256}
    (topic : stamped.event.agent = some nftId) (replica : Replica) :
    stamped.read replica = (stamped.readAgent (replica.agents nftId)).map fun agent =>
      { replica with agents := Function.update replica.agents nftId agent } := by
  obtain ⟨timestamp, event⟩ := stamped
  cases event with
  | roles event => cases topic
  | _ =>
    unfold Stamped.read
    simp only [topic, Option.bind_some]

/-- The reader of one agent's topic. -/
def Stamped.under (nftId : Uint256) (stamped : Stamped) : Bool :=
  stamped.event.agent = some nftId

theorem replay_topic (log : List Stamped) (replica final : Replica) (nftId : Uint256)
    (told : replay Stamped.read log replica = some final) :
    replay Stamped.readAgent (log.filter (Stamped.under nftId)) (replica.agents nftId) =
      some (final.agents nftId) := by
  apply replay_filter Stamped.read (fun replica => replica.agents nftId) (Stamped.under nftId)
    Stamped.readAgent ?_ ?_ log replica final told
  · intro stamped replica next relevant first
    rw [Stamped.read_topic (of_decide_eq_true relevant)] at first
    obtain ⟨agent, read, rfl⟩ := Option.map_eq_some_iff.mp first
    simp only [read, Function.update_self]
  · intro stamped replica next other first
    have elsewhere : stamped.event.agent ≠ some nftId := of_decide_eq_false other
    cases topic : stamped.event.agent with
    | some about =>
      rw [Stamped.read_topic topic] at first
      obtain ⟨agent, -, rfl⟩ := Option.map_eq_some_iff.mp first
      have apart : nftId ≠ about := by
        rintro rfl
        exact elsewhere topic
      exact Function.update_of_ne apart _ _
    | none =>
      obtain ⟨timestamp, event⟩ := stamped
      cases event with
      | roles event =>
        obtain ⟨held, -, rfl⟩ := Option.map_eq_some_iff.mp first
        rfl
      | _ => cases topic

/-- An event that may come next, and the state it leaves. -/
theorem read_written {before after : State} {nftId : Uint256} {stamped : Stamped}
    (topic : stamped.event.agent = some nftId) (may : stamped.AllowedAgent (before.agent nftId))
    (roles : after.roles = before.roles)
    (written : stamped.applyAgent (before.agent nftId) = after.agent nftId)
    (others : ∀ other, other ≠ nftId → after.agent other = before.agent other) :
    stamped.read before.view = some after.view := by
  have read : stamped.readAgent (before.view.agents nftId) = some (after.agent nftId) := by
    rw [← written]
    exact checked_of Stamped.AllowedAgent Stamped.applyAgent may
  rw [Stamped.read_topic topic, read, Option.map_some]
  unfold State.view
  rw [roles]
  congr 2
  funext other
  by_cases same : other = nftId
  · rw [same, Function.update_self]
  · rw [Function.update_of_ne same, others other same]

theorem replay_one {before after : State} {stamped : Stamped}
    (read : stamped.read before.view = some after.view) :
    replay Stamped.read [stamped] before.view = some after.view :=
  replay_cons_of Stamped.read read

variable {keccak256 : List Byte → Bytes32}

/-- The two events of a consumed action: first the nonce, and then the spending. -/
theorem ConsumeStep.told {message : Message} {nftId expectedNonce : Uint256} {target : Address}
    {value : Uint256} {data : Calldata} {before after : State} {events : List Event}
    {spent newNonce : Uint256}
    (step : ConsumeStep keccak256 message nftId expectedNonce target value data before after events
      spent newNonce) :
    replay Stamped.read (events.map (Stamped.mk message.timestamp)) before.view =
      some after.view := by
  let between : State := { before with
    agentNonce := Function.update before.agentNonce nftId newNonce }
  have first : (Stamped.mk message.timestamp (.nonceAdvanced nftId newNonce)).read before.view =
      some between.view := by
    refine read_written rfl ?_ rfl ?_ ?_
    · exact step.advanced
    · simp [between, Stamped.applyAgent, State.agent]
    · intro other apart
      simp [between, State.agent, apart]
  have today : (Stamped.mk message.timestamp (.actionConsumed nftId (before.agentNonce nftId) target
      value)).day = message.today := rfl
  have spentOn :
      ((between.agent nftId).spentOn message.today).toNat + value.toNat = spent.toNat := by
    rw [step.charged, ← spent_toNat]
    rfl
  have total : (between.agent nftId).spentOn message.today + value = spent := by
    apply BitVec.eq_of_toNat_eq
    rw [BitVec.toNat_add, spentOn]
    exact Nat.mod_eq_of_lt spent.isLt
  have second : (Stamped.mk message.timestamp
      (.actionConsumed nftId (before.agentNonce nftId) target value)).read between.view =
        some after.view := by
    refine read_written rfl ?_ ?_ ?_ ?_
    · refine ⟨?_, step.policySet, step.listed, BitVec.le_def.mpr step.perTx, ?_⟩
      · simp only [between, State.agent, Function.update_self]
        exact step.advanced
      · rw [today, spentOn]
        exact step.daily
    · rw [step.after_eq]
    · simp only [Stamped.applyAgent, today, total]
      rw [step.after_eq]
      simp [between, State.agent]
    · intro other apart
      rw [step.after_eq]
      simp [between, State.agent, apart]
  rw [step.events_eq, List.map_cons, List.map_cons, List.map_nil, replay_cons_of Stamped.read first]
  exact replay_one second

/-- The role events of one call. -/
theorem withRoles_told (timestamp : Uint256) {before after : State} {events : List Event}
    (attempt : Except Failure (AccessControl Role × List (RoleEvent Role)))
    (told : ∀ changed, attempt = .ok changed →
      replay (checked (RoleEvent.Allowed .defaultAdmin) RoleEvent.apply) changed.2
        before.roles.hasRole = some changed.1.hasRole)
    (accepted : withRoles before attempt = .ok (after, events)) :
    replay Stamped.read (events.map (Stamped.mk timestamp)) before.view = some after.view := by
  simp only [withRoles, bind_eq_ok, pure_eq_ok] at accepted
  obtain ⟨changed, returned, same⟩ := accepted
  cases same
  have within := replay_map Stamped.read (checked (RoleEvent.Allowed .defaultAdmin) RoleEvent.apply)
    (fun event => Stamped.mk timestamp (.roles event)) (fun held => ⟨held, before.agent⟩)
    (fun _ _ => rfl) changed.2 before.roles.hasRole
  rw [List.map_map]
  rw [told changed returned] at within
  exact within

theorem grantRole_told {message : Message} {role : Role} {account : Address} {before after : State}
    {events : List Event} (accepted : grantRole message role account before = .ok (after, events)) :
    replay Stamped.read (events.map (Stamped.mk message.timestamp)) before.view =
      some after.view := by
  apply withRoles_told message.timestamp _ _ accepted
  intro changed returned
  exact before.roles.grantRole_replay .defaultAdmin message role account changed returned

/-- What a call that returns no nonce did, by its own result. -/
theorem quietly_told {before after : State} {output : Output} {result : Result}
    (timestamp : Uint256)
    (told : ∀ events, result = .ok (after, events) →
      replay Stamped.read (events.map (Stamped.mk timestamp)) before.view = some after.view)
    (accepted : quietly result = .ok (after, output)) :
    replay Stamped.read (output.events.map (Stamped.mk timestamp)) before.view =
      some after.view := by
  obtain ⟨events, written, rfl⟩ := (quietly_eq_ok _ _ _).mp accepted
  exact told events written

theorem transact_told (transaction : Transaction) (before after : State) (output : Output)
    (accepted : transact keccak256 transaction before = .ok (after, output)) :
    replay Stamped.read (output.events.map (Stamped.mk transaction.message.timestamp)) before.view =
      some after.view := by
  obtain ⟨message, call⟩ := transaction
  cases call with
  | setPolicy nftId perTxLimit dailyLimit humanApprovalThreshold =>
    apply quietly_told message.timestamp _ accepted
    intro events written
    simp only [setPolicy, bind_eq_ok, onlyRole_eq_ok, pure_eq_ok, exists_and_left,
      exists_const] at written
    cases written.2
    apply replay_one
    refine read_written rfl trivial rfl ?_ ?_
    · simp [Stamped.applyAgent, State.agent]
    · intro other apart
      simp [State.agent, apart]
  | setTargetAllowed nftId target allowed =>
    apply quietly_told message.timestamp _ accepted
    intro events written
    simp only [setTargetAllowed, bind_eq_ok, onlyRole_eq_ok, pure_eq_ok, exists_and_left,
      exists_const] at written
    cases written.2
    apply replay_one
    refine read_written rfl trivial rfl ?_ ?_
    · simp [Stamped.applyAgent, State.agent]
    · intro other apart
      simp [State.agent, apart]
  | approveAction nftId actionHash =>
    apply quietly_told message.timestamp _ accepted
    intro events written
    simp only [approveAction, bind_eq_ok, onlyRole_eq_ok, pure_eq_ok, exists_and_left,
      exists_const] at written
    cases written.2
    apply replay_one
    refine read_written rfl ?_ rfl ?_ ?_
    · exact Eq.refl (before.agentNonce nftId)
    · simp [Stamped.applyAgent, State.agent]
    · intro other apart
      simp [State.agent, apart]
  | consumeAction nftId expectedNonce target value data =>
    simp only [transact] at accepted
    cases attempt :
      consumeAction keccak256 message nftId expectedNonce target value data before with
    | error failure =>
      rw [attempt] at accepted
      cases accepted
    | ok result =>
      obtain ⟨⟨written, events⟩, usedNonce⟩ := result
      rw [attempt] at accepted
      cases Except.ok.inj accepted
      obtain ⟨-, spent, newNonce, step⟩ := consumeAction_ok message nftId expectedNonce target
        value data before written events usedNonce attempt
      exact step.told
  | grantExecutorRole executor =>
    apply quietly_told message.timestamp _ accepted
    intro events written
    simp only [grantExecutorRole, bind_eq_ok, onlyRole_eq_ok, exists_const] at written
    exact grantRole_told written.2
  | grantHumanApproverRole approver =>
    apply quietly_told message.timestamp _ accepted
    intro events written
    simp only [grantHumanApproverRole, bind_eq_ok, onlyRole_eq_ok, exists_const] at written
    exact grantRole_told written.2
  | grantRole role account =>
    apply quietly_told message.timestamp _ accepted
    intro events written
    exact grantRole_told written
  | revokeRole role account =>
    apply quietly_told message.timestamp _ accepted
    intro events written
    apply withRoles_told message.timestamp _ _ written
    intro changed returned
    exact before.roles.revokeRole_replay .defaultAdmin message role account changed returned
  | renounceRole role callerConfirmation =>
    apply quietly_told message.timestamp _ accepted
    intro events written
    apply withRoles_told message.timestamp _ _ written
    intro changed returned
    exact before.roles.renounceRole_replay .defaultAdmin message role callerConfirmation changed
      returned

/-- What a transaction logged. -/
def stampedEvents (entry : Entry) : List Stamped :=
  entry.output.events.map (Stamped.mk entry.input.message.timestamp)

/-- An agent nothing was logged about. -/
def Agent.blank : Agent :=
  ⟨.unset, fun _ => false, 0#256, 0#256, fun _ => false, 0#256⟩

def Event.applyRole (event : Event) (held : Role → Address → Bool) : Role → Address → Bool :=
  match event with
  | .roles event => event.apply held
  | _ => held

/-- What the constructor's events tell. -/
def created (log : List Event) : Replica where
  hasRole := log.foldl (fun held event => event.applyRole held) fun _ _ => false
  agents := fun _ => .blank

theorem deploy_told (message : Message) (admin : Address) :
    created (deploy message admin).2 = (deploy message admin).1.view := by
  have first := AccessControl.empty.grant_told Role.defaultAdmin admin message.sender
  have second := (AccessControl.empty.grant Role.defaultAdmin admin message.sender).1.grant_told
    .policyAdmin admin message.sender
  have told : ((AccessControl.empty.grant Role.defaultAdmin admin message.sender).2 ++
      ((AccessControl.empty.grant Role.defaultAdmin admin message.sender).1.grant .policyAdmin admin
        message.sender).2).foldl (fun held event => event.apply held) (fun _ _ => false) =
      (deploy message admin).1.roles.hasRole := by
    rw [List.foldl_append]
    exact (congrArg _ first).trans second
  unfold created State.view
  rw [← told]
  unfold deploy
  simp only [List.foldl_map]
  rfl

/-- The log of an engine since it was deployed, with the blocks' times, can be checked event by
event and tells its whole storage; the part of it under one agent's topic tells what is stored
for the agent. -/
theorem engine_told (keccak256 : List Byte → Bytes32) (message : Message) (admin : Address)
    (transactions : List Transaction) :
    replay Stamped.read
        ((history keccak256 (deploy message admin).1 transactions).past.flatMap stampedEvents)
        (created (deploy message admin).2) =
      some (history keccak256 (deploy message admin).1 transactions).now.view ∧
    (∀ other : State, other.view =
        (history keccak256 (deploy message admin).1 transactions).now.view →
      other = (history keccak256 (deploy message admin).1 transactions).now) ∧
    ∀ nftId, replay Stamped.readAgent
        (((history keccak256 (deploy message admin).1 transactions).past.flatMap
          stampedEvents).filter (Stamped.under nftId)) .blank =
      some ((history keccak256 (deploy message admin).1 transactions).now.agent nftId) := by
  have told := (run_replay (transact keccak256) (deploy message admin).1 State.view Stamped.read
    stampedEvents (fun before input after output accepted =>
      transact_told input before after output accepted) transactions).2
  rw [← deploy_told] at told
  refine ⟨told, fun other same => State.view_injective same, ?_⟩
  intro nftId
  exact replay_topic _ _ _ nftId told

end BigX.Policy
