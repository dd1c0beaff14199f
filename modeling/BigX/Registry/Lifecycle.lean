import BigX.Registry.Steps
import BigX.Run.Trace

set_option autoImplicit false

/- The life of an agent: the transitions it makes, and what it keeps meanwhile. -/
namespace BigX.Registry

open Evm Run

/-- A call with the answer that the ERC-6551 registry has for it: some account, and an
account never has the zero address. -/
structure Answered where
  transaction : Transaction
  real : ∀ nftId account, transaction.call = .provisionAccount nftId account →
    account ≠ Address.zero

/-- A call to its end, where the ERC-6551 registry does not call back. -/
def transact (answered : Answered) (state : State) : Except Failure (State × List Event) :=
  match machine.enter answered.transaction state with
  | .error reason => .error reason
  | .ok (.done after events) => .ok (after, events)
  | .ok (.calling during pending events) =>
      match machine.resume pending during with
      | .error reason => .error reason
      | .ok progress => .ok (progress.state, events ++ progress.output)

abbrev LifeEntry : Type := Run.Entry State Answered (List Event)

/-- Every call in turn, from a deployed registry. -/
abbrev history (start : State) (calls : List Answered) : Run.Trace State Answered (List Event) :=
  Run.run transact start calls

theorem changeState_done {nftId : Uint256} {sources : List LifecycleState}
    {target : LifecycleState} {state during : State} {pending : Rest} {events : List Event} :
    changeState nftId sources target state ≠ .ok (.calling during pending events) := by
  simp only [changeState, ne_eq, bind_eq_ok, pure_eq_ok, reduceCtorEq, and_false, exists_false,
    not_false_eq_true]

theorem withRoles_done {state during : State} {pending : Rest} {events : List Event}
    {attempt : Except Failure (AccessControl Role × List (RoleEvent Role))} :
    withRoles state attempt ≠ .ok (.calling during pending events) := by
  simp only [withRoles, ne_eq, bind_eq_ok, pure_eq_ok, reduceCtorEq, and_false, exists_false,
    not_false_eq_true]

theorem withCapabilities_done {state during : State} {pending : Rest} {events : List Event}
    {attempt : CapabilityResult} :
    withCapabilities state attempt ≠ .ok (.calling during pending events) := by
  unfold withCapabilities
  split <;> simp

/-- Only a provisioning calls out. -/
theorem enter_calling {message : Message} {call : Call} {state during : State} {pending : Rest}
    {events : List Event}
    (accepted : enter message call state = .ok (.calling during pending events)) :
    ∃ nftId account, call = .provisionAccount nftId account ∧
      pending = .provisioning nftId account ∧ during = state ∧
      state.isRegistered nftId = true ∧ (state.records nftId).state = .created := by
  cases call with
  | provisionAccount nftId account =>
    simp only [enter, provisionAccount, onlyRegistered, bind_eq_ok, require_eq_ok,
      pure_eq_ok] at accepted
    obtain ⟨_, known, _, -, _, created, same⟩ := accepted
    cases same
    exact ⟨nftId, account, rfl, rfl, rfl, known, created⟩
  | _ =>
    simp only [enter, registerAgent, activate, suspend, reactivate, deprecate_, archive,
      grantCapability, revokeCapability, recordAttestation, syncOwner, updateEndpoint, setModules,
      pause, unpause, changeState_done, withRoles_done, withCapabilities_done, bind_eq_ok,
      pure_eq_ok, reduceCtorEq, and_false, exists_false] at accepted

/-- A call that goes through is one stretch, or a provisioning with the answer it got. -/
theorem transact_ok {answered : Answered} {before after : State} {events : List Event}
    (accepted : transact answered before = .ok (after, events)) :
    Step before after (.start answered.transaction) ∨
      ∃ nftId account, account ≠ Address.zero ∧
        registers (.start answered.transaction) = none ∧
        before.isRegistered nftId = true ∧ (before.records nftId).state = .created ∧
        Step before after (.rest (.provisioning nftId account)) := by
  obtain ⟨⟨message, call⟩, real⟩ := answered
  unfold transact at accepted
  split at accepted
  · cases accepted
  · rename_i entered
    cases accepted
    exact Or.inl (enter_step entered)
  · rename_i during pending written entered
    obtain ⟨nftId, account, called, rfl, rfl, known, created⟩ := enter_calling entered
    dsimp only at called
    subst called
    split at accepted
    · cases accepted
    · rename_i progress resumed
      cases accepted
      exact Or.inr ⟨nftId, account, real nftId account rfl, rfl, known, created,
        advance_step resumed⟩

theorem setRecord_of_ne {state : State} {written nftId : Uint256} (record : AgentRecord)
    (other : nftId ≠ written) :
    (state.setRecord written record).records nftId = state.records nftId := by
  simp only [State.setRecord, Function.update_of_ne other]

@[simp] theorem setRecord_self (state : State) (nftId : Uint256) (record : AgentRecord) :
    (state.setRecord nftId record).records nftId = record := by
  simp only [State.setRecord, Function.update_self]

/-- Nothing about the agent changed. -/
structure Untouched (before after : State) (nftId : Uint256) : Prop where
  identity : after.identities nftId = before.identities nftId
  record : after.records nftId = before.records nftId
  attestation : after.attestations nftId = before.attestations nftId
  flag : after.isRegistered nftId = before.isRegistered nftId
  listed : nftId ∈ after.allNftIds ↔ nftId ∈ before.allNftIds

/-- What an accepted call did to one agent, when it registered `registered`. -/
inductive AgentStep (before after : State) (nftId : Uint256) (registered : Option Uint256) : Prop
  | enrolled (own : registered = some nftId)
      (fresh : before.isRegistered nftId = false)
      (known : after.isRegistered nftId = true)
      (created : (after.records nftId).state = .created)
      (unprovisioned : (after.records nftId).tokenBoundAccount = Address.zero)
  | provisioned (other : registered ≠ some nftId)
      (known : before.isRegistered nftId = true)
      (flag : after.isRegistered nftId = before.isRegistered nftId)
      (identity : after.identities nftId = before.identities nftId)
      (created : (before.records nftId).state = .created)
      (state : (after.records nftId).state = .provisioning)
      (account : (after.records nftId).tokenBoundAccount ≠ Address.zero)
  | moved (other : registered ≠ some nftId)
      (known : before.isRegistered nftId = true)
      (flag : after.isRegistered nftId = before.isRegistered nftId)
      (identity : after.identities nftId = before.identities nftId)
      (provided : (before.records nftId).state ≠ .created)
      (edge : ((before.records nftId).state, (after.records nftId).state) ∈ transitions)
      (account : (after.records nftId).tokenBoundAccount =
        (before.records nftId).tokenBoundAccount)
  | edited (other : registered ≠ some nftId)
      (known : before.isRegistered nftId = true)
      (flag : after.isRegistered nftId = before.isRegistered nftId)
      (identity : after.identities nftId = before.identities nftId)
      (state : (after.records nftId).state = (before.records nftId).state)
      (account : (after.records nftId).tokenBoundAccount =
        (before.records nftId).tokenBoundAccount)
  | untouched (other : registered ≠ some nftId) (same : Untouched before after nftId)

/-- A written record leaves every other agent alone. -/
theorem untouched_setRecord {before : State} {written nftId : Uint256} (record : AgentRecord)
    (other : nftId ≠ written) : Untouched before (before.setRecord written record) nftId :=
  ⟨rfl, setRecord_of_ne record other, rfl, rfl, Iff.rfl⟩

/-- What a call did to each agent follows from what its stretch wrote. -/
theorem Step.agent {before after : State} {transaction : Transaction}
    (step : Step before after (.start transaction)) (nftId : Uint256) :
    AgentStep before after nftId (registers (.start transaction)) := by
  have known_edit : ∀ (written : Uint256) (record : AgentRecord),
      registers (.start transaction) ≠ some nftId → before.isRegistered written = true →
      after = before.setRecord written record →
      record.state = (before.records written).state →
      record.tokenBoundAccount = (before.records written).tokenBoundAccount →
      AgentStep before after nftId (registers (.start transaction)) := by
    intro written record other known after_eq state account
    subst after_eq
    by_cases same : nftId = written
    · subst same
      refine AgentStep.edited other known rfl rfl ?_ ?_
      · rw [setRecord_self, state]
      · rw [setRecord_self, account]
    · exact .untouched other (untouched_setRecord record same)
  cases step with
  | registered message gas written owner name persona capabilities modelVersion metadataURI
      endpoint identity record fresh valid mask created unprovisioned after_eq =>
    subst after_eq
    by_cases same : nftId = written
    · subst same
      apply AgentStep.enrolled rfl fresh
      · simp only [State.enroll, Function.update_self]
      · simp only [State.enroll, Function.update_self, created]
      · simp only [State.enroll, Function.update_self, unprovisioned]
    · apply AgentStep.untouched
      · intro own
        exact same (Option.some.inj own).symm
      · refine ⟨?_, ?_, rfl, ?_, ?_⟩
        · simp only [State.enroll, Function.update_of_ne same]
        · simp only [State.enroll, Function.update_of_ne same]
        · simp only [State.enroll, Function.update_of_ne same]
        · simp only [State.enroll, List.mem_append, List.mem_singleton, same, or_false]
  | provisioning message written account known created same =>
    subst same
    exact .untouched nofun ⟨rfl, rfl, rfl, rfl, Iff.rfl⟩
  | moved message call written target other known edge provided after_eq =>
    have unregistering : registers (.start ⟨message, call⟩) ≠ some nftId := by simp [other]
    subst after_eq
    by_cases same : nftId = written
    · subst same
      refine AgentStep.moved unregistering known rfl rfl provided ?_ ?_
      · rw [setRecord_self]
        exact edge
      · rw [setRecord_self]
    · exact .untouched unregistering (untouched_setRecord _ same)
  | granted message written capability known listed authorized after_eq =>
    exact known_edit written _ nofun known after_eq rfl rfl
  | revoked message written capability known after_eq =>
    exact known_edit written _ nofun known after_eq rfl rfl
  | attested message written verifierType verifierContract attestationHash attestation known
      after_eq =>
    subst after_eq
    by_cases same : nftId = written
    · subst same
      exact .edited nofun known rfl rfl rfl rfl
    · refine AgentStep.untouched nofun ⟨rfl, rfl, ?_, rfl, Iff.rfl⟩
      simp only [Function.update_of_ne same]
  | rewritten message call written owner endpoint other known after_eq =>
    exact known_edit written _ (by simp [other]) known after_eq rfl rfl
  | defined message bitPosition name description riskTier after_eq =>
    subst after_eq
    exact .untouched nofun ⟨rfl, rfl, rfl, rfl, Iff.rfl⟩
  | aside stretch other same =>
    apply AgentStep.untouched (by simp [other])
    exact ⟨congrFun same.identities nftId, congrFun same.records nftId,
      congrFun same.attestations nftId, congrFun same.isRegistered nftId,
      by rw [same.allNftIds]⟩

theorem transact_agent {answered : Answered} {before after : State} {events : List Event}
    (accepted : transact answered before = .ok (after, events)) (nftId : Uint256) :
    AgentStep before after nftId (registers (.start answered.transaction)) := by
  rcases transact_ok accepted with step | ⟨written, account, real, other, known, created, step⟩
  · exact step.agent nftId
  · have unregistering : registers (.start answered.transaction) ≠ some nftId := by simp [other]
    cases step with
    | provisioned written account after_eq =>
      subst after_eq
      by_cases same : nftId = written
      · subst same
        refine AgentStep.provisioned unregistering known rfl rfl created ?_ ?_
        · rw [setRecord_self]
        · rw [setRecord_self]
          exact real
      · exact .untouched unregistering (untouched_setRecord _ same)
    | aside stretch plain same =>
      apply AgentStep.untouched unregistering
      exact ⟨congrFun same.identities nftId, congrFun same.records nftId,
        congrFun same.attestations nftId, congrFun same.isRegistered nftId,
        by rw [same.allNftIds]⟩

/-- No accepted call registered the agent. -/
def NeverRegistered (nftId : Uint256) (past : List LifeEntry) : Prop :=
  ∀ entry ∈ past, registers (.start entry.input.transaction) ≠ some nftId

/-- All that the registry stores of the agent is what unset storage reads as. -/
structure Blank (state : State) (nftId : Uint256) : Prop where
  identity : state.identities nftId = ⟨"", "", Address.zero, 0#32, 0#64⟩
  record : state.records nftId = ⟨Address.zero, 0#256, "", "", "", Address.zero, .created⟩
  attestation : state.attestations nftId = ⟨.none, Address.zero, 0#256, 0#64⟩
  unlisted : nftId ∉ state.allNftIds

/-- What the agents of a run went through and kept. -/
structure Lifelong (past : List LifeEntry) (now : State) : Prop where
  edges : ∀ entry ∈ past, ∀ nftId,
    (entry.before.records nftId).state ≠ (entry.after.records nftId).state →
      ((entry.before.records nftId).state, (entry.after.records nftId).state) ∈ transitions
  account : ∀ nftId,
    (now.records nftId).tokenBoundAccount = Address.zero ↔ (now.records nftId).state = .created
  accountKept : ∀ entry ∈ past, ∀ nftId,
    (entry.after.records nftId).tokenBoundAccount ≠ Address.zero →
      (now.records nftId).tokenBoundAccount = (entry.after.records nftId).tokenBoundAccount
  identityKept : ∀ entry ∈ past, ∀ nftId,
    registers (.start entry.input.transaction) = some nftId →
      now.identities nftId = entry.after.identities nftId
  blank : ∀ nftId, NeverRegistered nftId past → Blank now nftId

/-- The registered agents are those that a call registered. -/
structure Flagged (past : List LifeEntry) (now : State) : Prop where
  unset : ∀ nftId, now.isRegistered nftId = false → Blank now nftId
  set : ∀ nftId, now.isRegistered nftId = true ↔ ¬ NeverRegistered nftId past

theorem neverRegistered_snoc (nftId : Uint256) (past : List LifeEntry) (last : LifeEntry) :
    NeverRegistered nftId (past ++ [last]) ↔
      NeverRegistered nftId past ∧ registers (.start last.input.transaction) ≠ some nftId := by
  simp only [NeverRegistered, List.mem_append, List.mem_singleton, or_imp, forall_and, forall_eq]

theorem Untouched.blank {before after : State} {nftId : Uint256}
    (same : Untouched before after nftId) (held : Blank before nftId) : Blank after nftId :=
  ⟨same.identity.trans held.identity, same.record.trans held.record,
    same.attestation.trans held.attestation, fun listed => held.unlisted (same.listed.mp listed)⟩

theorem Flagged.step {past : List LifeEntry} {last : LifeEntry}
    (held : Flagged past last.before)
    (agent : ∀ nftId, AgentStep last.before last.after nftId
      (registers (.start last.input.transaction))) :
    Flagged (past ++ [last]) last.after := by
  -- an agent that stays registered, by a call that registers another one or none
  have stays : ∀ nftId, registers (.start last.input.transaction) ≠ some nftId →
      last.after.isRegistered nftId = last.before.isRegistered nftId →
      (last.after.isRegistered nftId = true ↔ ¬ NeverRegistered nftId (past ++ [last])) := by
    intro nftId other flag
    rw [flag, held.set nftId, neverRegistered_snoc]
    simp only [other, ne_eq, not_false_eq_true, and_true]
  constructor
  · intro nftId unset
    cases agent nftId with
    | enrolled own fresh known => rw [known] at unset; cases unset
    | provisioned other known flag => rw [flag, known] at unset; cases unset
    | moved other known flag => rw [flag, known] at unset; cases unset
    | edited other known flag => rw [flag, known] at unset; cases unset
    | untouched other same => exact same.blank (held.unset nftId (same.flag ▸ unset))
  · intro nftId
    cases agent nftId with
    | enrolled own fresh known =>
      refine iff_of_true known ?_
      rw [neverRegistered_snoc]
      exact fun never => never.2 own
    | provisioned other known flag => exact stays nftId other flag
    | moved other known flag => exact stays nftId other flag
    | edited other known flag => exact stays nftId other flag
    | untouched other same => exact stays nftId other same.flag

/-- A call changes an agent's state along the lifecycle only. -/
theorem AgentStep.edge {before after : State} {nftId : Uint256} {registered : Option Uint256}
    (step : AgentStep before after nftId registered)
    (unset : before.isRegistered nftId = false → Blank before nftId)
    (changed : (before.records nftId).state ≠ (after.records nftId).state) :
    ((before.records nftId).state, (after.records nftId).state) ∈ transitions := by
  cases step with
  | enrolled own fresh known created unprovisioned =>
    rw [(unset fresh).record, created] at changed
    exact absurd rfl changed
  | provisioned other known flag identity created state account =>
    rw [created, state]
    decide
  | moved other known flag identity provided edge account => exact edge
  | edited other known flag identity state account => exact absurd state.symm changed
  | untouched other same => exact absurd (by rw [same.record]) changed

/-- No transition leads back to the start. -/
theorem not_created_of_edge {source target : LifecycleState}
    (edge : (source, target) ∈ transitions) : target ≠ .created := by
  have ends : ∀ pair ∈ transitions, pair.2 ≠ .created := by decide
  exact ends _ edge

theorem AgentStep.account {before after : State} {nftId : Uint256} {registered : Option Uint256}
    (step : AgentStep before after nftId registered)
    (held : (before.records nftId).tokenBoundAccount = Address.zero ↔
      (before.records nftId).state = .created) :
    (after.records nftId).tokenBoundAccount = Address.zero ↔
      (after.records nftId).state = .created := by
  cases step with
  | enrolled own fresh known created unprovisioned => exact iff_of_true unprovisioned created
  | provisioned other known flag identity created state account =>
    exact iff_of_false account (by rw [state]; decide)
  | moved other known flag identity provided edge account =>
    rw [account, held]
    exact iff_of_false provided (not_created_of_edge edge)
  | edited other known flag identity state account => rw [account, state, held]
  | untouched other same => rw [same.record, held]

/-- An account that is set stays. -/
theorem AgentStep.accountKept {before after : State} {nftId : Uint256}
    {registered : Option Uint256} (step : AgentStep before after nftId registered)
    (unset : before.isRegistered nftId = false → Blank before nftId)
    (held : (before.records nftId).tokenBoundAccount = Address.zero ↔
      (before.records nftId).state = .created)
    (set : (before.records nftId).tokenBoundAccount ≠ Address.zero) :
    (after.records nftId).tokenBoundAccount = (before.records nftId).tokenBoundAccount := by
  cases step with
  | enrolled own fresh known created unprovisioned =>
    rw [(unset fresh).record] at set
    exact absurd rfl set
  | provisioned other known flag identity created state account =>
    exact absurd (held.mpr created) set
  | moved other known flag identity provided edge account => exact account
  | edited other known flag identity state account => exact account
  | untouched other same => rw [same.record]

theorem AgentStep.identityKept {before after : State} {nftId : Uint256}
    {registered : Option Uint256} (step : AgentStep before after nftId registered)
    (known : before.isRegistered nftId = true) :
    registered ≠ some nftId ∧ after.identities nftId = before.identities nftId := by
  cases step with
  | enrolled own fresh => rw [known] at fresh; cases fresh
  | provisioned other _ flag identity => exact ⟨other, identity⟩
  | moved other _ flag identity => exact ⟨other, identity⟩
  | edited other _ flag identity => exact ⟨other, identity⟩
  | untouched other same => exact ⟨other, same.identity⟩

theorem Lifelong.step {past : List LifeEntry} {last : LifeEntry}
    (held : Lifelong past last.before) (flagged : Flagged past last.before)
    (agent : ∀ nftId, AgentStep last.before last.after nftId
      (registers (.start last.input.transaction))) :
    Lifelong (past ++ [last]) last.after := by
  have next := flagged.step agent
  refine ⟨?_, ?_, ?_, ?_, ?_⟩
  · intro entry member nftId
    rcases List.mem_append.mp member with earlier | final
    · exact held.edges entry earlier nftId
    · rw [List.mem_singleton.mp final]
      exact (agent nftId).edge (flagged.unset nftId)
  · intro nftId
    exact (agent nftId).account (held.account nftId)
  · intro entry member nftId set
    rcases List.mem_append.mp member with earlier | final
    · have before := held.accountKept entry earlier nftId set
      rw [← before] at set ⊢
      exact (agent nftId).accountKept (flagged.unset nftId) (held.account nftId) set
    · rw [List.mem_singleton.mp final]
  · intro entry member nftId registered
    rcases List.mem_append.mp member with earlier | final
    · have known : last.before.isRegistered nftId = true := by
        rw [flagged.set nftId]
        exact fun never => never entry earlier registered
      rw [((agent nftId).identityKept known).2]
      exact held.identityKept entry earlier nftId registered
    · rw [List.mem_singleton.mp final]
  · intro nftId never
    apply next.unset nftId
    cases flag : last.after.isRegistered nftId with
    | false => rfl
    | true => exact absurd never ((next.set nftId).mp flag)

/-- In every run of a deployed registry, every change of an agent's state is a transition of
the lifecycle, which ends with the archive; an agent has an account exactly from its
provisioning on, always the same one; its identity stays as it was registered; and of ids
that were never registered nothing is stored. -/
theorem lifecycle_kept (deployment : Message) (admin : Address)
    (capabilityRegistry : CapabilityRegistry) (calls : List Answered) :
    Lifelong (history (deploy deployment admin capabilityRegistry).1 calls).past
        (history (deploy deployment admin capabilityRegistry).1 calls).now ∧
      ∀ entry ∈ (history (deploy deployment admin capabilityRegistry).1 calls).past, ∀ nftId,
        (entry.before.records nftId).state = .archived →
          (entry.after.records nftId).state = .archived := by
  have both : Flagged (history (deploy deployment admin capabilityRegistry).1 calls).past
        (history (deploy deployment admin capabilityRegistry).1 calls).now ∧
      Lifelong (history (deploy deployment admin capabilityRegistry).1 calls).past
        (history (deploy deployment admin capabilityRegistry).1 calls).now := by
    apply run_induction transact (deploy deployment admin capabilityRegistry).1
      (fun past now => Flagged past now ∧ Lifelong past now)
    · have blank : ∀ nftId, Blank (deploy deployment admin capabilityRegistry).1 nftId :=
        fun nftId => ⟨rfl, rfl, rfl, List.not_mem_nil⟩
      constructor
      · refine ⟨fun nftId _ => blank nftId, fun nftId => iff_of_false Bool.false_ne_true ?_⟩
        intro registered
        apply registered
        intro entry member
        cases member
      · refine ⟨?_, fun nftId => iff_of_true rfl rfl, ?_, ?_, fun nftId _ => blank nftId⟩
        · intro entry member
          cases member
        · intro entry member
          cases member
        · intro entry member
          cases member
    · rintro past now answered after events ⟨flagged, held⟩ accepted
      have agent := fun nftId => transact_agent accepted nftId
      let last : LifeEntry := ⟨now, answered, events, after⟩
      have nextFlagged : Flagged (past ++ [last]) last.after := flagged.step agent
      have nextHeld : Lifelong (past ++ [last]) last.after := held.step flagged agent
      exact ⟨nextFlagged, nextHeld⟩
  refine ⟨both.2, ?_⟩
  intro entry member nftId archived
  by_contra left
  have changed : (entry.before.records nftId).state ≠ (entry.after.records nftId).state := by
    rw [archived]
    exact fun same => left same.symm
  have edge := both.2.edges entry member nftId changed
  have final : ∀ pair ∈ transitions, pair.1 ≠ .archived := by decide
  exact final _ edge archived

end BigX.Registry
