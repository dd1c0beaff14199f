import BigX.Policy.Preflight

set_option autoImplicit false

/- The approval test that both copies of the policy make, and where the approvals it finds
come from. -/
namespace BigX.Policy

open Evm

section Test

variable (keccak256 : List Byte → Bytes32)

/-- The approval test of `checkAction` and `consumeAction`. -/
def ApprovalPasses (nftId : Uint256) (target : Address) (value : Uint256) (data : Calldata)
    (state : State) : Prop :=
  (state.policies nftId).humanApprovalThreshold < value →
    state.humanApprovals nftId (computeActionHash keccak256 nftId target value data state) = true

instance (nftId : Uint256) (target : Address) (value : Uint256) (data : Calldata) (state : State) :
    Decidable (ApprovalPasses keccak256 nftId target value data state) :=
  inferInstanceAs (Decidable (_ → _))

/-- An action that fails the test is not allowed. -/
theorem checkAction_unapproved (message : Message) (nftId : Uint256) (target : Address)
    (value : Uint256) (data : Calldata) (state : State)
    (unapproved : ¬ ApprovalPasses keccak256 nftId target value data state) :
    checkAction keccak256 message nftId target value data state ≠ .ok (true, "") := by
  obtain ⟨above, missing⟩ := Classical.not_imp.mp unapproved
  have failing : (state.policies nftId).humanApprovalThreshold < value ∧
      state.humanApprovals nftId (computeActionHash keccak256 nftId target value data state) =
        false := ⟨above, Bool.of_not_eq_true missing⟩
  rw [checkAction_eq]
  intro allowed
  cases decided : verdict keccak256 message nftId target value data state with
  | allowed =>
    simp only [verdict, failing, and_self, ↓reduceIte] at decided
    repeat' split at decided
    all_goals cases decided
  | refused reason =>
    rw [decided] at allowed
    cases allowed
  | overflow =>
    rw [decided] at allowed
    cases allowed

theorem consumeAction_unapproved (message : Message) (nftId expectedNonce : Uint256)
    (target : Address) (value : Uint256) (data : Calldata) (state : State)
    (unapproved : ¬ ApprovalPasses keccak256 nftId target value data state)
    (result : (State × List Event) × Uint256) :
    consumeAction keccak256 message nftId expectedNonce target value data state ≠ .ok result := by
  obtain ⟨⟨after, events⟩, usedNonce⟩ := result
  intro accepted
  obtain ⟨-, spent, newNonce, step⟩ := consumeAction_ok message nftId expectedNonce target value
    data state after events usedNonce accepted
  exact unapproved step.approved

end Test

variable {keccak256 : List Byte → Bytes32}

/-- The transaction approved `actionHash`. -/
def Approves (nftId : Uint256) (actionHash : Bytes32) (events : List Event) : Prop :=
  ∃ nonce, Event.actionApproved nftId actionHash nonce ∈ events

theorem not_approves_roles (nftId : Uint256) (actionHash : Bytes32)
    (events : List (RoleEvent Role)) : ¬ Approves nftId actionHash (events.map Event.roles) := by
  rintro ⟨nonce, member⟩
  obtain ⟨event, -, same⟩ := List.mem_map.mp member
  cases same

/-- An approval is there when it was there before, or was just given. -/
def Extends (before after : State) (events : List Event) : Prop :=
  ∀ nftId actionHash, after.humanApprovals nftId actionHash = true ↔
    before.humanApprovals nftId actionHash = true ∨ Approves nftId actionHash events

theorem Extends.of_same {before after : State} {events : List Event}
    (same : after.humanApprovals = before.humanApprovals)
    (silent : ∀ nftId actionHash, ¬ Approves nftId actionHash events) :
    Extends before after events := by
  intro nftId actionHash
  rw [same]
  simp only [silent nftId actionHash, or_false]

theorem withRoles_extends (before after : State)
    (attempt : Except Failure (AccessControl Role × List (RoleEvent Role))) (events : List Event)
    (accepted : withRoles before attempt = .ok (after, events)) :
    Extends before after events := by
  simp only [withRoles, bind_eq_ok, pure_eq_ok] at accepted
  obtain ⟨changed, -, same⟩ := accepted
  cases same
  exact .of_same rfl fun nftId actionHash => not_approves_roles nftId actionHash _

theorem approveAction_extends (message : Message) (nftId : Uint256) (actionHash : Bytes32)
    (before after : State) (events : List Event)
    (accepted : approveAction message nftId actionHash before = .ok (after, events)) :
    Extends before after events := by
  simp only [approveAction, bind_eq_ok, onlyRole_eq_ok, pure_eq_ok, exists_and_left,
    exists_const] at accepted
  cases accepted.2
  intro agent other
  by_cases sameAgent : agent = nftId
  · subst sameAgent
    by_cases sameHash : other = actionHash
    · subst sameHash
      simp [Approves]
    · simp [Approves, sameHash]
  · simp [Approves, sameAgent]

/-- Only `approveAction` gives an approval, and nothing takes one away. -/
theorem transact_extends (transaction : Transaction) (before after : State) (output : Output)
    (accepted : transact keccak256 transaction before = .ok (after, output)) :
    Extends before after output.events := by
  obtain ⟨message, call⟩ := transaction
  cases call with
  | setPolicy nftId perTxLimit dailyLimit humanApprovalThreshold =>
    obtain ⟨events, written, rfl⟩ := (quietly_eq_ok _ _ _).mp accepted
    simp only [setPolicy, bind_eq_ok, onlyRole_eq_ok, pure_eq_ok, exists_and_left,
      exists_const] at written
    cases written.2
    exact .of_same rfl (by simp [Approves])
  | setTargetAllowed nftId target allowed =>
    obtain ⟨events, written, rfl⟩ := (quietly_eq_ok _ _ _).mp accepted
    simp only [setTargetAllowed, bind_eq_ok, onlyRole_eq_ok, pure_eq_ok, exists_and_left,
      exists_const] at written
    cases written.2
    exact .of_same rfl (by simp [Approves])
  | approveAction nftId actionHash =>
    obtain ⟨events, written, rfl⟩ := (quietly_eq_ok _ _ _).mp accepted
    exact approveAction_extends message nftId actionHash before after events written
  | consumeAction nftId expectedNonce target value data =>
    have step := transact_step _ before after output accepted
    cases step with
    | consume _ _ _ _ _ events spent newNonce step output_eq =>
      rw [output_eq, step.after_eq]
      exact .of_same rfl (by simp [Approves, step.events_eq])
    | admin _ plain => cases plain
  | grantExecutorRole executor =>
    obtain ⟨events, written, rfl⟩ := (quietly_eq_ok _ _ _).mp accepted
    simp only [grantExecutorRole, grantRole, bind_eq_ok, onlyRole_eq_ok, exists_const] at written
    exact withRoles_extends before after _ events written.2
  | grantHumanApproverRole approver =>
    obtain ⟨events, written, rfl⟩ := (quietly_eq_ok _ _ _).mp accepted
    simp only [grantHumanApproverRole, grantRole, bind_eq_ok, onlyRole_eq_ok, exists_const]
      at written
    exact withRoles_extends before after _ events written.2
  | grantRole role account =>
    obtain ⟨events, written, rfl⟩ := (quietly_eq_ok _ _ _).mp accepted
    exact withRoles_extends before after _ events written
  | revokeRole role account =>
    obtain ⟨events, written, rfl⟩ := (quietly_eq_ok _ _ _).mp accepted
    exact withRoles_extends before after _ events written
  | renounceRole role callerConfirmation =>
    obtain ⟨events, written, rfl⟩ := (quietly_eq_ok _ _ _).mp accepted
    exact withRoles_extends before after _ events written

end BigX.Policy
