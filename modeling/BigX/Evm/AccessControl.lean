import BigX.Evm.Word
import BigX.Run.EventLog
import Mathlib.Logic.Function.Basic

set_option autoImplicit false

/- Role-based access control, the pause switch and the reentrancy lock, as the
OpenZeppelin contracts implement them. The admin of every role is `defaultAdmin`,
since no contract here calls `_setRoleAdmin`. At the end, what the role events alone tell. -/
namespace BigX.Evm

variable {Role E : Type} [DecidableEq Role]

/-- `mapping(bytes32 => RoleData)`, read as who holds which role. -/
structure AccessControl (Role : Type) where
  hasRole : Role → Address → Bool

inductive RoleEvent (Role : Type)
  | roleGranted (role : Role) (account sender : Address)
  | roleRevoked (role : Role) (account sender : Address)
  deriving DecidableEq

omit [DecidableEq Role] in
def AccessControl.empty : AccessControl Role := ⟨fun _ _ => false⟩

/-- `_grantRole`: silent when the account already holds the role. -/
def AccessControl.grant (access : AccessControl Role) (role : Role)
    (account sender : Address) : AccessControl Role × List (RoleEvent Role) :=
  if access.hasRole role account then (access, [])
  else (⟨Function.update access.hasRole role
      (Function.update (access.hasRole role) account true)⟩,
    [.roleGranted role account sender])

/-- `_revokeRole`: silent when the account does not hold the role. -/
def AccessControl.revoke (access : AccessControl Role) (role : Role)
    (account sender : Address) : AccessControl Role × List (RoleEvent Role) :=
  if access.hasRole role account then
    (⟨Function.update access.hasRole role
        (Function.update (access.hasRole role) account false)⟩,
      [.roleRevoked role account sender])
  else (access, [])

/-- `onlyRole(role)` -/
def onlyRole (access : AccessControl Role) (role : Role) (message : Message) :
    Except (Revert Role E) Unit :=
  require (access.hasRole role message.sender = true)
    (.accessControlUnauthorizedAccount message.sender role)

/-- `grantRole`, open to holders of the role's admin role. -/
def AccessControl.grantRole (defaultAdmin : Role) (message : Message) (role : Role)
    (account : Address) (access : AccessControl Role) :
    Except (Revert Role E) (AccessControl Role × List (RoleEvent Role)) := do
  onlyRole access defaultAdmin message
  pure (access.grant role account message.sender)

def AccessControl.revokeRole (defaultAdmin : Role) (message : Message) (role : Role)
    (account : Address) (access : AccessControl Role) :
    Except (Revert Role E) (AccessControl Role × List (RoleEvent Role)) := do
  onlyRole access defaultAdmin message
  pure (access.revoke role account message.sender)

/-- `renounceRole`, open to everyone for their own roles. -/
def AccessControl.renounceRole (message : Message) (role : Role)
    (callerConfirmation : Address) (access : AccessControl Role) :
    Except (Revert Role E) (AccessControl Role × List (RoleEvent Role)) := do
  require (callerConfirmation = message.sender) .accessControlBadConfirmation
  pure (access.revoke role callerConfirmation message.sender)

/-- `whenNotPaused` -/
def whenNotPaused (paused : Bool) : Except (Revert Role E) Unit :=
  require (paused = false) .enforcedPause

/-- `whenPaused` -/
def whenPaused (paused : Bool) : Except (Revert Role E) Unit :=
  require (paused = true) .expectedPause

/-- `_nonReentrantBefore`, without the write. -/
def nonReentrant (entered : Bool) : Except (Revert Role E) Unit :=
  require (entered = false) .reentrancyGuardReentrantCall

omit [DecidableEq Role] in
@[simp] theorem onlyRole_eq_ok (access : AccessControl Role) (role : Role)
    (message : Message) (result : Unit) :
    (onlyRole access role message : Except (Revert Role E) Unit) = .ok result ↔
      access.hasRole role message.sender = true := by
  simp only [onlyRole, require_eq_ok]

omit [DecidableEq Role] in
@[simp] theorem whenNotPaused_eq_ok (paused : Bool) (result : Unit) :
    (whenNotPaused paused : Except (Revert Role E) Unit) = .ok result ↔ paused = false := by
  simp only [whenNotPaused, require_eq_ok]

omit [DecidableEq Role] in
@[simp] theorem whenPaused_eq_ok (paused : Bool) (result : Unit) :
    (whenPaused paused : Except (Revert Role E) Unit) = .ok result ↔ paused = true := by
  simp only [whenPaused, require_eq_ok]

omit [DecidableEq Role] in
@[simp] theorem nonReentrant_eq_ok (entered : Bool) (result : Unit) :
    (nonReentrant entered : Except (Revert Role E) Unit) = .ok result ↔ entered = false := by
  simp only [nonReentrant, require_eq_ok]

/-- Granting marks the account, whether or not it was marked before. -/
@[simp] theorem AccessControl.grant_hasRole (access : AccessControl Role) (role : Role)
    (account sender : Address) :
    (access.grant role account sender).1.hasRole =
      Function.update access.hasRole role
        (Function.update (access.hasRole role) account true) := by
  unfold AccessControl.grant
  split
  · rename_i held
    rw [← held, Function.update_eq_self, Function.update_eq_self]
  · rfl

@[simp] theorem AccessControl.revoke_hasRole (access : AccessControl Role) (role : Role)
    (account sender : Address) :
    (access.revoke role account sender).1.hasRole =
      Function.update access.hasRole role
        (Function.update (access.hasRole role) account false) := by
  unfold AccessControl.revoke
  split
  · rfl
  · rename_i missing
    have absent : access.hasRole role account = false := by simpa using missing
    rw [← absent, Function.update_eq_self, Function.update_eq_self]

theorem AccessControl.grantRole_eq_ok (defaultAdmin : Role) (message : Message) (role : Role)
    (account : Address) (access : AccessControl Role)
    (result : AccessControl Role × List (RoleEvent Role)) :
    (access.grantRole defaultAdmin message role account :
        Except (Revert Role E) _) = .ok result ↔
      access.hasRole defaultAdmin message.sender = true ∧
        access.grant role account message.sender = result := by
  simp only [AccessControl.grantRole, bind_eq_ok, onlyRole_eq_ok, pure_eq_ok, exists_and_left,
    exists_const]

theorem AccessControl.revokeRole_eq_ok (defaultAdmin : Role) (message : Message) (role : Role)
    (account : Address) (access : AccessControl Role)
    (result : AccessControl Role × List (RoleEvent Role)) :
    (access.revokeRole defaultAdmin message role account :
        Except (Revert Role E) _) = .ok result ↔
      access.hasRole defaultAdmin message.sender = true ∧
        access.revoke role account message.sender = result := by
  simp only [AccessControl.revokeRole, bind_eq_ok, onlyRole_eq_ok, pure_eq_ok, exists_and_left,
    exists_const]

theorem AccessControl.renounceRole_eq_ok (message : Message) (role : Role)
    (callerConfirmation : Address) (access : AccessControl Role)
    (result : AccessControl Role × List (RoleEvent Role)) :
    (access.renounceRole message role callerConfirmation :
        Except (Revert Role E) _) = .ok result ↔
      callerConfirmation = message.sender ∧
        access.revoke role callerConfirmation message.sender = result := by
  simp only [AccessControl.renounceRole, bind_eq_ok, require_eq_ok, pure_eq_ok, exists_and_left,
    exists_const]

section Events

open Run

def RoleEvent.apply (event : RoleEvent Role) (held : Role → Address → Bool) :
    Role → Address → Bool :=
  match event with
  | .roleGranted role account _ =>
      Function.update held role (Function.update (held role) account true)
  | .roleRevoked role account _ =>
      Function.update held role (Function.update (held role) account false)

/-- Roles change hands only by an admin, or by who gives up their own. -/
def RoleEvent.Allowed (defaultAdmin : Role) (event : RoleEvent Role)
    (held : Role → Address → Bool) : Prop :=
  match event with
  | .roleGranted role account sender =>
      held role account = false ∧ held defaultAdmin sender = true
  | .roleRevoked role account sender =>
      held role account = true ∧ (held defaultAdmin sender = true ∨ account = sender)

omit [DecidableEq Role] in
instance (defaultAdmin : Role) (event : RoleEvent Role) (held : Role → Address → Bool) :
    Decidable (event.Allowed defaultAdmin held) :=
  match event with
  | .roleGranted role account sender =>
      inferInstanceAs (Decidable (held role account = false ∧ held defaultAdmin sender = true))
  | .roleRevoked role account sender =>
      inferInstanceAs (Decidable (held role account = true ∧
        (held defaultAdmin sender = true ∨ account = sender)))

/-- The events of a grant tell the roles after it, whoever sent it. -/
theorem AccessControl.grant_told (access : AccessControl Role) (role : Role)
    (account sender : Address) :
    (access.grant role account sender).2.foldl (fun held event => event.apply held)
      access.hasRole = (access.grant role account sender).1.hasRole := by
  unfold AccessControl.grant
  split <;> rfl

theorem AccessControl.grant_replay (defaultAdmin : Role) (access : AccessControl Role)
    (role : Role) (account sender : Address) (admin : access.hasRole defaultAdmin sender = true) :
    replay (checked (RoleEvent.Allowed defaultAdmin) RoleEvent.apply)
        (access.grant role account sender).2 access.hasRole =
      some (access.grant role account sender).1.hasRole := by
  unfold AccessControl.grant
  split
  · rfl
  · rename_i missing
    have absent : access.hasRole role account = false := by simpa using missing
    have may : RoleEvent.Allowed defaultAdmin (.roleGranted role account sender) access.hasRole :=
      ⟨absent, admin⟩
    rw [replay_cons_of _ (checked_of _ _ may)]
    rfl

theorem AccessControl.revoke_replay (defaultAdmin : Role) (access : AccessControl Role)
    (role : Role) (account sender : Address)
    (could : access.hasRole defaultAdmin sender = true ∨ account = sender) :
    replay (checked (RoleEvent.Allowed defaultAdmin) RoleEvent.apply)
        (access.revoke role account sender).2 access.hasRole =
      some (access.revoke role account sender).1.hasRole := by
  unfold AccessControl.revoke
  split
  · rename_i held
    have may : RoleEvent.Allowed defaultAdmin (.roleRevoked role account sender) access.hasRole :=
      ⟨held, could⟩
    rw [replay_cons_of _ (checked_of _ _ may)]
    rfl
  · rfl

/-- The external role functions tell what they did. -/
theorem AccessControl.grantRole_replay {E : Type} (defaultAdmin : Role) (message : Message)
    (role : Role) (account : Address) (access : AccessControl Role)
    (changed : AccessControl Role × List (RoleEvent Role))
    (accepted : (access.grantRole defaultAdmin message role account : Except (Revert Role E) _) =
      .ok changed) :
    replay (checked (RoleEvent.Allowed defaultAdmin) RoleEvent.apply) changed.2 access.hasRole =
      some changed.1.hasRole := by
  obtain ⟨admin, rfl⟩ :=
    (access.grantRole_eq_ok defaultAdmin message role account changed).mp accepted
  exact access.grant_replay defaultAdmin role account message.sender admin

theorem AccessControl.revokeRole_replay {E : Type} (defaultAdmin : Role) (message : Message)
    (role : Role) (account : Address) (access : AccessControl Role)
    (changed : AccessControl Role × List (RoleEvent Role))
    (accepted : (access.revokeRole defaultAdmin message role account : Except (Revert Role E) _) =
      .ok changed) :
    replay (checked (RoleEvent.Allowed defaultAdmin) RoleEvent.apply) changed.2 access.hasRole =
      some changed.1.hasRole := by
  obtain ⟨admin, rfl⟩ :=
    (access.revokeRole_eq_ok defaultAdmin message role account changed).mp accepted
  exact access.revoke_replay defaultAdmin role account message.sender (Or.inl admin)

theorem AccessControl.renounceRole_replay {E : Type} (defaultAdmin : Role) (message : Message)
    (role : Role) (callerConfirmation : Address) (access : AccessControl Role)
    (changed : AccessControl Role × List (RoleEvent Role))
    (accepted : (access.renounceRole message role callerConfirmation :
      Except (Revert Role E) _) = .ok changed) :
    replay (checked (RoleEvent.Allowed defaultAdmin) RoleEvent.apply) changed.2 access.hasRole =
      some changed.1.hasRole := by
  obtain ⟨own, rfl⟩ :=
    (access.renounceRole_eq_ok message role callerConfirmation changed).mp accepted
  exact access.revoke_replay defaultAdmin role callerConfirmation message.sender (Or.inr own)

end Events

end BigX.Evm
