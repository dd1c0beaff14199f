import BigX.Bridge.Steps

set_option autoImplicit false

/- What the bridge's events tell somebody who has nothing but the log. A replica is built from
the events alone; every one of them can be checked against it before it is taken in. -/
namespace BigX.Bridge

open Evm Run

/-- A peg-in as the log shows it: the count, and what was paid once it was. -/
structure LoggedPegIn where
  confirmations : Uint256
  paid : Option (Address × Uint256)
  deriving DecidableEq

structure LoggedPegOut where
  requester : Address
  amount : Uint256
  btcAddress : String
  confirmations : Uint256
  executed : Bool
  deriving DecidableEq

structure Replica where
  hasRole : Role → Address → Bool
  paused : Bool
  requiredConfirmations : Uint256
  relayerCount : Uint256
  pegIns : Bytes32 → LoggedPegIn
  pegInConfirmedBy : Bytes32 → Address → Bool
  pegOuts : Uint256 → LoggedPegOut
  pegOutConfirmedBy : Uint256 → Address → Bool
  nextPegOutId : Uint256

def PegInRequest.logged (request : PegInRequest) : LoggedPegIn :=
  ⟨request.confirmations,
    if request.executed then some (request.recipient, request.amount) else none⟩

def PegOutRequest.logged (request : PegOutRequest) : LoggedPegOut :=
  ⟨request.requester, request.amount, request.btcAddress, request.confirmations, request.executed⟩

variable {token : Erc20}

/-- What of the storage the log tells. The limits, the times and the ledger are not in it. -/
def State.view (state : State token) : Replica where
  hasRole := state.roles.hasRole
  paused := state.paused
  requiredConfirmations := state.requiredConfirmations
  relayerCount := state.relayerCount
  pegIns := PegInRequest.logged ∘ state.pegInRequests
  pegInConfirmedBy := state.pegInConfirmedBy
  pegOuts := PegOutRequest.logged ∘ state.pegOutRequests
  pegOutConfirmedBy := state.pegOutConfirmedBy
  nextPegOutId := state.nextPegOutId

/-- The replica of a contract without any events yet. The constructor logs no threshold. -/
def Replica.blank (threshold : Uint256) : Replica where
  hasRole := fun _ _ => false
  paused := false
  requiredConfirmations := threshold
  relayerCount := 0#256
  pegIns := fun _ => ⟨0#256, none⟩
  pegInConfirmedBy := fun _ _ => false
  pegOuts := fun _ => ⟨Address.zero, 0#256, "", 0#256, false⟩
  pegOutConfirmedBy := fun _ _ => false
  nextPegOutId := 0#256

def Event.apply (event : Event) (replica : Replica) : Replica :=
  match event with
  | .pegInConfirmed btcTxHash relayer confirmations =>
      { replica with
        pegIns := Function.update replica.pegIns btcTxHash
          { replica.pegIns btcTxHash with confirmations := confirmations }
        pegInConfirmedBy := Function.update replica.pegInConfirmedBy btcTxHash
          (Function.update (replica.pegInConfirmedBy btcTxHash) relayer true) }
  | .pegInExecuted btcTxHash recipient amount =>
      { replica with
        pegIns := Function.update replica.pegIns btcTxHash
          { replica.pegIns btcTxHash with paid := some (recipient, amount) } }
  | .pegOutRequested id requester amount btcAddress =>
      { replica with
        pegOuts := Function.update replica.pegOuts id
          ⟨requester, amount, btcAddress, 0#256, false⟩
        nextPegOutId := id + 1#256 }
  | .pegOutConfirmed id relayer confirmations =>
      { replica with
        pegOuts := Function.update replica.pegOuts id
          { replica.pegOuts id with confirmations := confirmations }
        pegOutConfirmedBy := Function.update replica.pegOutConfirmedBy id
          (Function.update (replica.pegOutConfirmedBy id) relayer true) }
  | .pegOutExecuted id =>
      { replica with
        pegOuts := Function.update replica.pegOuts id { replica.pegOuts id with executed := true } }
  | .relayerAdded _ => { replica with relayerCount := replica.relayerCount + 1#256 }
  | .relayerRemoved _ => { replica with relayerCount := replica.relayerCount - 1#256 }
  | .thresholdUpdated newThreshold => { replica with requiredConfirmations := newThreshold }
  | .roles event => { replica with hasRole := event.apply replica.hasRole }
  | .paused _ => { replica with paused := true }
  | .unpaused _ => { replica with paused := false }

/-- Which event may come next, as far as the log tells. -/
def Event.Allowed (event : Event) (replica : Replica) : Prop :=
  match event with
  | .pegInConfirmed btcTxHash relayer confirmations =>
      replica.hasRole .relayer relayer = true ∧ replica.paused = false ∧
        (replica.pegIns btcTxHash).paid = none ∧
        replica.pegInConfirmedBy btcTxHash relayer = false ∧
        confirmations.toNat = (replica.pegIns btcTxHash).confirmations.toNat + 1
  | .pegInExecuted btcTxHash _ _ =>
      (replica.pegIns btcTxHash).paid = none ∧
        replica.requiredConfirmations ≤ (replica.pegIns btcTxHash).confirmations
  | .pegOutRequested id _ _ _ =>
      replica.paused = false ∧ id = replica.nextPegOutId ∧ id.toNat + 1 < 2 ^ 256
  | .pegOutConfirmed id relayer confirmations =>
      replica.hasRole .relayer relayer = true ∧ replica.paused = false ∧
        (replica.pegOuts id).executed = false ∧
        replica.pegOutConfirmedBy id relayer = false ∧
        confirmations.toNat = (replica.pegOuts id).confirmations.toNat + 1
  | .pegOutExecuted id =>
      (replica.pegOuts id).executed = false ∧
        replica.requiredConfirmations ≤ (replica.pegOuts id).confirmations
  | .relayerAdded relayer =>
      replica.hasRole .relayer relayer = true ∧ replica.relayerCount.toNat + 1 < 2 ^ 256
  | .relayerRemoved relayer =>
      replica.hasRole .relayer relayer = false ∧ 0 < replica.relayerCount.toNat ∧
        replica.requiredConfirmations ≤ replica.relayerCount - 1#256
  | .thresholdUpdated newThreshold =>
      newThreshold ≠ 0#256 ∧ newThreshold ≤ replica.relayerCount
  | .roles event => event.Allowed .defaultAdmin replica.hasRole
  | .paused account => replica.hasRole .guardian account = true ∧ replica.paused = false
  | .unpaused account => replica.hasRole .defaultAdmin account = true ∧ replica.paused = true

instance : (event : Event) → (replica : Replica) → Decidable (event.Allowed replica)
  | .pegInConfirmed .., _ => inferInstanceAs (Decidable (_ ∧ _ ∧ _ ∧ _ ∧ _))
  | .pegInExecuted .., _ => inferInstanceAs (Decidable (_ ∧ _))
  | .pegOutRequested .., _ => inferInstanceAs (Decidable (_ ∧ _ ∧ _))
  | .pegOutConfirmed .., _ => inferInstanceAs (Decidable (_ ∧ _ ∧ _ ∧ _ ∧ _))
  | .pegOutExecuted .., _ => inferInstanceAs (Decidable (_ ∧ _))
  | .relayerAdded .., _ => inferInstanceAs (Decidable (_ ∧ _))
  | .relayerRemoved .., _ => inferInstanceAs (Decidable (_ ∧ _ ∧ _))
  | .thresholdUpdated .., _ => inferInstanceAs (Decidable (_ ∧ _))
  | .roles event, replica =>
      inferInstanceAs (Decidable (event.Allowed .defaultAdmin replica.hasRole))
  | .paused .., _ => inferInstanceAs (Decidable (_ ∧ _))
  | .unpaused .., _ => inferInstanceAs (Decidable (_ ∧ _))

def Event.read : Event → Replica → Option Replica :=
  checked Event.Allowed Event.apply

theorem Event.read_of {event : Event} {replica : Replica} (may : event.Allowed replica) :
    event.read replica = some (event.apply replica) :=
  checked_of Event.Allowed Event.apply may

/-- A single event that may come next. -/
theorem replay_one {event : Event} {replica : Replica} (may : event.Allowed replica) :
    replay Event.read [event] replica = some (event.apply replica) :=
  replay_cons_of Event.read (Event.read_of may)

section Calls

variable {bridge : Address} {message : Message} {before after : State token}
  {events : List Event}

theorem PegInStep.told {btcTxHash : Bytes32} {recipient : Address} {amount : Uint256}
    {confirmations : Uint256} {executed : Bool} {ledger : token.Ledger}
    (step : PegInStep bridge message btcTxHash recipient amount before after events confirmations
      executed ledger) :
    replay Event.read events before.view = some after.view := by
  have unpaid : (before.view.pegIns btcTxHash).paid = none := by
    simp [State.view, PegInRequest.logged, step.pending]
  have may : (Event.pegInConfirmed btcTxHash message.sender confirmations).Allowed before.view :=
    ⟨step.relayer, step.running, unpaid, step.fresh, step.counted⟩
  rw [step.events_eq, replay_cons_of Event.read (Event.read_of may), step.after_eq]
  have decided := step.decided
  cases executed with
  | false =>
    simp only [Bool.false_eq_true, ↓reduceIte, replay_nil, Event.apply, unpaid]
    simp only [State.view, PegInRequest.logged, Function.comp_update, Bool.false_eq_true,
      ↓reduceIte]
  | true =>
    have reached : before.requiredConfirmations ≤ confirmations := of_decide_eq_true decided.symm
    simp only [↓reduceIte]
    rw [replay_one]
    · simp only [Event.apply, State.view, PegInRequest.logged, Function.comp_update,
        Function.update_self, Function.update_idem, ↓reduceIte]
    · simp only [Event.Allowed, Event.apply, Function.update_self]
      exact ⟨unpaid, reached⟩

theorem RequestStep.told {amount : Uint256} {btcAddress : String} {nextPegOutId : Uint256}
    {ledger : token.Ledger}
    (step : RequestStep bridge message amount btcAddress before after events nextPegOutId ledger) :
    replay Event.read events before.view = some after.view := by
  have room : before.nextPegOutId.toNat + 1 < 2 ^ 256 := by
    rw [← step.advanced]
    exact nextPegOutId.isLt
  have next : before.nextPegOutId + 1#256 = nextPegOutId := by
    apply BitVec.eq_of_toNat_eq
    rw [step.advanced, BitVec.toNat_add]
    exact Nat.mod_eq_of_lt room
  have may : (Event.pegOutRequested before.nextPegOutId message.sender amount btcAddress).Allowed
      before.view := ⟨step.running, rfl, room⟩
  rw [step.events_eq, step.after_eq, replay_one may]
  simp only [Event.apply, State.view, PegOutRequest.logged, Function.comp_update, next]

theorem PegOutStep.told {id confirmations : Uint256} {executed : Bool}
    {withdrawn resetDay : Uint256}
    (step : PegOutStep message id before after events confirmations executed withdrawn resetDay) :
    replay Event.read events before.view = some after.view := by
  have pending : (before.view.pegOuts id).executed = false := step.pending
  have may : (Event.pegOutConfirmed id message.sender confirmations).Allowed before.view :=
    ⟨step.relayer, step.running, pending, step.fresh, step.counted⟩
  rw [step.events_eq, replay_cons_of Event.read (Event.read_of may), step.after_eq]
  have decided := step.decided
  cases executed with
  | false =>
    simp only [Bool.false_eq_true, ↓reduceIte, replay_nil, Event.apply]
    simp only [State.view, PegOutRequest.logged, Function.comp_update, Function.comp_apply,
      step.pending]
  | true =>
    have reached : before.requiredConfirmations ≤ confirmations := of_decide_eq_true decided.symm
    simp only [↓reduceIte]
    rw [replay_one]
    · simp only [Event.apply, State.view, PegOutRequest.logged, Function.comp_update,
        Function.comp_apply, Function.update_self, Function.update_idem]
    · simp only [Event.Allowed, Event.apply, Function.update_self]
      exact ⟨pending, reached⟩

/-- The role events among the others. -/
theorem replay_roles (roleEvents : List (RoleEvent Role)) (replica : Replica)
    (held : Role → Address → Bool)
    (told : replay (checked (RoleEvent.Allowed .defaultAdmin) RoleEvent.apply) roleEvents
      replica.hasRole = some held) :
    replay Event.read (roleEvents.map Event.roles) replica =
      some { replica with hasRole := held } := by
  have within := replay_map Event.read (checked (RoleEvent.Allowed .defaultAdmin) RoleEvent.apply)
    Event.roles (fun held => { replica with hasRole := held })
  rw [within _ roleEvents replica.hasRole, told]
  · rfl
  · intro event part
    exact checked_map Event.Allowed Event.apply (RoleEvent.Allowed .defaultAdmin) RoleEvent.apply
      Event.roles (fun held => { replica with hasRole := held }) event part Iff.rfl rfl

theorem addRelayer_told (relayer : Address)
    (accepted : addRelayer message relayer before = .ok (after, events)) :
    replay Event.read events before.view = some after.view := by
  obtain ⟨admin, relayerCount, counted, rfl, rfl⟩ :=
    addRelayer_ok message relayer before after events accepted
  have told := before.roles.grant_replay .defaultAdmin .relayer relayer message.sender admin
  rw [replay_append_of Event.read (replay_roles _ before.view _ told), replay_one]
  · have next : before.relayerCount + 1#256 = relayerCount := by
      apply BitVec.eq_of_toNat_eq
      rw [counted, BitVec.toNat_add]
      exact Nat.mod_eq_of_lt (counted ▸ relayerCount.isLt)
    simp only [Event.apply, State.view, next]
  · refine ⟨?_, counted ▸ relayerCount.isLt⟩
    simp

theorem removeRelayer_told (relayer : Address)
    (accepted : removeRelayer message relayer before = .ok (after, events)) :
    replay Event.read events before.view = some after.view := by
  obtain ⟨admin, relayerCount, counted, within, rfl, rfl⟩ :=
    removeRelayer_ok message relayer before after events accepted
  have told := before.roles.revoke_replay .defaultAdmin .relayer relayer message.sender
    (Or.inl admin)
  have next : before.relayerCount - 1#256 = relayerCount := by
    apply BitVec.eq_of_toNat_eq
    have bound := before.relayerCount.isLt
    rw [BitVec.toNat_sub, BitVec.toNat_ofNat]
    omega
  rw [replay_append_of Event.read (replay_roles _ before.view _ told), replay_one]
  · simp only [Event.apply, State.view, next]
  · refine ⟨by simp, ?_, ?_⟩
    · simp only [State.view]
      omega
    · simp only [State.view, next]
      exact within

theorem withRoles_told
    (attempt : Except (Revert Role Error) (AccessControl Role × List (RoleEvent Role)))
    (told : ∀ changed, attempt = .ok changed →
      replay (checked (RoleEvent.Allowed .defaultAdmin) RoleEvent.apply) changed.2
        before.roles.hasRole = some changed.1.hasRole)
    (accepted : withRoles before attempt = .ok (after, events)) :
    replay Event.read events before.view = some after.view := by
  obtain ⟨changed, returned, rfl, rfl⟩ := withRoles_ok before after attempt events accepted
  exact replay_roles changed.2 before.view _ (told changed returned)

/-- The events of every accepted transaction may come next, and tell what it did. -/
theorem transact_told (transaction : Transaction bridge)
    (accepted : transact bridge transaction before = .ok (after, events)) :
    replay Event.read events before.view = some after.view := by
  obtain ⟨message, call, outside⟩ := transaction
  cases call with
  | confirmPegIn btcTxHash recipient amount =>
    obtain ⟨confirmations, executed, ledger, step⟩ :=
      confirmPegIn_ok bridge message btcTxHash recipient amount before after events accepted
    exact step.told
  | requestPegOut amount btcAddress =>
    simp only [transact] at accepted
    cases attempt : requestPegOut bridge message amount btcAddress before with
    | error reason =>
      rw [attempt] at accepted
      cases accepted
    | ok result =>
      obtain ⟨⟨written, emitted⟩, id⟩ := result
      rw [attempt] at accepted
      cases Except.ok.inj accepted
      obtain ⟨-, nextPegOutId, ledger, step⟩ :=
        requestPegOut_ok bridge message amount btcAddress before after events id attempt
      exact step.told
  | confirmPegOut id =>
    obtain ⟨confirmations, executed, withdrawn, resetDay, step⟩ :=
      confirmPegOut_ok message id before after events accepted
    exact step.told
  | addRelayer relayer => exact addRelayer_told relayer accepted
  | removeRelayer relayer => exact removeRelayer_told relayer accepted
  | setThreshold newThreshold =>
    obtain ⟨positive, within, rfl, rfl⟩ :=
      setThreshold_ok message newThreshold before after events accepted
    exact replay_one ⟨positive, within⟩
  | setLimits newPerTxLimit newDailyLimit =>
    obtain ⟨rfl, rfl⟩ :=
      setLimits_ok message newPerTxLimit newDailyLimit before after events accepted
    rfl
  | pause =>
    simp only [transact, pause, bind_eq_ok, onlyRole_eq_ok, whenNotPaused_eq_ok, pure_eq_ok,
      exists_and_left, exists_const] at accepted
    obtain ⟨guardian, running, same⟩ := accepted
    cases same
    exact replay_one ⟨guardian, running⟩
  | unpause =>
    simp only [transact, unpause, bind_eq_ok, onlyRole_eq_ok, whenPaused_eq_ok, pure_eq_ok,
      exists_and_left, exists_const] at accepted
    obtain ⟨admin, stopped, same⟩ := accepted
    cases same
    exact replay_one ⟨admin, stopped⟩
  | grantRole role account =>
    apply withRoles_told _ _ accepted
    intro changed returned
    exact before.roles.grantRole_replay .defaultAdmin message role account changed returned
  | revokeRole role account =>
    apply withRoles_told _ _ accepted
    intro changed returned
    exact before.roles.revokeRole_replay .defaultAdmin message role account changed returned
  | renounceRole role callerConfirmation =>
    apply withRoles_told _ _ accepted
    intro changed returned
    exact before.roles.renounceRole_replay .defaultAdmin message role callerConfirmation changed
      returned
  | wrappedBtc call =>
    simp only [transact] at accepted
    split at accepted
    · cases accepted
      rfl
    · cases accepted

end Calls

/-- Take in a log unchecked. The constructor's grants are nobody's to allow. -/
def taken (log : List Event) (replica : Replica) : Replica :=
  log.foldl (fun known event => event.apply known) replica

theorem taken_append (first second : List Event) (replica : Replica) :
    taken (first ++ second) replica = taken second (taken first replica) :=
  List.foldl_append

theorem taken_grant (access : AccessControl Role) (role : Role) (account sender : Address)
    (replica : Replica) (known : replica.hasRole = access.hasRole) :
    taken ((access.grant role account sender).2.map .roles) replica =
      { replica with hasRole := (access.grant role account sender).1.hasRole } := by
  rw [← access.grant_told role account sender, ← known]
  unfold taken AccessControl.grant
  rw [List.foldl_map]
  split <;> rfl

theorem taken_initialRelayers (sender : Address) (roles : AccessControl Role)
    (initialRelayers : List Address) (replica : Replica) (known : replica.hasRole = roles.hasRole) :
    taken (grantInitialRelayers sender roles initialRelayers).2 replica =
      { replica with
        hasRole := (grantInitialRelayers sender roles initialRelayers).1.hasRole
        relayerCount := replica.relayerCount + BitVec.ofNat 256 initialRelayers.length } := by
  induction initialRelayers generalizing roles replica with
  | nil =>
    simp only [grantInitialRelayers, taken, List.foldl_nil, List.length_nil, BitVec.add_zero,
      ← known]
  | cons relayer rest ih =>
    have counted : replica.relayerCount + 1#256 + BitVec.ofNat 256 rest.length =
        replica.relayerCount + BitVec.ofNat 256 (rest.length + 1) := by
      rw [BitVec.add_assoc, BitVec.ofNat_add, BitVec.add_comm 1#256]
    unfold grantInitialRelayers
    rw [taken_append, taken_grant roles .relayer relayer sender replica known]
    change taken _ (Event.apply (.relayerAdded relayer) _) = _
    rw [ih (roles.grant .relayer relayer sender).1 _ rfl]
    simp only [Event.apply, List.length_cons, counted]

/-- The constructor's events tell what it leaves, but for the threshold. -/
theorem deploy_told (message : Message) (wrappedBtc : token.Ledger) (admin : Address)
    (initialRelayers : List Address) (threshold : Uint256) (start : State token)
    (events : List Event)
    (accepted : deploy message wrappedBtc admin initialRelayers threshold = .ok (start, events)) :
    taken events (.blank threshold) = start.view := by
  simp only [deploy, bind_eq_ok, require_eq_ok, pure_eq_ok, exists_const] at accepted
  cases accepted.2
  rw [List.map_append, taken_append, taken_append, taken_grant _ _ _ _ _ rfl,
    taken_grant _ _ _ _ _ rfl, taken_initialRelayers _ _ _ _ rfl]
  simp only [Replica.blank, State.view, BitVec.zero_add]
  rfl

end BigX.Bridge
