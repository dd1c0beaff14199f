import BigX.Bridge.Contract
import BigX.Run.DailyMeter

set_option autoImplicit false

/- What each accepted call of the bridge found and what it wrote. Everything proved
about runs of the bridge starts from these lemmas; none of it unfolds the functions. -/
namespace BigX.Bridge

open Evm

variable {token : Erc20}

@[simp] theorem describe_confirmations (stored : PegInRequest) (recipient : Address)
    (amount : Uint256) : (stored.describe recipient amount).confirmations = stored.confirmations := by
  unfold PegInRequest.describe
  split <;> rfl

@[simp] theorem describe_executed (stored : PegInRequest) (recipient : Address)
    (amount : Uint256) : (stored.describe recipient amount).executed = stored.executed := by
  unfold PegInRequest.describe
  split <;> rfl

theorem requireTransfer_eq_ok (attempt : Except TransferFailure token.Ledger)
    (ledger : token.Ledger) :
    requireTransfer attempt = .ok ledger ↔ attempt = .ok ledger := by
  cases attempt with
  | ok result => simp [requireTransfer]
  | error failure => cases failure <;> simp [requireTransfer]

/-- An accepted `confirmPegIn`. It pays exactly when the new count reaches the
threshold in force, and it pays what the request describes. -/
structure PegInStep (bridge : Address) (message : Message) (btcTxHash : Bytes32)
    (recipient : Address) (amount : Uint256) (before after : State token)
    (events : List Event) (confirmations : Uint256) (executed : Bool)
    (ledger : token.Ledger) : Prop where
  relayer : before.roles.hasRole .relayer message.sender = true
  running : before.paused = false
  outside : before.entered = false
  pending : (before.pegInRequests btcTxHash).executed = false
  fresh : before.pegInConfirmedBy btcTxHash message.sender = false
  counted : confirmations.toNat = (before.pegInRequests btcTxHash).confirmations.toNat + 1
  decided : executed = decide (before.requiredConfirmations ≤ confirmations)
  paid : if executed then
      token.transfer bridge ((before.pegInRequests btcTxHash).describe recipient amount).recipient
        ((before.pegInRequests btcTxHash).describe recipient amount).amount before.wrappedBtc =
          .ok ledger
    else ledger = before.wrappedBtc
  after_eq : after = { before with
    entered := false
    pegInRequests := Function.update before.pegInRequests btcTxHash
      { (before.pegInRequests btcTxHash).describe recipient amount with
        confirmations := confirmations, executed := executed }
    pegInConfirmedBy := Function.update before.pegInConfirmedBy btcTxHash
      (Function.update (before.pegInConfirmedBy btcTxHash) message.sender true)
    wrappedBtc := ledger }
  events_eq : events = .pegInConfirmed btcTxHash message.sender confirmations ::
    if executed then
      [.pegInExecuted btcTxHash ((before.pegInRequests btcTxHash).describe recipient amount).recipient
        ((before.pegInRequests btcTxHash).describe recipient amount).amount]
    else []

theorem confirmPegIn_ok (bridge : Address) (message : Message) (btcTxHash : Bytes32)
    (recipient : Address) (amount : Uint256) (before after : State token) (events : List Event)
    (accepted : confirmPegIn bridge message btcTxHash recipient amount before =
      .ok (after, events)) :
    ∃ confirmations executed ledger, PegInStep bridge message btcTxHash recipient amount
      before after events confirmations executed ledger := by
  simp only [confirmPegIn, bind_eq_ok, onlyRole_eq_ok, whenNotPaused_eq_ok, nonReentrant_eq_ok,
    require_eq_ok, checkedAdd_eq_ok, describe_confirmations, exists_and_left, exists_const] at accepted
  obtain ⟨relayer, running, outside, pending, fresh, confirmations, counted, rest⟩ := accepted
  have pending' : (before.pegInRequests btcTxHash).executed = false := by simpa using pending
  have fresh' : before.pegInConfirmedBy btcTxHash message.sender = false := by simpa using fresh
  split at rest
  · rename_i reached
    simp only [executePegIn, bind_eq_ok, requireTransfer_eq_ok, pure_eq_ok,
      Function.update_self, Function.update_idem] at rest
    obtain ⟨_, ⟨ledger, paid, rfl⟩, same⟩ := rest
    cases same
    exact ⟨confirmations, true, ledger, relayer, running, outside, pending', fresh', counted,
      (decide_eq_true reached).symm, paid, rfl, rfl⟩
  · rename_i below
    simp only [pure_eq_ok] at rest
    cases rest
    refine ⟨confirmations, false, before.wrappedBtc, relayer, running, outside, pending', fresh',
      counted, (decide_eq_false below).symm, rfl, ?_, rfl⟩
    simp only [← pending', ← describe_executed (before.pegInRequests btcTxHash) recipient amount]

/-- The two daily-limit fields, read as a meter. -/
def State.meter (state : State token) : Run.Meter Nat Nat :=
  ⟨state.withdrawnToday.toNat, state.lastResetDay.toNat⟩

/-- `_enforceDailyLimit` charges the meter, within the limit in force. -/
theorem enforceDailyLimit_ok (message : Message) (amount : Uint256)
    (before after : State token) :
    enforceDailyLimit message amount before = .ok after ↔
      ∃ withdrawn : Uint256,
        withdrawn.toNat = before.meter.read message.today.toNat + amount.toNat ∧
        withdrawn.toNat ≤ before.dailyLimit.toNat ∧
        after = { before with withdrawnToday := withdrawn, lastResetDay := message.today } := by
  simp only [enforceDailyLimit, bind_eq_ok, require_eq_ok, checkedAdd_eq_ok, pure_eq_ok,
    exists_and_left, exists_const, State.meter, Run.Meter.read]
  by_cases same : message.today = before.lastResetDay
  · simp only [same, ne_eq, not_true_eq_false, ↓reduceIte, BitVec.not_lt, BitVec.le_def, eq_comm]
  · have other : ¬ before.lastResetDay.toNat = message.today.toNat := fun equal =>
      same (BitVec.eq_of_toNat_eq equal.symm)
    simp only [ne_eq, same, not_false_eq_true, ↓reduceIte, other, BitVec.not_lt, BitVec.le_def,
      BitVec.toNat_ofNat, Nat.zero_mod, eq_comm]

/-- An accepted `confirmPegOut`. -/
structure PegOutStep (message : Message) (id : Uint256) (before after : State token)
    (events : List Event) (confirmations : Uint256) (executed : Bool)
    (withdrawn resetDay : Uint256) : Prop where
  relayer : before.roles.hasRole .relayer message.sender = true
  running : before.paused = false
  outside : before.entered = false
  pending : (before.pegOutRequests id).executed = false
  fresh : before.pegOutConfirmedBy id message.sender = false
  elapsed : (before.pegOutRequests id).requestedAt.toNat + 3600 ≤ message.timestamp.toNat
  counted : confirmations.toNat = (before.pegOutRequests id).confirmations.toNat + 1
  decided : executed = decide (before.requiredConfirmations ≤ confirmations)
  limited : if executed then
      withdrawn.toNat = before.meter.read message.today.toNat +
          (before.pegOutRequests id).amount.toNat ∧
        withdrawn.toNat ≤ before.dailyLimit.toNat ∧ resetDay = message.today
    else withdrawn = before.withdrawnToday ∧ resetDay = before.lastResetDay
  after_eq : after = { before with
    entered := false
    withdrawnToday := withdrawn
    lastResetDay := resetDay
    pegOutRequests := Function.update before.pegOutRequests id
      { before.pegOutRequests id with confirmations := confirmations, executed := executed }
    pegOutConfirmedBy := Function.update before.pegOutConfirmedBy id
      (Function.update (before.pegOutConfirmedBy id) message.sender true) }
  events_eq : events = .pegOutConfirmed id message.sender confirmations ::
    if executed then [.pegOutExecuted id] else []

/-- The timelock is added in 256 bits, where a 64-bit time leaves ample room. -/
theorem unlocked_toNat (requestedAt : Uint64) (unlocked : Uint256)
    (sum : unlocked.toNat = (requestedAt.setWidth 256).toNat + pegOutTimelock.toNat) :
    unlocked.toNat = requestedAt.toNat + 3600 := by
  have small : requestedAt.toNat < 2 ^ 256 := Nat.lt_trans requestedAt.isLt (by decide)
  rw [sum, BitVec.toNat_setWidth, Nat.mod_eq_of_lt small]
  rfl

theorem confirmPegOut_ok (message : Message) (id : Uint256) (before after : State token)
    (events : List Event) (accepted : confirmPegOut message id before = .ok (after, events)) :
    ∃ confirmations executed withdrawn resetDay,
      PegOutStep message id before after events confirmations executed withdrawn resetDay := by
  simp only [confirmPegOut, bind_eq_ok, onlyRole_eq_ok, whenNotPaused_eq_ok, nonReentrant_eq_ok,
    require_eq_ok, checkedAdd_eq_ok, exists_and_left, exists_const] at accepted
  obtain ⟨relayer, running, outside, pending, fresh, unlocked, sum, late, confirmations, counted,
    rest⟩ := accepted
  have pending' : (before.pegOutRequests id).executed = false := by simpa using pending
  have fresh' : before.pegOutConfirmedBy id message.sender = false := by simpa using fresh
  have elapsed : (before.pegOutRequests id).requestedAt.toNat + 3600 ≤ message.timestamp.toNat := by
    rw [← unlocked_toNat _ _ sum]
    exact BitVec.le_def.mp (BitVec.not_lt.mp late)
  split at rest
  · rename_i reached
    simp only [executePegOut, bind_eq_ok, enforceDailyLimit_ok, pure_eq_ok,
      Function.update_self] at rest
    obtain ⟨_, ⟨_, ⟨withdrawn, charged, within, rfl⟩, rfl⟩, same⟩ := rest
    cases same
    refine ⟨confirmations, true, withdrawn, message.today, relayer, running, outside, pending',
      fresh', elapsed, counted, (decide_eq_true reached).symm, ⟨charged, within, rfl⟩, ?_, rfl⟩
    simp only [Function.update_idem]
  · rename_i below
    simp only [pure_eq_ok] at rest
    cases rest
    refine ⟨confirmations, false, before.withdrawnToday, before.lastResetDay, relayer, running,
      outside, pending', fresh', elapsed, counted, (decide_eq_false below).symm, ⟨rfl, rfl⟩, ?_, rfl⟩
    simp only [← pending']

/-- An accepted `requestPegOut`. -/
structure RequestStep (bridge : Address) (message : Message) (amount : Uint256)
    (btcAddress : String) (before after : State token) (events : List Event)
    (nextPegOutId : Uint256) (ledger : token.Ledger) : Prop where
  running : before.paused = false
  outside : before.entered = false
  within : amount ≤ before.perTxLimit
  received : token.transferFrom bridge message.sender bridge amount before.wrappedBtc = .ok ledger
  advanced : nextPegOutId.toNat = before.nextPegOutId.toNat + 1
  after_eq : after = { before with
    entered := false
    wrappedBtc := ledger
    nextPegOutId := nextPegOutId
    pegOutRequests := Function.update before.pegOutRequests before.nextPegOutId
      { requester := message.sender
        amount := amount
        btcAddress := btcAddress
        confirmations := 0#256
        requestedAt := message.timestamp.setWidth 64
        executed := false } }
  events_eq : events = [.pegOutRequested before.nextPegOutId message.sender amount btcAddress]

theorem requestPegOut_ok (bridge : Address) (message : Message) (amount : Uint256)
    (btcAddress : String) (before after : State token) (events : List Event) (id : Uint256)
    (accepted : requestPegOut bridge message amount btcAddress before = .ok ((after, events), id)) :
    id = before.nextPegOutId ∧ ∃ nextPegOutId ledger,
      RequestStep bridge message amount btcAddress before after events nextPegOutId ledger := by
  simp only [requestPegOut, bind_eq_ok, whenNotPaused_eq_ok, nonReentrant_eq_ok, require_eq_ok,
    requireTransfer_eq_ok, checkedAdd_eq_ok, pure_eq_ok, BitVec.not_lt, exists_and_left,
    exists_const] at accepted
  obtain ⟨running, outside, within, ledger, received, nextPegOutId, advanced, same⟩ := accepted
  cases same
  exact ⟨rfl, nextPegOutId, ledger, running, outside, within, received, advanced, rfl, rfl⟩

theorem addRelayer_ok (message : Message) (relayer : Address) (before after : State token)
    (events : List Event) (accepted : addRelayer message relayer before = .ok (after, events)) :
    before.roles.hasRole .defaultAdmin message.sender = true ∧
      ∃ relayerCount : Uint256, relayerCount.toNat = before.relayerCount.toNat + 1 ∧
        after = { before with
          roles := (before.roles.grant .relayer relayer message.sender).1
          relayerCount := relayerCount } ∧
        events = (before.roles.grant .relayer relayer message.sender).2.map .roles ++
          [.relayerAdded relayer] := by
  simp only [addRelayer, bind_eq_ok, onlyRole_eq_ok, checkedAdd_eq_ok, pure_eq_ok,
    exists_and_left, exists_const] at accepted
  obtain ⟨admin, relayerCount, counted, same⟩ := accepted
  cases same
  exact ⟨admin, relayerCount, counted, rfl, rfl⟩

theorem removeRelayer_ok (message : Message) (relayer : Address) (before after : State token)
    (events : List Event) (accepted : removeRelayer message relayer before = .ok (after, events)) :
    before.roles.hasRole .defaultAdmin message.sender = true ∧
      ∃ relayerCount : Uint256, relayerCount.toNat + 1 = before.relayerCount.toNat ∧
        before.requiredConfirmations ≤ relayerCount ∧
        after = { before with
          roles := (before.roles.revoke .relayer relayer message.sender).1
          relayerCount := relayerCount } ∧
        events = (before.roles.revoke .relayer relayer message.sender).2.map .roles ++
          [.relayerRemoved relayer] := by
  simp only [removeRelayer, bind_eq_ok, onlyRole_eq_ok, checkedSub_eq_ok, require_eq_ok,
    pure_eq_ok, BitVec.not_lt, exists_and_left, exists_const] at accepted
  obtain ⟨admin, relayerCount, counted, within, same⟩ := accepted
  cases same
  exact ⟨admin, relayerCount, counted, within, rfl, rfl⟩

theorem setThreshold_ok (message : Message) (newThreshold : Uint256)
    (before after : State token) (events : List Event)
    (accepted : setThreshold message newThreshold before = .ok (after, events)) :
    newThreshold ≠ 0#256 ∧ newThreshold ≤ before.relayerCount ∧
      after = { before with requiredConfirmations := newThreshold } ∧
      events = [.thresholdUpdated newThreshold] := by
  simp only [setThreshold, bind_eq_ok, onlyRole_eq_ok, require_eq_ok, pure_eq_ok, not_or,
    BitVec.not_lt, exists_and_left, exists_const] at accepted
  obtain ⟨-, ⟨positive, within⟩, same⟩ := accepted
  cases same
  exact ⟨positive, within, rfl, rfl⟩

theorem setLimits_ok (message : Message) (newPerTxLimit newDailyLimit : Uint256)
    (before after : State token) (events : List Event)
    (accepted : setLimits message newPerTxLimit newDailyLimit before = .ok (after, events)) :
    after = { before with perTxLimit := newPerTxLimit, dailyLimit := newDailyLimit } ∧
      events = [] := by
  simp only [setLimits, bind_eq_ok, onlyRole_eq_ok, pure_eq_ok, exists_and_left,
    exists_const] at accepted
  cases accepted.2
  exact ⟨rfl, rfl⟩

theorem pause_ok (message : Message) (before after : State token) (events : List Event)
    (accepted : pause message before = .ok (after, events)) :
    after = { before with paused := true } ∧ events = [.paused message.sender] := by
  simp only [pause, bind_eq_ok, onlyRole_eq_ok, whenNotPaused_eq_ok, pure_eq_ok,
    exists_and_left, exists_const] at accepted
  cases accepted.2.2
  exact ⟨rfl, rfl⟩

theorem unpause_ok (message : Message) (before after : State token) (events : List Event)
    (accepted : unpause message before = .ok (after, events)) :
    after = { before with paused := false } ∧ events = [.unpaused message.sender] := by
  simp only [unpause, bind_eq_ok, onlyRole_eq_ok, whenPaused_eq_ok, pure_eq_ok,
    exists_and_left, exists_const] at accepted
  cases accepted.2.2
  exact ⟨rfl, rfl⟩

theorem withRoles_ok (before after : State token)
    (attempt : Except (Revert Role Error) (AccessControl Role × List (RoleEvent Role)))
    (events : List Event) (accepted : withRoles before attempt = .ok (after, events)) :
    ∃ changed, attempt = .ok changed ∧ after = { before with roles := changed.1 } ∧
      events = changed.2.map .roles := by
  simp only [withRoles, bind_eq_ok, pure_eq_ok] at accepted
  obtain ⟨changed, returned, same⟩ := accepted
  cases same
  exact ⟨changed, returned, rfl, rfl⟩

/-- Calls that only manage roles, limits and the pause switch. -/
def Call.administrative : Call → Bool
  | .confirmPegIn .. => false
  | .requestPegOut .. => false
  | .confirmPegOut .. => false
  | .wrappedBtc .. => false
  | _ => true

/-- Events that say nothing about a peg-in or a peg-out. -/
def Event.administrative : Event → Bool
  | .pegInConfirmed .. => false
  | .pegInExecuted .. => false
  | .pegOutRequested .. => false
  | .pegOutConfirmed .. => false
  | .pegOutExecuted .. => false
  | _ => true

/-- What an accepted transaction can have done. -/
inductive Step (bridge : Address) (message : Message) (before after : State token)
    (events : List Event) : Call → Prop
  | pegIn (btcTxHash : Bytes32) (recipient : Address) (amount confirmations : Uint256)
      (executed : Bool) (ledger : token.Ledger)
      (step : PegInStep bridge message btcTxHash recipient amount before after events
        confirmations executed ledger) :
      Step bridge message before after events (.confirmPegIn btcTxHash recipient amount)
  | request (amount : Uint256) (btcAddress : String) (nextPegOutId : Uint256)
      (ledger : token.Ledger)
      (step : RequestStep bridge message amount btcAddress before after events nextPegOutId ledger) :
      Step bridge message before after events (.requestPegOut amount btcAddress)
  | pegOut (id confirmations : Uint256) (executed : Bool) (withdrawn resetDay : Uint256)
      (step : PegOutStep message id before after events confirmations executed withdrawn resetDay) :
      Step bridge message before after events (.confirmPegOut id)
  | admin (call : Call) (plain : call.administrative = true) (roles : AccessControl Role)
      (paused : Bool) (requiredConfirmations relayerCount perTxLimit dailyLimit : Uint256)
      (after_eq : after = { before with
        roles := roles
        paused := paused
        requiredConfirmations := requiredConfirmations
        relayerCount := relayerCount
        perTxLimit := perTxLimit
        dailyLimit := dailyLimit })
      (quiet : ∀ event ∈ events, event.administrative = true) :
      Step bridge message before after events call
  | ledger (call : Erc20.Call) (ledger : token.Ledger)
      (moved : token.execute message.sender before.wrappedBtc call = .ok ledger)
      (after_eq : after = { before with wrappedBtc := ledger }) (events_eq : events = []) :
      Step bridge message before after events (.wrappedBtc call)

theorem roles_quiet (roleEvents : List (RoleEvent Role)) :
    ∀ event ∈ roleEvents.map Event.roles, event.administrative = true := by
  intro event member
  obtain ⟨roleEvent, -, rfl⟩ := List.mem_map.mp member
  rfl

theorem roles_quiet_snoc (roleEvents : List (RoleEvent Role)) (last : Event)
    (plain : last.administrative = true) :
    ∀ event ∈ roleEvents.map Event.roles ++ [last], event.administrative = true := by
  intro event member
  rcases List.mem_append.mp member with early | late
  · exact roles_quiet roleEvents event early
  · rw [List.mem_singleton.mp late]
    exact plain

/-- A role function of the parent contract writes the roles and nothing else. -/
theorem withRoles_step (bridge : Address) (message : Message) (call : Call)
    (plain : call.administrative = true) (before after : State token)
    (attempt : Except (Revert Role Error) (AccessControl Role × List (RoleEvent Role)))
    (events : List Event) (accepted : withRoles before attempt = .ok (after, events)) :
    Step bridge message before after events call := by
  obtain ⟨changed, -, rfl, rfl⟩ := withRoles_ok before after attempt events accepted
  exact .admin call plain changed.1 before.paused before.requiredConfirmations
    before.relayerCount before.perTxLimit before.dailyLimit rfl (roles_quiet changed.2)

theorem transact_step (bridge : Address) (transaction : Transaction bridge)
    (before after : State token) (events : List Event)
    (accepted : transact bridge transaction before = .ok (after, events)) :
    Step bridge transaction.message before after events transaction.call := by
  obtain ⟨message, call, outside⟩ := transaction
  cases call with
  | confirmPegIn btcTxHash recipient amount =>
    obtain ⟨confirmations, executed, ledger, step⟩ :=
      confirmPegIn_ok bridge message btcTxHash recipient amount before after events accepted
    exact .pegIn btcTxHash recipient amount confirmations executed ledger step
  | requestPegOut amount btcAddress =>
    simp only [transact] at accepted
    cases attempt : requestPegOut bridge message amount btcAddress before with
    | error reason =>
      rw [attempt] at accepted
      cases accepted
    | ok result =>
      obtain ⟨written, id⟩ := result
      rw [attempt] at accepted
      cases Except.ok.inj accepted
      obtain ⟨-, nextPegOutId, ledger, step⟩ :=
        requestPegOut_ok bridge message amount btcAddress before after events id attempt
      exact .request amount btcAddress nextPegOutId ledger step
  | confirmPegOut id =>
    obtain ⟨confirmations, executed, withdrawn, resetDay, step⟩ :=
      confirmPegOut_ok message id before after events accepted
    exact .pegOut id confirmations executed withdrawn resetDay step
  | addRelayer relayer =>
    obtain ⟨-, relayerCount, -, rfl, rfl⟩ :=
      addRelayer_ok message relayer before after events accepted
    exact .admin _ rfl _ before.paused before.requiredConfirmations relayerCount
      before.perTxLimit before.dailyLimit rfl (roles_quiet_snoc _ _ rfl)
  | removeRelayer relayer =>
    obtain ⟨-, relayerCount, -, -, rfl, rfl⟩ :=
      removeRelayer_ok message relayer before after events accepted
    exact .admin _ rfl _ before.paused before.requiredConfirmations relayerCount
      before.perTxLimit before.dailyLimit rfl (roles_quiet_snoc _ _ rfl)
  | setThreshold newThreshold =>
    obtain ⟨-, -, rfl, rfl⟩ := setThreshold_ok message newThreshold before after events accepted
    exact .admin _ rfl before.roles before.paused newThreshold before.relayerCount
      before.perTxLimit before.dailyLimit rfl (roles_quiet_snoc [] _ rfl)
  | setLimits newPerTxLimit newDailyLimit =>
    obtain ⟨rfl, rfl⟩ :=
      setLimits_ok message newPerTxLimit newDailyLimit before after events accepted
    exact .admin _ rfl before.roles before.paused before.requiredConfirmations
      before.relayerCount newPerTxLimit newDailyLimit rfl (roles_quiet [])
  | pause =>
    obtain ⟨rfl, rfl⟩ := pause_ok message before after events accepted
    exact .admin _ rfl before.roles true before.requiredConfirmations before.relayerCount
      before.perTxLimit before.dailyLimit rfl (roles_quiet_snoc [] _ rfl)
  | unpause =>
    obtain ⟨rfl, rfl⟩ := unpause_ok message before after events accepted
    exact .admin _ rfl before.roles false before.requiredConfirmations before.relayerCount
      before.perTxLimit before.dailyLimit rfl (roles_quiet_snoc [] _ rfl)
  | grantRole role account =>
    exact withRoles_step bridge message _ rfl before after _ events accepted
  | revokeRole role account =>
    exact withRoles_step bridge message _ rfl before after _ events accepted
  | renounceRole role callerConfirmation =>
    exact withRoles_step bridge message _ rfl before after _ events accepted
  | wrappedBtc call =>
    simp only [transact] at accepted
    split at accepted
    · rename_i ledger moved
      cases accepted
      exact .ledger call ledger moved rfl rfl
    · cases accepted

/-- Nothing happens to peg-ins. -/
structure PegInFrame (before after : State token) (events : List Event) : Prop where
  requests : after.pegInRequests = before.pegInRequests
  confirmedBy : after.pegInConfirmedBy = before.pegInConfirmedBy
  unpaid : ∀ btcTxHash recipient amount, .pegInExecuted btcTxHash recipient amount ∉ events

/-- Only `confirmPegIn` touches peg-ins. -/
theorem Step.pegIn_cases {bridge : Address} {message : Message} {before after : State token}
    {events : List Event} {call : Call} (step : Step bridge message before after events call) :
    (∃ btcTxHash recipient amount confirmations executed ledger,
      call = .confirmPegIn btcTxHash recipient amount ∧
        PegInStep bridge message btcTxHash recipient amount before after events confirmations
          executed ledger) ∨
      PegInFrame before after events := by
  cases step with
  | pegIn btcTxHash recipient amount confirmations executed ledger step =>
    exact Or.inl ⟨btcTxHash, recipient, amount, confirmations, executed, ledger, rfl, step⟩
  | request _ _ _ _ step =>
    rw [step.after_eq, step.events_eq]
    exact Or.inr ⟨rfl, rfl, by simp⟩
  | pegOut _ _ executed _ _ step =>
    rw [step.after_eq, step.events_eq]
    exact Or.inr ⟨rfl, rfl, by cases executed <;> simp⟩
  | admin _ _ _ _ _ _ _ _ after_eq quiet =>
    rw [after_eq]
    refine Or.inr ⟨rfl, rfl, ?_⟩
    intro btcTxHash recipient amount paid
    exact Bool.false_ne_true (quiet _ paid)
  | ledger _ _ _ after_eq events_eq =>
    rw [after_eq, events_eq]
    exact Or.inr ⟨rfl, rfl, by simp⟩

/-- Nothing happens to peg-outs, and the call is not one that could. -/
structure PegOutFrame (before after : State token) (call : Call) : Prop where
  requests : after.pegOutRequests = before.pegOutRequests
  confirmedBy : after.pegOutConfirmedBy = before.pegOutConfirmedBy
  nextPegOutId : after.nextPegOutId = before.nextPegOutId
  unrequested : ∀ amount btcAddress, call ≠ .requestPegOut amount btcAddress
  unconfirmed : ∀ id, call ≠ .confirmPegOut id

/-- Only `requestPegOut` and `confirmPegOut` touch peg-outs. -/
theorem Step.pegOut_cases {bridge : Address} {message : Message} {before after : State token}
    {events : List Event} {call : Call} (step : Step bridge message before after events call) :
    (∃ amount btcAddress nextPegOutId ledger, call = .requestPegOut amount btcAddress ∧
      RequestStep bridge message amount btcAddress before after events nextPegOutId ledger) ∨
    (∃ id confirmations executed withdrawn resetDay, call = .confirmPegOut id ∧
      PegOutStep message id before after events confirmations executed withdrawn resetDay) ∨
    PegOutFrame before after call := by
  cases step with
  | pegIn _ _ _ _ _ _ step =>
    rw [step.after_eq]
    exact Or.inr (Or.inr ⟨rfl, rfl, rfl, by simp, by simp⟩)
  | request amount btcAddress nextPegOutId ledger step =>
    exact Or.inl ⟨amount, btcAddress, nextPegOutId, ledger, rfl, step⟩
  | pegOut id confirmations executed withdrawn resetDay step =>
    exact Or.inr (Or.inl ⟨id, confirmations, executed, withdrawn, resetDay, rfl, step⟩)
  | admin call plain _ _ _ _ _ _ after_eq =>
    rw [after_eq]
    refine Or.inr (Or.inr ⟨rfl, rfl, rfl, ?_, ?_⟩)
    · rintro amount btcAddress rfl
      cases plain
    · rintro id rfl
      cases plain
  | ledger _ _ _ after_eq =>
    rw [after_eq]
    exact Or.inr (Or.inr ⟨rfl, rfl, rfl, by simp, by simp⟩)

/-- What a constructor that accepts its arguments leaves. -/
structure Deployed (message : Message) (wrappedBtc : token.Ledger) (admin : Address)
    (initialRelayers : List Address) (threshold : Uint256) (start : State token) : Prop where
  running : start.paused = false
  outside : start.entered = false
  threshold_pos : threshold ≠ 0#256
  threshold_le : threshold ≤ BitVec.ofNat 256 initialRelayers.length
  required : start.requiredConfirmations = threshold
  counted : start.relayerCount = BitVec.ofNat 256 initialRelayers.length
  roles : start.roles = (grantInitialRelayers message.sender
    ((AccessControl.empty.grant Role.defaultAdmin admin message.sender).1.grant .guardian admin
      message.sender).1 initialRelayers).1
  meter : start.meter = ⟨0, 0⟩
  pegInRequests : start.pegInRequests = fun _ => .unset
  pegInConfirmedBy : start.pegInConfirmedBy = fun _ _ => false
  pegOutRequests : start.pegOutRequests = fun _ => .unset
  pegOutConfirmedBy : start.pegOutConfirmedBy = fun _ _ => false
  nextPegOutId : start.nextPegOutId = 0#256
  ledger : start.wrappedBtc = wrappedBtc

theorem deploy_ok (message : Message) (wrappedBtc : token.Ledger) (admin : Address)
    (initialRelayers : List Address) (threshold : Uint256) (start : State token)
    (events : List Event)
    (accepted : deploy message wrappedBtc admin initialRelayers threshold = .ok (start, events)) :
    Deployed message wrappedBtc admin initialRelayers threshold start := by
  simp only [deploy, bind_eq_ok, require_eq_ok, pure_eq_ok, not_or, BitVec.not_lt,
    exists_and_left, exists_const] at accepted
  obtain ⟨⟨positive, within⟩, same⟩ := accepted
  cases same
  exact ⟨rfl, rfl, positive, within, rfl, rfl, rfl, rfl, rfl, rfl, rfl, rfl, rfl, rfl⟩

end BigX.Bridge
