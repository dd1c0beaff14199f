import BigX.Bridge.Steps
import BigX.Bridge.MockWbtc
import BigX.Run.Tally

set_option autoImplicit false

/- The relayer counter against the relayer set it shadows. The set operations are
idempotent and the counter updates are not, so the two agree exactly along runs whose
grants are of new relayers and whose removals are of present ones. -/
namespace BigX.Bridge

open Evm Run

variable {token : Erc20}

/-- Who holds `RELAYER_ROLE`. -/
def State.relayers (state : State token) : Address → Bool :=
  state.roles.hasRole .relayer

/-- The counter is the size of the relayer set and the threshold is one the set can meet. -/
structure RelayerSet (state : State token) : Prop where
  counted : state.relayerCount.toNat = tally state.relayers
  threshold_pos : 1 ≤ state.requiredConfirmations.toNat
  threshold_le : state.requiredConfirmations.toNat ≤ tally state.relayers

/-- The call changes the relayer set as its counter update assumes: it adds a new relayer,
removes a present one, or leaves the set alone. -/
def keepsRelayerCount (bridge : Address) (state : State token) (transaction : Transaction bridge) :
    Prop :=
  match transaction.call with
  | .addRelayer relayer => state.relayers relayer = false
  | .removeRelayer relayer => state.relayers relayer = true
  | .grantRole .relayer account => state.relayers account = true
  | .revokeRole .relayer account => state.relayers account = false
  | .renounceRole .relayer callerConfirmation => state.relayers callerConfirmation = false
  | _ => True

theorem relayers_grant (state : State token) (relayer sender : Address) :
    (state.roles.grant .relayer relayer sender).1.hasRole .relayer =
      Function.update state.relayers relayer true := by
  simp only [AccessControl.grant_hasRole, Function.update_self, State.relayers]

theorem relayers_revoke (state : State token) (relayer sender : Address) :
    (state.roles.revoke .relayer relayer sender).1.hasRole .relayer =
      Function.update state.relayers relayer false := by
  simp only [AccessControl.revoke_hasRole, Function.update_self, State.relayers]

theorem RelayerSet.congr {before after : State token} (held : RelayerSet before)
    (relayers : after.relayers = before.relayers)
    (relayerCount : after.relayerCount = before.relayerCount)
    (requiredConfirmations : after.requiredConfirmations = before.requiredConfirmations) :
    RelayerSet after := by
  refine ⟨?_, ?_, ?_⟩
  · rw [relayers, relayerCount]
    exact held.counted
  · rw [requiredConfirmations]
    exact held.threshold_pos
  · rw [relayers, requiredConfirmations]
    exact held.threshold_le

/-- Peg-ins, peg-outs and token calls leave the roles, the counter and the threshold alone. -/
theorem Step.relayerSet {bridge : Address} {message : Message} {before after : State token}
    {events : List Event} {call : Call} (step : Step bridge message before after events call)
    (plain : call.administrative = false) (held : RelayerSet before) : RelayerSet after := by
  cases step with
  | pegIn _ _ _ _ _ _ step =>
    rw [step.after_eq]
    exact held.congr rfl rfl rfl
  | request _ _ _ _ step =>
    rw [step.after_eq]
    exact held.congr rfl rfl rfl
  | pegOut _ _ _ _ _ step =>
    rw [step.after_eq]
    exact held.congr rfl rfl rfl
  | admin _ admin =>
    rw [admin] at plain
    cases plain
  | ledger _ _ _ after_eq =>
    rw [after_eq]
    exact held.congr rfl rfl rfl

theorem addRelayer_relayerSet_iff (message : Message) (relayer : Address)
    (before after : State token) (events : List Event) (held : RelayerSet before)
    (accepted : addRelayer message relayer before = .ok (after, events)) :
    RelayerSet after ↔ before.relayers relayer = false := by
  obtain ⟨-, relayerCount, counted, rfl, -⟩ :=
    addRelayer_ok message relayer before after events accepted
  have relayers := relayers_grant before relayer message.sender
  constructor
  · intro good
    by_contra member
    -- granting twice leaves the set as it was, but still moves the counter
    have present : before.relayers relayer = true := by simpa using member
    have same : Function.update before.relayers relayer true = before.relayers := by
      rw [← present, Function.update_eq_self]
    have size := good.counted
    rw [State.relayers, relayers, same, ← held.counted] at size
    simp only [counted] at size
    omega
  · intro fresh
    have size : tally (Function.update before.relayers relayer true) =
        tally before.relayers + 1 := tally_mark before.relayers relayer fresh
    refine ⟨?_, held.threshold_pos, ?_⟩
    · rw [State.relayers, relayers, size, ← held.counted]
      exact counted
    · rw [State.relayers, relayers, size]
      exact Nat.le_succ_of_le held.threshold_le

theorem removeRelayer_relayerSet_iff (message : Message) (relayer : Address)
    (before after : State token) (events : List Event) (held : RelayerSet before)
    (accepted : removeRelayer message relayer before = .ok (after, events)) :
    RelayerSet after ↔ before.relayers relayer = true := by
  obtain ⟨-, relayerCount, counted, within, rfl, -⟩ :=
    removeRelayer_ok message relayer before after events accepted
  have relayers := relayers_revoke before relayer message.sender
  constructor
  · intro good
    by_contra member
    have absent : before.relayers relayer = false := by simpa using member
    have same : Function.update before.relayers relayer false = before.relayers := by
      rw [← absent, Function.update_eq_self]
    have size := good.counted
    rw [State.relayers, relayers, same, ← held.counted] at size
    dsimp only at size
    omega
  · intro present
    have size := tally_unmark before.relayers relayer present
    have known := held.counted
    have enough := BitVec.le_def.mp within
    refine ⟨?_, held.threshold_pos, ?_⟩
    · rw [State.relayers, relayers]
      dsimp only
      omega
    · rw [State.relayers, relayers]
      dsimp only
      omega

/-- A public grant of the relayer role bypasses the counter. -/
theorem grant_relayerSet_iff (state : State token) (account sender : Address)
    (held : RelayerSet state) :
    RelayerSet { state with roles := (state.roles.grant .relayer account sender).1 } ↔
      state.relayers account = true := by
  have relayers := relayers_grant state account sender
  constructor
  · intro good
    by_contra member
    have fresh : state.relayers account = false := by simpa using member
    have size := good.counted
    rw [State.relayers, relayers, tally_mark state.relayers account fresh, ← held.counted] at size
    dsimp only at size
    omega
  · intro present
    refine held.congr ?_ rfl rfl
    rw [State.relayers, relayers, ← present, Function.update_eq_self]

theorem revoke_relayerSet_iff (state : State token) (account sender : Address)
    (held : RelayerSet state) :
    RelayerSet { state with roles := (state.roles.revoke .relayer account sender).1 } ↔
      state.relayers account = false := by
  have relayers := relayers_revoke state account sender
  constructor
  · intro good
    by_contra member
    have present : state.relayers account = true := by simpa using member
    have size := good.counted
    have shrunk := tally_unmark state.relayers account present
    rw [State.relayers, relayers] at size
    dsimp only at size
    have known := held.counted
    omega
  · intro absent
    refine held.congr ?_ rfl rfl
    rw [State.relayers, relayers, ← absent, Function.update_eq_self]

/-- Grants and revocations of any other role do not touch the relayer set. -/
theorem relayers_grant_other (state : State token) (role : Role) (other : role ≠ .relayer)
    (account sender : Address) :
    (state.roles.grant role account sender).1.hasRole .relayer = state.relayers := by
  rw [AccessControl.grant_hasRole, Function.update_of_ne other.symm, State.relayers]

theorem relayers_revoke_other (state : State token) (role : Role) (other : role ≠ .relayer)
    (account sender : Address) :
    (state.roles.revoke role account sender).1.hasRole .relayer = state.relayers := by
  rw [AccessControl.revoke_hasRole, Function.update_of_ne other.symm, State.relayers]

theorem grant_keeps_iff (state : State token) (role : Role) (account sender : Address)
    (held : RelayerSet state) :
    RelayerSet { state with roles := (state.roles.grant role account sender).1 } ↔
      (role = .relayer → state.relayers account = true) := by
  by_cases relayer : role = .relayer
  · subst relayer
    simpa using grant_relayerSet_iff state account sender held
  · simp only [relayer, false_imp_iff, iff_true]
    exact held.congr
      (relayers_grant_other state role relayer account sender) rfl rfl

theorem revoke_keeps_iff (state : State token) (role : Role) (account sender : Address)
    (held : RelayerSet state) :
    RelayerSet { state with roles := (state.roles.revoke role account sender).1 } ↔
      (role = .relayer → state.relayers account = false) := by
  by_cases relayer : role = .relayer
  · subst relayer
    simpa using revoke_relayerSet_iff state account sender held
  · simp only [relayer, false_imp_iff, iff_true]
    exact held.congr
      (relayers_revoke_other state role relayer account sender) rfl rfl

/-- One step keeps the agreement exactly when it meets the condition. -/
theorem transact_relayerSet_iff (bridge : Address) (transaction : Transaction bridge)
    (before after : State token) (events : List Event) (held : RelayerSet before)
    (accepted : transact bridge transaction before = .ok (after, events)) :
    RelayerSet after ↔ keepsRelayerCount bridge before transaction := by
  have step := transact_step bridge transaction before after events accepted
  obtain ⟨message, call, outside⟩ := transaction
  cases call with
  | confirmPegIn | requestPegOut | confirmPegOut | wrappedBtc =>
    simp only [keepsRelayerCount, iff_true]
    exact step.relayerSet rfl held
  | addRelayer relayer =>
    exact addRelayer_relayerSet_iff message relayer before after events held accepted
  | removeRelayer relayer =>
    exact removeRelayer_relayerSet_iff message relayer before after events held accepted
  | setThreshold newThreshold =>
    obtain ⟨positive, within, rfl, -⟩ :=
      setThreshold_ok message newThreshold before after events accepted
    have some_needed : newThreshold.toNat ≠ 0 := fun zero =>
      positive (BitVec.eq_of_toNat_eq zero)
    have enough := BitVec.le_def.mp within
    rw [held.counted] at enough
    simp only [keepsRelayerCount, iff_true]
    exact ⟨held.counted, Nat.one_le_iff_ne_zero.mpr some_needed, enough⟩
  | setLimits newPerTxLimit newDailyLimit =>
    obtain ⟨rfl, -⟩ := setLimits_ok message newPerTxLimit newDailyLimit before after events accepted
    simp only [keepsRelayerCount, iff_true]
    exact held.congr rfl rfl rfl
  | pause =>
    obtain ⟨rfl, -⟩ := pause_ok message before after events accepted
    simp only [keepsRelayerCount, iff_true]
    exact held.congr rfl rfl rfl
  | unpause =>
    obtain ⟨rfl, -⟩ := unpause_ok message before after events accepted
    simp only [keepsRelayerCount, iff_true]
    exact held.congr rfl rfl rfl
  | grantRole role account =>
    obtain ⟨changed, attempt, rfl, -⟩ := withRoles_ok before after _ events accepted
    obtain ⟨-, rfl⟩ := (AccessControl.grantRole_eq_ok _ _ _ _ _ _).mp attempt
    rw [grant_keeps_iff before role account message.sender held]
    cases role <;> simp [keepsRelayerCount]
  | revokeRole role account =>
    obtain ⟨changed, attempt, rfl, -⟩ := withRoles_ok before after _ events accepted
    obtain ⟨-, rfl⟩ := (AccessControl.revokeRole_eq_ok _ _ _ _ _ _).mp attempt
    rw [revoke_keeps_iff before role account message.sender held]
    cases role <;> simp [keepsRelayerCount]
  | renounceRole role callerConfirmation =>
    obtain ⟨changed, attempt, rfl, -⟩ := withRoles_ok before after _ events accepted
    obtain ⟨-, rfl⟩ := (AccessControl.renounceRole_eq_ok _ _ _ _ _).mp attempt
    rw [revoke_keeps_iff before role callerConfirmation message.sender held]
    cases role <;> simp [keepsRelayerCount]

/-- The constructor's loop makes relayers of exactly the addresses it is given. -/
theorem grantInitialRelayers_hasRole (sender : Address) (roles : AccessControl Role)
    (initialRelayers : List Address) (account : Address) :
    (grantInitialRelayers sender roles initialRelayers).1.hasRole .relayer account = true ↔
      roles.hasRole .relayer account = true ∨ account ∈ initialRelayers := by
  induction initialRelayers generalizing roles with
  | nil => simp [grantInitialRelayers]
  | cons relayer rest ih =>
    simp only [grantInitialRelayers, ih, AccessControl.grant_hasRole, Function.update_self,
      List.mem_cons]
    by_cases same : account = relayer
    · simp [same]
    · simp [same]

theorem deployed_relayers (message : Message) (wrappedBtc : token.Ledger) (admin : Address)
    (initialRelayers : List Address) (threshold : Uint256) (start : State token)
    (deployed : Deployed message wrappedBtc admin initialRelayers threshold start) :
    tally start.relayers = initialRelayers.toFinset.card := by
  have members : marked start.relayers = ↑initialRelayers.toFinset := by
    ext account
    rw [mem_marked, State.relayers, deployed.roles, grantInitialRelayers_hasRole]
    simp [AccessControl.grant_hasRole, AccessControl.empty]
  rw [tally, members, Set.ncard_coe_finset]

/-- The constructor counts its argument list, so it is right on lists without repetition.
The list of an ABI call has fewer than `2^256` entries. -/
theorem deployed_relayerSet_iff (message : Message) (wrappedBtc : token.Ledger)
    (admin : Address) (initialRelayers : List Address) (threshold : Uint256)
    (start : State token) (fits : initialRelayers.length < 2 ^ 256)
    (deployed : Deployed message wrappedBtc admin initialRelayers threshold start) :
    RelayerSet start ↔ initialRelayers.Nodup := by
  have size := deployed_relayers message wrappedBtc admin initialRelayers threshold start deployed
  have counter : start.relayerCount.toNat = initialRelayers.length := by
    rw [deployed.counted, BitVec.toNat_ofNat, Nat.mod_eq_of_lt fits]
  constructor
  · intro good
    have equal := good.counted
    rw [counter, size, List.card_toFinset] at equal
    exact List.dedup_eq_self.mp
      ((List.dedup_sublist initialRelayers).eq_of_length equal.symm)
  · intro distinct
    have card : initialRelayers.toFinset.card = initialRelayers.length :=
      List.toFinset_card_of_nodup distinct
    have within := BitVec.le_def.mp deployed.threshold_le
    rw [BitVec.toNat_ofNat, Nat.mod_eq_of_lt fits] at within
    have some_needed : threshold.toNat ≠ 0 := fun zero =>
      deployed.threshold_pos (BitVec.eq_of_toNat_eq zero)
    refine ⟨?_, ?_, ?_⟩
    · rw [counter, size, card]
    · rw [deployed.required]
      omega
    · rw [deployed.required, size, card]
      exact within

/-- The counter and the threshold stay right from the constructor on exactly in the runs
that start from distinct relayers and whose accepted steps all meet `keepsRelayerCount`. -/
theorem relayerSet_always_iff (bridge : Address) (message : Message)
    (wrappedBtc : token.Ledger) (admin : Address) (initialRelayers : List Address)
    (threshold : Uint256) (start : State token) (events : List Event)
    (fits : initialRelayers.length < 2 ^ 256)
    (accepted : deploy message wrappedBtc admin initialRelayers threshold = .ok (start, events))
    (transactions : List (Transaction bridge)) :
    (RelayerSet start ∧
        ∀ entry ∈ (history bridge start transactions).past, RelayerSet entry.after) ↔
      initialRelayers.Nodup ∧
        Meets (keepsRelayerCount bridge) (history bridge start transactions).past := by
  have deployed := deploy_ok message wrappedBtc admin initialRelayers threshold start events accepted
  rw [← deployed_relayerSet_iff message wrappedBtc admin initialRelayers threshold start fits
    deployed]
  refine and_congr_right fun base => ?_
  exact run_always_iff (transact bridge) start RelayerSet (keepsRelayerCount bridge) base
    (fun now transaction after events held step =>
      transact_relayerSet_iff bridge transaction now after events held step) transactions

/-- Two relayers and threshold 2; the admin adds a third. -/
theorem relayerSet_always_iff_third :
    ∃ (start : State MockWbtc.token) (events : List Event),
      deploy ⟨1#160, 0#256⟩ (MockWbtc.create 1#160 0#256) 1#160 [2#160, 3#160] 2#256 =
        .ok (start, events) ∧
      ((RelayerSet start ∧
          ∀ entry ∈ (history 9#160 start
              [⟨⟨1#160, 0#256⟩, .addRelayer 4#160, by decide⟩]).past, RelayerSet entry.after) ↔
        [2#160, 3#160].Nodup ∧ Meets (keepsRelayerCount 9#160) (history 9#160 start
          [⟨⟨1#160, 0#256⟩, .addRelayer 4#160, by decide⟩]).past) :=
  ⟨_, _, rfl, @relayerSet_always_iff MockWbtc.token 9#160 ⟨1#160, 0#256⟩
    (MockWbtc.create 1#160 0#256) 1#160 [2#160, 3#160] 2#256 _ _ (by decide) rfl _⟩

/-- The constructor accepts one relayer listed twice with threshold 2, which nobody can
reach. -/
theorem relayerSet_repeated :
    ∃ (start : State MockWbtc.token) (events : List Event),
      deploy ⟨1#160, 0#256⟩ (MockWbtc.create 1#160 0#256) 1#160 [2#160, 2#160] 2#256 =
        .ok (start, events) ∧ ¬ RelayerSet start := by
  refine ⟨_, _, rfl, fun good => ?_⟩
  have deployed := @deploy_ok MockWbtc.token ⟨1#160, 0#256⟩ (MockWbtc.create 1#160 0#256) 1#160
    [2#160, 2#160] 2#256 _ _ rfl
  have distinct := (deployed_relayerSet_iff _ _ _ _ _ _ (by decide) deployed).mp good
  exact absurd distinct (by decide)

end BigX.Bridge
