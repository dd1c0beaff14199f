import BigX.Bridge.PegIn
import BigX.Bridge.PegOut
import BigX.Run.Quorum

set_option autoImplicit false

/- Requests that can still be executed. The bridge executes only inside a fresh
confirmation, so a pending request needs current relayers who have not confirmed it.
Neither `removeRelayer` nor `setThreshold` looks at the pending requests. -/
namespace BigX.Bridge

open Evm Run

variable {token : Erc20} {bridge : Address}

/-- Every pending request has current relayers left to carry it. A peg-out is pending once
requested, a peg-in once confirmed, both until executed. -/
structure Unstuck (state : State token) : Prop where
  pegOuts : ∀ id, id.toNat < state.nextPegOutId.toNat →
    (state.pegOutRequests id).executed = false →
      Carriable state.relayers (state.pegOutConfirmedBy id)
        (state.pegOutRequests id).confirmations.toNat state.requiredConfirmations.toNat
  pegIns : ∀ btcTxHash, 0 < (state.pegInRequests btcTxHash).confirmations.toNat →
    (state.pegInRequests btcTxHash).executed = false →
      Carriable state.relayers (state.pegInConfirmedBy btcTxHash)
        (state.pegInRequests btcTxHash).confirmations.toNat state.requiredConfirmations.toNat

/-- `voters` are those who have confirmed some pending request. -/
inductive Waiting (state : State token) : (Address → Bool) → Prop
  | pegOut (id : Uint256) (made : id.toNat < state.nextPegOutId.toNat)
      (pending : (state.pegOutRequests id).executed = false) :
      Waiting state (state.pegOutConfirmedBy id)
  | pegIn (btcTxHash : Bytes32) (voted : 0 < (state.pegInRequests btcTxHash).confirmations.toNat)
      (pending : (state.pegInRequests btcTxHash).executed = false) :
      Waiting state (state.pegInConfirmedBy btcTxHash)

/-- A removal leaves every pending request another relayer who has not confirmed it. -/
def leavesConfirmer (bridge : Address) (state : State token) (transaction : Transaction bridge) :
    Prop :=
  match transaction.call with
  | .removeRelayer relayer => ∀ voters, Waiting state voters →
      ∃ other, other ≠ relayer ∧ state.relayers other = true ∧ voters other = false
  | _ => True

/-- The relayer set, its threshold and both tables are as they are meant to be, and the
lock is free. -/
structure Sound (state : State token) : Prop where
  relayers : RelayerSet state
  pegOuts : PegOutBooks state
  pegIns : PegInBooks state
  outside : state.entered = false

/-- A pending request has a relayer who has not confirmed it. -/
def HasConfirmer (state : State token) (voters : Address → Bool) : Prop :=
  ∃ relayer, state.relayers relayer = true ∧ voters relayer = false

theorem unstuck_iff (state : State token) (sound : Sound state) :
    Unstuck state ↔ ∀ voters, Waiting state voters → HasConfirmer state voters := by
  constructor
  · rintro unstuck voters (⟨id, made, pending⟩ | ⟨btcTxHash, voted, pending⟩)
    · exact (unstuck.pegOuts id made pending).exists_absent
    · exact (unstuck.pegIns btcTxHash voted pending).exists_absent
  · intro confirmer
    refine ⟨?_, ?_⟩
    · intro id made pending
      have counted := sound.pegOuts.counted id made
      apply (carriable_iff _ _ _ _ counted sound.relayers.threshold_le).mpr
      exact confirmer _ (.pegOut id made pending)
    · intro btcTxHash voted pending
      have counted := sound.pegIns.counted btcTxHash
      apply (carriable_iff _ _ _ _ counted sound.relayers.threshold_le).mpr
      exact confirmer _ (.pegIn btcTxHash voted pending)

/-- What is pending depends on the request tables alone. -/
theorem waiting_iff {before after : State token} {events : List Event} {call : Call}
    (pegIns : PegInFrame before after events) (pegOuts : PegOutFrame before after call)
    (voters : Address → Bool) : Waiting after voters ↔ Waiting before voters := by
  have nextPegOutId := pegOuts.nextPegOutId
  constructor
  · rintro (⟨id, made, pending⟩ | ⟨btcTxHash, voted, pending⟩)
    · rw [pegOuts.confirmedBy]
      exact .pegOut id (nextPegOutId ▸ made) (pegOuts.requests ▸ pending)
    · rw [pegIns.confirmedBy]
      exact .pegIn btcTxHash (pegIns.requests ▸ voted) (pegIns.requests ▸ pending)
  · rintro (⟨id, made, pending⟩ | ⟨btcTxHash, voted, pending⟩)
    · rw [← pegOuts.confirmedBy]
      exact .pegOut id (nextPegOutId.symm ▸ made) (pegOuts.requests.symm ▸ pending)
    · rw [← pegIns.confirmedBy]
      exact .pegIn btcTxHash (pegIns.requests.symm ▸ voted) (pegIns.requests.symm ▸ pending)

/-- A vote short of the threshold is a vote short of the relayers. -/
theorem hasConfirmer_of_short (state : State token) (held : RelayerSet state)
    (voters : Address → Bool) (short : tally voters < state.requiredConfirmations.toNat) :
    HasConfirmer state voters := by
  apply exists_absent_of_short
  have within := held.threshold_le
  omega

/-- A vote that does not execute did not reach the threshold. -/
theorem hasConfirmer_of_waits {state : State token} (held : RelayerSet state)
    {voters : Address → Bool} {sender : Address} {confirmations : Uint256}
    (fresh : voters sender = false) (counted : confirmations.toNat = tally voters + 1)
    (waits : decide (state.requiredConfirmations ≤ confirmations) = false) :
    HasConfirmer state (Function.update voters sender true) := by
  apply hasConfirmer_of_short state held
  have below : ¬ state.requiredConfirmations ≤ confirmations := of_decide_eq_false waits
  rw [BitVec.not_le, BitVec.lt_def, counted] at below
  rw [tally_mark _ _ fresh]
  exact below

theorem PegInStep.confirmer {message : Message} {btcTxHash : Bytes32} {recipient : Address}
    {amount : Uint256} {before after : State token} {events : List Event}
    {confirmations : Uint256} {executed : Bool} {ledger : token.Ledger}
    (step : PegInStep bridge message btcTxHash recipient amount before after events confirmations
      executed ledger) (sound : Sound before)
    (confirmer : ∀ voters, Waiting before voters → HasConfirmer before voters)
    (voters : Address → Bool) (waiting : Waiting after voters) : HasConfirmer after voters := by
  have relayers : after.relayers = before.relayers := by rw [step.after_eq]; rfl
  rw [HasConfirmer, relayers]
  rw [step.after_eq] at waiting
  cases waiting with
  | pegOut id made pending => exact confirmer _ (.pegOut id made pending)
  | pegIn other voted pending =>
    by_cases same : other = btcTxHash
    · subst same
      simp only [Function.update_self] at pending ⊢
      rw [step.decided] at pending
      apply hasConfirmer_of_waits sound.relayers step.fresh ?_ pending
      rw [step.counted, sound.pegIns.counted]
    · simp only [Function.update_of_ne same] at voted pending ⊢
      exact confirmer _ (.pegIn other voted pending)

theorem PegOutStep.confirmer {message : Message} {id : Uint256} {before after : State token}
    {events : List Event} {confirmations : Uint256} {executed : Bool}
    {withdrawn resetDay : Uint256}
    (step : PegOutStep message id before after events confirmations executed withdrawn resetDay)
    (sound : Sound before)
    (confirmer : ∀ voters, Waiting before voters → HasConfirmer before voters)
    (voters : Address → Bool) (waiting : Waiting after voters) : HasConfirmer after voters := by
  have relayers : after.relayers = before.relayers := by rw [step.after_eq]; rfl
  rw [HasConfirmer, relayers]
  rw [step.after_eq] at waiting
  cases waiting with
  | pegIn btcTxHash voted pending => exact confirmer _ (.pegIn btcTxHash voted pending)
  | pegOut other made pending =>
    by_cases same : other = id
    · subst same
      simp only [Function.update_self] at pending ⊢
      rw [step.decided] at pending
      apply hasConfirmer_of_waits sound.relayers step.fresh ?_ pending
      rw [step.counted, sound.pegOuts.counted other made]
    · simp only [Function.update_of_ne same] at pending ⊢
      exact confirmer _ (.pegOut other made pending)

/-- A new request has no voters, and there is a relayer. -/
theorem RequestStep.confirmer {message : Message} {amount : Uint256} {btcAddress : String}
    {before after : State token} {events : List Event} {nextPegOutId : Uint256}
    {ledger : token.Ledger}
    (step : RequestStep bridge message amount btcAddress before after events nextPegOutId ledger)
    (sound : Sound before)
    (confirmer : ∀ voters, Waiting before voters → HasConfirmer before voters)
    (voters : Address → Bool) (waiting : Waiting after voters) : HasConfirmer after voters := by
  have advanced := step.advanced
  have relayers : after.relayers = before.relayers := by rw [step.after_eq]; rfl
  rw [HasConfirmer, relayers]
  rw [step.after_eq] at waiting
  cases waiting with
  | pegIn btcTxHash voted pending => exact confirmer _ (.pegIn btcTxHash voted pending)
  | pegOut other made pending =>
    by_cases fresh : other = before.nextPegOutId
    · subst fresh
      have blank := (sound.pegOuts.unmade _ (Nat.le_refl _)).1
      apply hasConfirmer_of_short before sound.relayers
      have none_voted := (tally_eq_zero _).mpr blank
      have positive := sound.relayers.threshold_pos
      dsimp only
      omega
    · have older : other.toNat < before.nextPegOutId.toNat := by
        have different : other.toNat ≠ before.nextPegOutId.toNat := fun same =>
          fresh (BitVec.eq_of_toNat_eq same)
        dsimp only at made
        omega
      simp only [Function.update_of_ne fresh] at pending
      exact confirmer _ (.pegOut other older pending)

theorem Step.relayers {message : Message} {before after : State token} {events : List Event}
    {call : Call} (step : Step bridge message before after events call)
    (plain : call.administrative = false) : after.relayers = before.relayers := by
  cases step with
  | pegIn _ _ _ _ _ _ step => rw [step.after_eq]; rfl
  | request _ _ _ _ step => rw [step.after_eq]; rfl
  | pegOut _ _ _ _ _ step => rw [step.after_eq]; rfl
  | admin _ admin =>
    rw [admin] at plain
    cases plain
  | ledger _ _ _ after_eq => rw [after_eq]; rfl

/-- Revoking the role of somebody who is no relayer leaves the relayers as they are. -/
theorem relayers_revoke_absent (state : State token) (role : Role) (account sender : Address)
    (absent : role = .relayer → state.relayers account = false) :
    (state.roles.revoke role account sender).1.hasRole .relayer = state.relayers := by
  by_cases relayer : role = .relayer
  · subst relayer
    rw [relayers_revoke, ← absent rfl, Function.update_eq_self]
  · exact relayers_revoke_other state role relayer account sender

/-- A grant takes nobody out of the relayers. -/
theorem relayers_grant_kept (state : State token) (role : Role) (account sender : Address)
    {other : Address} (member : state.relayers other = true) :
    (state.roles.grant role account sender).1.hasRole .relayer other = true := by
  by_cases relayer : role = .relayer
  · subst relayer
    rw [relayers_grant]
    by_cases same : other = account
    · rw [same, Function.update_self]
    · rw [Function.update_of_ne same]
      exact member
  · rw [relayers_grant_other state role relayer]
    exact member

/-- Within the domain of `keepsRelayerCount` the relayer set moves only by additions and
removals. -/
theorem relayers_moved (transaction : Transaction bridge) (before after : State token)
    (events : List Event) (accepted : transact bridge transaction before = .ok (after, events))
    (kept : keepsRelayerCount bridge before transaction) :
    (∃ relayer, transaction.call = .removeRelayer relayer ∧
      after.relayers = Function.update before.relayers relayer false) ∨
    ((∀ relayer, transaction.call ≠ .removeRelayer relayer) ∧
      ∀ relayer, before.relayers relayer = true → after.relayers relayer = true) := by
  have step := transact_step bridge transaction before after events accepted
  obtain ⟨message, call, outside⟩ := transaction
  cases call with
  | removeRelayer relayer =>
    obtain ⟨-, _, -, -, rfl, -⟩ := removeRelayer_ok message relayer before after events accepted
    exact Or.inl ⟨relayer, rfl, relayers_revoke before relayer message.sender⟩
  | addRelayer relayer =>
    obtain ⟨-, _, -, rfl, -⟩ := addRelayer_ok message relayer before after events accepted
    refine Or.inr ⟨by simp, ?_⟩
    intro other member
    exact relayers_grant_kept before .relayer relayer message.sender member
  | grantRole role account =>
    obtain ⟨changed, attempt, rfl, -⟩ := withRoles_ok before after _ events accepted
    obtain ⟨-, rfl⟩ := (AccessControl.grantRole_eq_ok _ _ _ _ _ _).mp attempt
    refine Or.inr ⟨by simp, ?_⟩
    intro other member
    exact relayers_grant_kept before role account message.sender member
  | revokeRole role account =>
    obtain ⟨changed, attempt, rfl, -⟩ := withRoles_ok before after _ events accepted
    obtain ⟨-, rfl⟩ := (AccessControl.revokeRole_eq_ok _ _ _ _ _ _).mp attempt
    have absent : role = .relayer → before.relayers account = false := by
      rintro rfl
      exact kept
    refine Or.inr ⟨by simp, fun other member => ?_⟩
    rw [State.relayers, relayers_revoke_absent before role account message.sender absent]
    exact member
  | renounceRole role callerConfirmation =>
    obtain ⟨changed, attempt, rfl, -⟩ := withRoles_ok before after _ events accepted
    obtain ⟨-, rfl⟩ := (AccessControl.renounceRole_eq_ok _ _ _ _ _).mp attempt
    have absent : role = .relayer → before.relayers callerConfirmation = false := by
      rintro rfl
      exact kept
    refine Or.inr ⟨by simp, fun other member => ?_⟩
    rw [State.relayers,
      relayers_revoke_absent before role callerConfirmation message.sender absent]
    exact member
  | setThreshold newThreshold =>
    obtain ⟨-, -, rfl, -⟩ := setThreshold_ok message newThreshold before after events accepted
    exact Or.inr ⟨by simp, fun _ member => member⟩
  | setLimits newPerTxLimit newDailyLimit =>
    obtain ⟨rfl, -⟩ := setLimits_ok message newPerTxLimit newDailyLimit before after events accepted
    exact Or.inr ⟨by simp, fun _ member => member⟩
  | pause =>
    obtain ⟨rfl, -⟩ := pause_ok message before after events accepted
    exact Or.inr ⟨by simp, fun _ member => member⟩
  | unpause =>
    obtain ⟨rfl, -⟩ := unpause_ok message before after events accepted
    exact Or.inr ⟨by simp, fun _ member => member⟩
  | confirmPegIn | requestPegOut | confirmPegOut | wrappedBtc =>
    refine Or.inr ⟨by simp, ?_⟩
    intro relayer member
    rw [show after.relayers = before.relayers from step.relayers rfl]
    exact member

/-- Everything but a removal keeps a confirmer for every pending request. -/
theorem transact_confirmer_iff (transaction : Transaction bridge) (before after : State token)
    (events : List Event) (sound : Sound before)
    (confirmer : ∀ voters, Waiting before voters → HasConfirmer before voters)
    (kept : keepsRelayerCount bridge before transaction)
    (accepted : transact bridge transaction before = .ok (after, events)) :
    (∀ voters, Waiting after voters → HasConfirmer after voters) ↔
      leavesConfirmer bridge before transaction := by
  have step := transact_step bridge transaction before after events accepted
  have moved := relayers_moved transaction before after events accepted kept
  obtain ⟨message, call, outside⟩ := transaction
  rcases step.pegOut_cases with
    ⟨_, _, _, _, rfl, request⟩ | ⟨_, _, _, _, _, rfl, confirmation⟩ | pegOuts
  · exact iff_of_true (request.confirmer sound confirmer) trivial
  · exact iff_of_true (confirmation.confirmer sound confirmer) trivial
  rcases step.pegIn_cases with ⟨_, _, _, _, _, _, rfl, vote⟩ | pegIns
  · exact iff_of_true (vote.confirmer sound confirmer) trivial
  have same := waiting_iff pegIns pegOuts
  rcases moved with ⟨relayer, rfl, relayers⟩ | ⟨not_removed, kept_relayers⟩
  · apply forall_congr'
    intro voters
    rw [same voters, HasConfirmer, relayers]
    apply imp_congr_right
    intro waiting
    apply exists_congr
    intro other
    by_cases removed : other = relayer
    · simp [removed]
    · simp [removed]
  · have unconstrained : leavesConfirmer bridge before ⟨message, call, outside⟩ := by
      unfold leavesConfirmer
      split
      · rename_i relayer called
        exact absurd called (not_removed relayer)
      · trivial
    refine iff_of_true ?_ unconstrained
    intro voters waiting
    obtain ⟨relayer, member, unconfirmed⟩ := confirmer voters ((same voters).mp waiting)
    exact ⟨relayer, kept_relayers relayer member, unconfirmed⟩

/-- What a confirmation of a peg-out needs, besides a relayer who has not confirmed. -/
structure PegOutReady (time : Uint256) (id : Uint256) (state : State token) : Prop where
  running : state.paused = false
  outside : state.entered = false
  pending : (state.pegOutRequests id).executed = false
  elapsed : (state.pegOutRequests id).requestedAt.toNat + 3600 ≤ time.toNat
  within : state.meter.read (time.toNat / 86400) + (state.pegOutRequests id).amount.toNat ≤
    state.dailyLimit.toNat

theorem executePegOut_accepts (message : Message) (id : Uint256) (before : State token)
    (within : before.meter.read message.today.toNat + (before.pegOutRequests id).amount.toNat ≤
      before.dailyLimit.toNat) :
    ∃ result, executePegOut message id before = .ok result := by
  have limit := before.dailyLimit.isLt
  have charged : (BitVec.ofNat 256 (before.meter.read message.today.toNat +
      (before.pegOutRequests id).amount.toNat)).toNat = before.meter.read message.today.toNat +
        (before.pegOutRequests id).amount.toNat := by
    rw [BitVec.toNat_ofNat]
    exact Nat.mod_eq_of_lt (by omega)
  have limited := (enforceDailyLimit_ok message (before.pegOutRequests id).amount before _).mpr
    ⟨_, charged, by rw [charged]; exact within, rfl⟩
  simp only [executePegOut]
  rw [bind_of_ok _ _ _ limited]
  exact ⟨_, rfl⟩

theorem confirmPegOut_accepts (time : Uint256) (id : Uint256) (relayer : Address)
    (before : State token) (ready : PegOutReady time id before)
    (member : before.roles.hasRole .relayer relayer = true)
    (fresh : before.pegOutConfirmedBy id relayer = false)
    (room : (before.pegOutRequests id).confirmations.toNat + 1 < 2 ^ 256) :
    ∃ after events, confirmPegOut ⟨relayer, time⟩ id before = .ok (after, events) := by
  have small := (before.pegOutRequests id).requestedAt.isLt
  obtain ⟨unlocked, unlocked_eq, sum⟩ := @checkedAdd_of_fits Role Error
    ((before.pegOutRequests id).requestedAt.setWidth 256) pegOutTimelock
    (by simp [pegOutTimelock]; omega)
  obtain ⟨confirmations, confirmations_eq, counted⟩ := @checkedAdd_of_fits Role Error
    (before.pegOutRequests id).confirmations 1#256 (by simpa using room)
  have late : ¬ time < unlocked := by
    rw [BitVec.not_lt, BitVec.le_def, unlocked_toNat _ _ sum]
    exact ready.elapsed
  simp only [confirmPegOut, bind_eq_ok, onlyRole_eq_ok, whenNotPaused_eq_ok, nonReentrant_eq_ok,
    require_eq_ok, unlocked_eq, confirmations_eq, exists_and_left, exists_const,
    Except.ok.injEq, exists_eq_left']
  refine ⟨member, ready.running, ready.outside, by simp [ready.pending], by simp [fresh], late, ?_⟩
  split
  · obtain ⟨executed, done⟩ := executePegOut_accepts ⟨relayer, time⟩ id
      { before with
        entered := true
        pegOutRequests := Function.update before.pegOutRequests id
          { before.pegOutRequests id with confirmations := confirmations }
        pegOutConfirmedBy := Function.update before.pegOutConfirmedBy id
          (Function.update (before.pegOutConfirmedBy id) relayer true) }
      (by simpa [State.meter] using ready.within)
    rw [bind_of_ok _ _ executed done]
    exact ⟨_, _, rfl⟩
  · exact ⟨_, _, rfl⟩

/-- The state after `relayer` confirms the peg-out `id` at `time`. -/
def confirmPegOutBy (time : Uint256) (id : Uint256) (state : State token) (relayer : Address) :
    Except (Revert Role Error) (State token) := do
  let confirmed ← confirmPegOut ⟨relayer, time⟩ id state
  pure confirmed.1

/-- There are far fewer accounts than a counter can count. -/
theorem tally_lt_word (mapping : Address → Bool) : tally mapping + 1 < 2 ^ 256 := by
  have card : Nat.card Address ≤ 2 ^ 160 := by
    have injective := Nat.card_le_card_of_injective BitVec.toFin
      (BitVec.toFin_injective : Function.Injective (BitVec.toFin : Address → Fin (2 ^ 160)))
    rwa [Nat.card_fin] at injective
  have bound : tally mapping ≤ 2 ^ 160 := le_trans (Set.ncard_le_card (marked mapping)) card
  have small : (2 : Nat) ^ 160 + 1 < 2 ^ 256 := by decide
  omega

/-- What a vote does to the request it is for. -/
structure VoteTaken (voters : State token → Address → Bool) (votes : State token → Nat)
    (executed : State token → Bool) (relayer : Address) (before after : State token) : Prop where
  relayers : after.relayers = before.relayers
  required : after.requiredConfirmations = before.requiredConfirmations
  marked : voters after = Function.update (voters before) relayer true
  counted : votes after = votes before + 1
  decided : executed after = decide (before.requiredConfirmations.toNat ≤ votes before + 1)

/-- Relayers who vote for a request one after the other execute it, where each vote is taken and
one that does not execute leaves the request ready for the next. -/
theorem votes_execute {ε : Type} (confirm : State token → Address → Except ε (State token))
    (voters : State token → Address → Bool) (votes : State token → Nat)
    (executed : State token → Bool) (ready : State token → Prop)
    (taken : ∀ now relayer, ready now → now.relayers relayer = true →
      voters now relayer = false → votes now + 1 < 2 ^ 256 →
      ∃ after, confirm now relayer = .ok after ∧
        VoteTaken voters votes executed relayer now after ∧ (executed after = false → ready after))
    (state : State token) (isReady : ready state) (counted : votes state = tally (voters state))
    (carriable : Carriable state.relayers (voters state) (votes state)
      state.requiredConfirmations.toNat) :
    ∃ (relayers : List Address) (after : State token),
      (∀ relayer ∈ relayers, state.relayers relayer = true) ∧
      relayers.foldlM confirm state = .ok after ∧ executed after = true := by
  apply Carriable.carried confirm state.relayers state.requiredConfirmations.toNat
    (fun now marked count => now.relayers = state.relayers ∧
      now.requiredConfirmations = state.requiredConfirmations ∧ ready now ∧
      voters now = marked ∧ votes now = count ∧ count = tally marked)
    (fun now => executed now = true) ?_ state _ _ ⟨rfl, rfl, isReady, rfl, rfl, counted⟩ carriable
  rintro now _ _ relayer ⟨relayers, required, still, rfl, rfl, same⟩ member unvoted
  rw [← relayers] at member
  have room := tally_lt_word (voters now)
  rw [← same] at room
  obtain ⟨after, accepted, vote, next⟩ := taken now relayer still member unvoted room
  have decided := vote.decided
  rw [required] at decided
  refine ⟨after, accepted, ?_, ?_⟩
  · intro short
    have waits : executed after = false := by
      rw [decided]
      exact decide_eq_false (by omega)
    refine ⟨vote.relayers.trans relayers, vote.required.trans required, next waits, vote.marked,
      vote.counted, ?_⟩
    rw [tally_mark _ _ unvoted, same]
  · intro reached
    rw [decided]
    exact decide_eq_true reached

/-- A confirmation that does not execute leaves the peg-out ready for the next one. -/
theorem PegOutStep.ready {time : Uint256} {id : Uint256} {relayer : Address}
    {before after : State token} {events : List Event} {confirmations : Uint256} {executed : Bool}
    {withdrawn resetDay : Uint256}
    (step : PegOutStep ⟨relayer, time⟩ id before after events confirmations executed withdrawn
      resetDay) (ready : PegOutReady time id before) (waits : executed = false) :
    PegOutReady time id after := by
  have unlimited := step.limited
  rw [waits] at unlimited
  obtain ⟨rfl, rfl⟩ := unlimited
  rw [step.after_eq]
  refine ⟨ready.running, rfl, ?_, ?_, ?_⟩
  · simp only [Function.update_self]
    exact waits
  · simp only [Function.update_self]
    exact ready.elapsed
  · simp only [Function.update_self]
    exact ready.within

/-- Relayers who confirm a ready peg-out one after the other execute it. -/
theorem pegOut_executes (state : State token) (time : Uint256) (id : Uint256)
    (ready : PegOutReady time id state)
    (counted : (state.pegOutRequests id).confirmations.toNat = tally (state.pegOutConfirmedBy id))
    (carriable : Carriable state.relayers (state.pegOutConfirmedBy id)
      (state.pegOutRequests id).confirmations.toNat state.requiredConfirmations.toNat) :
    ∃ (relayers : List Address) (after : State token),
      (∀ relayer ∈ relayers, state.relayers relayer = true) ∧
      relayers.foldlM (confirmPegOutBy time id) state = .ok after ∧
      (after.pegOutRequests id).executed = true := by
  refine votes_execute (confirmPegOutBy time id) (fun now => now.pegOutConfirmedBy id)
    (fun now => (now.pegOutRequests id).confirmations.toNat)
    (fun now => (now.pegOutRequests id).executed) (PegOutReady time id) ?_ state ready counted
    carriable
  intro now relayer still member unvoted room
  obtain ⟨after, events, accepted⟩ :=
    confirmPegOut_accepts time id relayer now still member unvoted room
  obtain ⟨confirmations, executed, withdrawn, resetDay, step⟩ :=
    confirmPegOut_ok ⟨relayer, time⟩ id now after events accepted
  refine ⟨after, ?_, ?_, ?_⟩
  · rw [confirmPegOutBy, bind_of_ok _ _ _ accepted]
    rfl
  · rw [step.after_eq]
    refine ⟨rfl, rfl, ?_, ?_, ?_⟩
    · simp only [Function.update_self]
    · simp only [Function.update_self]
      exact step.counted
    · simp only [Function.update_self, step.decided, BitVec.le_def, step.counted]
  · intro waits
    apply step.ready still
    rw [step.after_eq] at waits
    simpa only [Function.update_self] using waits

/-- What a vote for a peg-in needs, besides a relayer who has not voted: the payment that
the request describes goes through. -/
structure PegInReady (bridge : Address) (btcTxHash : Bytes32) (recipient : Address)
    (amount : Uint256) (state : State token) : Prop where
  running : state.paused = false
  outside : state.entered = false
  pending : (state.pegInRequests btcTxHash).executed = false
  payable : ∃ ledger, token.transfer bridge
    ((state.pegInRequests btcTxHash).describe recipient amount).recipient
    ((state.pegInRequests btcTxHash).describe recipient amount).amount state.wrappedBtc = .ok ledger

/-- The state after `relayer` votes for paying `amount` to `recipient`. -/
def confirmPegInBy (bridge : Address) (time : Uint256) (btcTxHash : Bytes32) (recipient : Address)
    (amount : Uint256) (state : State token) (relayer : Address) :
    Except (Revert Role Error) (State token) := do
  let confirmed ← confirmPegIn bridge ⟨relayer, time⟩ btcTxHash recipient amount state
  pure confirmed.1

theorem confirmPegIn_accepts (message : Message) (btcTxHash : Bytes32) (recipient : Address)
    (amount : Uint256) (before : State token)
    (ready : PegInReady bridge btcTxHash recipient amount before)
    (member : before.roles.hasRole .relayer message.sender = true)
    (fresh : before.pegInConfirmedBy btcTxHash message.sender = false)
    (room : (before.pegInRequests btcTxHash).confirmations.toNat + 1 < 2 ^ 256) :
    ∃ after events,
      confirmPegIn bridge message btcTxHash recipient amount before = .ok (after, events) := by
  obtain ⟨ledger, paid⟩ := ready.payable
  obtain ⟨confirmations, confirmations_eq, -⟩ := @checkedAdd_of_fits Role Error
    (before.pegInRequests btcTxHash).confirmations 1#256 (by simpa using room)
  simp only [confirmPegIn, bind_eq_ok, onlyRole_eq_ok, whenNotPaused_eq_ok, nonReentrant_eq_ok,
    require_eq_ok, describe_confirmations, confirmations_eq, exists_and_left, exists_const,
    Except.ok.injEq, exists_eq_left']
  refine ⟨member, ready.running, ready.outside, by simp [ready.pending], by simp [fresh], ?_⟩
  split
  · simp only [executePegIn, Function.update_self, paid, requireTransfer]
    exact ⟨_, _, rfl⟩
  · exact ⟨_, _, rfl⟩

/-- Describing a request again does not change what it says. -/
theorem describe_describe (stored : PegInRequest) (recipient : Address) (amount : Uint256) :
    (stored.describe recipient amount).describe recipient amount =
      stored.describe recipient amount := by
  unfold PegInRequest.describe
  by_cases unset : stored.recipient = Address.zero
  · simp only [unset, ↓reduceIte]
    split <;> rfl
  · simp only [unset, ↓reduceIte]

/-- The counter and the flag are no part of the description. -/
theorem describe_counters (stored : PegInRequest) (recipient : Address) (amount : Uint256)
    (confirmations : Uint256) (executed : Bool) :
    PegInRequest.describe { stored with confirmations := confirmations, executed := executed }
        recipient amount =
      { stored.describe recipient amount with
        confirmations := confirmations, executed := executed } := by
  unfold PegInRequest.describe
  split <;> rfl

theorem PegInStep.ready {message : Message} {btcTxHash : Bytes32} {recipient : Address}
    {amount : Uint256} {before after : State token} {events : List Event}
    {confirmations : Uint256} {executed : Bool} {ledger : token.Ledger}
    (step : PegInStep bridge message btcTxHash recipient amount before after events confirmations
      executed ledger) (ready : PegInReady bridge btcTxHash recipient amount before)
    (waits : executed = false) : PegInReady bridge btcTxHash recipient amount after := by
  have unpaid := step.paid
  rw [waits] at unpaid
  rw [step.after_eq]
  refine ⟨ready.running, rfl, ?_, ?_⟩
  · simp only [Function.update_self]
    exact waits
  · simp only [Function.update_self, describe_counters, describe_describe]
    rw [show ledger = before.wrappedBtc from unpaid]
    exact ready.payable

/-- Relayers who vote for a payable peg-in one after the other execute it. -/
theorem pegIn_executes (state : State token) (time : Uint256) (btcTxHash : Bytes32)
    (recipient : Address) (amount : Uint256)
    (ready : PegInReady bridge btcTxHash recipient amount state)
    (counted : (state.pegInRequests btcTxHash).confirmations.toNat =
      tally (state.pegInConfirmedBy btcTxHash))
    (carriable : Carriable state.relayers (state.pegInConfirmedBy btcTxHash)
      (state.pegInRequests btcTxHash).confirmations.toNat state.requiredConfirmations.toNat) :
    ∃ (relayers : List Address) (after : State token),
      (∀ relayer ∈ relayers, state.relayers relayer = true) ∧
      relayers.foldlM (confirmPegInBy bridge time btcTxHash recipient amount) state = .ok after ∧
      (after.pegInRequests btcTxHash).executed = true := by
  refine votes_execute (confirmPegInBy bridge time btcTxHash recipient amount)
    (fun now => now.pegInConfirmedBy btcTxHash)
    (fun now => (now.pegInRequests btcTxHash).confirmations.toNat)
    (fun now => (now.pegInRequests btcTxHash).executed)
    (PegInReady bridge btcTxHash recipient amount) ?_ state ready counted carriable
  intro now relayer still member unvoted room
  obtain ⟨after, events, accepted⟩ :=
    confirmPegIn_accepts ⟨relayer, time⟩ btcTxHash recipient amount now still member unvoted room
  obtain ⟨confirmations, executed, ledger, step⟩ :=
    confirmPegIn_ok bridge ⟨relayer, time⟩ btcTxHash recipient amount now after events accepted
  refine ⟨after, ?_, ?_, ?_⟩
  · rw [confirmPegInBy, bind_of_ok _ _ _ accepted]
    rfl
  · rw [step.after_eq]
    refine ⟨rfl, rfl, ?_, ?_, ?_⟩
    · simp only [Function.update_self]
    · simp only [Function.update_self]
      exact step.counted
    · simp only [Function.update_self, step.decided, BitVec.le_def, step.counted]
  · intro waits
    apply step.ready still
    rw [step.after_eq] at waits
    simpa only [Function.update_self] using waits

/-- The lock is free between transactions. -/
theorem Step.outside {message : Message} {before after : State token} {events : List Event}
    {call : Call} (step : Step bridge message before after events call)
    (outside : before.entered = false) : after.entered = false := by
  cases step with
  | pegIn _ _ _ _ _ _ step => rw [step.after_eq]
  | request _ _ _ _ step => rw [step.after_eq]
  | pegOut _ _ _ _ _ step => rw [step.after_eq]
  | admin _ _ _ _ _ _ _ _ after_eq =>
    rw [after_eq]
    exact outside
  | ledger _ _ _ after_eq =>
    rw [after_eq]
    exact outside

theorem transact_sound_iff (transaction : Transaction bridge) (before after : State token)
    (events : List Event) (sound : Sound before)
    (accepted : transact bridge transaction before = .ok (after, events)) :
    Sound after ↔ keepsRelayerCount bridge before transaction ∧
      confirmsRequested bridge before transaction := by
  have step := transact_step bridge transaction before after events accepted
  have relayers :=
    transact_relayerSet_iff bridge transaction before after events sound.relayers accepted
  have pegOuts := transact_books_iff transaction before after events sound.pegOuts accepted
  constructor
  · intro good
    exact ⟨relayers.mp good.relayers, pegOuts.mp good.pegOuts⟩
  · rintro ⟨kept, requested⟩
    exact ⟨relayers.mpr kept, pegOuts.mpr requested, step.pegInBooks sound.pegIns,
      step.outside sound.outside⟩

/-- One step keeps a sound state sound and its requests open exactly when it meets the
three conditions. -/
theorem transact_unstuck_iff (transaction : Transaction bridge) (before after : State token)
    (events : List Event) (held : Sound before ∧ Unstuck before)
    (accepted : transact bridge transaction before = .ok (after, events)) :
    Sound after ∧ Unstuck after ↔ (keepsRelayerCount bridge before transaction ∧
      confirmsRequested bridge before transaction) ∧ leavesConfirmer bridge before transaction := by
  obtain ⟨sound, unstuck⟩ := held
  have confirmer := (unstuck_iff before sound).mp unstuck
  rw [← transact_sound_iff transaction before after events sound accepted]
  apply and_congr_right
  intro good
  have conditions := (transact_sound_iff transaction before after events sound accepted).mp good
  rw [unstuck_iff after good]
  exact transact_confirmer_iff transaction before after events sound confirmer conditions.1 accepted

theorem deployed_sound {message : Message} {wrappedBtc : token.Ledger} {admin : Address}
    {initialRelayers : List Address} {threshold : Uint256} {start : State token}
    (deployed : Deployed message wrappedBtc admin initialRelayers threshold start)
    (distinct : initialRelayers.Nodup) : Sound start ∧ Unstuck start := by
  have fits : initialRelayers.length < 2 ^ 256 := by
    have size := tally_lt_word start.relayers
    rw [deployed_relayers message wrappedBtc admin initialRelayers threshold start deployed,
      List.toFinset_card_of_nodup distinct] at size
    omega
  have relayers := (deployed_relayerSet_iff message wrappedBtc admin initialRelayers threshold
    start fits deployed).mpr distinct
  refine ⟨⟨relayers, deployed_books deployed, deployed_pegInBooks deployed, deployed.outside⟩,
    ?_, ?_⟩
  · intro id made
    rw [deployed.nextPegOutId] at made
    exact absurd made (Nat.not_lt_zero _)
  · intro btcTxHash voted
    rw [deployed.pegInRequests] at voted
    exact absurd voted (Nat.lt_irrefl 0)

/-- Current relayers can execute every pending request: a peg-out once unpaused, past its
timelock and within the daily limit, a peg-in once unpaused and payable. -/
structure Executable (bridge : Address) (state : State token) : Prop where
  pegOuts : ∀ id time, id.toNat < state.nextPegOutId.toNat →
    (state.pegOutRequests id).executed = false → state.paused = false →
    (state.pegOutRequests id).requestedAt.toNat + 3600 ≤ time.toNat →
    state.meter.read (time.toNat / 86400) + (state.pegOutRequests id).amount.toNat ≤
      state.dailyLimit.toNat →
    ∃ (relayers : List Address) (after : State token),
      (∀ relayer ∈ relayers, state.relayers relayer = true) ∧
      relayers.foldlM (confirmPegOutBy time id) state = .ok after ∧
      (after.pegOutRequests id).executed = true
  pegIns : ∀ btcTxHash time recipient amount,
    0 < (state.pegInRequests btcTxHash).confirmations.toNat →
    (state.pegInRequests btcTxHash).executed = false → state.paused = false →
    (∃ ledger, token.transfer bridge
      ((state.pegInRequests btcTxHash).describe recipient amount).recipient
      ((state.pegInRequests btcTxHash).describe recipient amount).amount state.wrappedBtc =
        .ok ledger) →
    ∃ (relayers : List Address) (after : State token),
      (∀ relayer ∈ relayers, state.relayers relayer = true) ∧
      relayers.foldlM (confirmPegInBy bridge time btcTxHash recipient amount) state = .ok after ∧
      (after.pegInRequests btcTxHash).executed = true

theorem Unstuck.executable {state : State token} (unstuck : Unstuck state) (sound : Sound state) :
    Executable bridge state := by
  refine ⟨?_, ?_⟩
  · intro id time made pending running elapsed within
    apply pegOut_executes state time id ⟨running, sound.outside, pending, elapsed, within⟩
    · exact sound.pegOuts.counted id made
    · exact unstuck.pegOuts id made pending
  · intro btcTxHash time recipient amount voted pending running payable
    apply pegIn_executes state time btcTxHash recipient amount
      ⟨running, sound.outside, pending, payable⟩
    · exact sound.pegIns.counted btcTxHash
    · exact unstuck.pegIns btcTxHash voted pending

/-- Where relayers are counted right and only requested peg-outs are confirmed, no request
ever gets stuck in exactly the runs whose removals leave every pending request a relayer
who has not confirmed it. -/
theorem unstuck_always_iff (bridge : Address) (message : Message) (wrappedBtc : token.Ledger)
    (admin : Address) (initialRelayers : List Address) (threshold : Uint256)
    (start : State token) (events : List Event)
    (accepted : deploy message wrappedBtc admin initialRelayers threshold = .ok (start, events))
    (distinct : initialRelayers.Nodup) (transactions : List (Transaction bridge))
    (kept : Meets (keepsRelayerCount bridge) (history bridge start transactions).past)
    (requested : Meets (confirmsRequested bridge) (history bridge start transactions).past) :
    (Unstuck start ∧
      ((∀ entry ∈ (history bridge start transactions).past, Unstuck entry.after) ↔
        Meets (leavesConfirmer bridge) (history bridge start transactions).past)) ∧
    (Meets (leavesConfirmer bridge) (history bridge start transactions).past →
      Unstuck (history bridge start transactions).now ∧
        Executable bridge (history bridge start transactions).now) := by
  have deployed := deploy_ok message wrappedBtc admin initialRelayers threshold start events accepted
  have base := deployed_sound deployed distinct
  have conditions := (meets_and _ _ _).mpr ⟨kept, requested⟩
  have sound := (run_always_iff (transact bridge) start Sound _ base.1
    (fun now transaction after events held step =>
      transact_sound_iff transaction now after events held step) transactions).mpr conditions
  have both := run_always_iff (transact bridge) start (fun state => Sound state ∧ Unstuck state) _
    base (fun now transaction after events held step =>
      transact_unstuck_iff transaction now after events held step) transactions
  refine ⟨⟨base.2, ?_⟩, ?_⟩
  · constructor
    · intro unstuck
      have held := both.mp fun entry member => ⟨sound entry member, unstuck entry member⟩
      exact ((meets_and _ _ _).mp held).2
    · intro leaves entry member
      exact (both.mpr ((meets_and _ _ _).mpr ⟨conditions, leaves⟩) entry member).2
  · intro leaves
    have reached := run_of_meets (transact bridge) start (fun _ now => Sound now ∧ Unstuck now) _
      base (fun past now transaction after events held condition step =>
        (transact_unstuck_iff transaction now after events held step).mpr condition)
      transactions ((meets_and _ _ _).mpr ⟨conditions, leaves⟩)
    exact ⟨reached.2, reached.2.executable reached.1⟩

/-- A peg-out with one confirmation, then a relayer who has not confirmed it is removed. -/
def removalRun : List (Transaction 9#160) :=
  [⟨⟨1#160, 0#256⟩, .wrappedBtc (.approve 9#160 5#256), by decide⟩,
   ⟨⟨1#160, 0#256⟩, .requestPegOut 5#256 "bc1q", by decide⟩,
   ⟨⟨2#160, 3600#256⟩, .confirmPegOut 0#256, by decide⟩,
   ⟨⟨1#160, 3600#256⟩, .removeRelayer 4#160, by decide⟩]

/-- Of three relayers and threshold 2, another one still can confirm. -/
theorem unstuck_always_iff_removal :
    ∃ (start : State MockWbtc.token) (events : List Event),
      deploy ⟨1#160, 0#256⟩ (MockWbtc.create 1#160 50#256) 1#160 [2#160, 3#160, 4#160] 2#256 =
        .ok (start, events) ∧
      Unstuck (history 9#160 start removalRun).now := by
  refine ⟨_, _, rfl, ?_⟩
  refine ((@unstuck_always_iff MockWbtc.token 9#160 ⟨1#160, 0#256⟩ (MockWbtc.create 1#160 50#256)
    1#160 [2#160, 3#160, 4#160] 2#256 _ _ rfl (by decide) removalRun ?_ (by decide)).2
    ?_).1
  · intro entry member
    change entry ∈ [_, _, _, _] at member
    simp only [List.mem_cons, List.not_mem_nil, or_false] at member
    rcases member with rfl | rfl | rfl | rfl
    · trivial
    · trivial
    · trivial
    · rfl
  intro entry member
  change entry ∈ [_, _, _, _] at member
  simp only [List.mem_cons, List.not_mem_nil, or_false] at member
  rcases member with rfl | rfl | rfl | rfl
  · trivial
  · trivial
  · trivial
  · rintro voters (⟨id, made, -⟩ | ⟨btcTxHash, voted, -⟩)
    · change id.toNat < 1 at made
      have only : id = 0#256 := BitVec.eq_of_toNat_eq (by simpa using made)
      subst only
      exact ⟨3#160, by decide, by decide, by decide⟩
    · exact absurd voted (Nat.lt_irrefl 0)

/-- Two of three relayers confirm, the threshold is lowered to two, and the third relayer is
removed. -/
def stuckRun : List (Transaction 9#160) :=
  [⟨⟨1#160, 0#256⟩, .wrappedBtc (.approve 9#160 5#256), by decide⟩,
   ⟨⟨1#160, 0#256⟩, .requestPegOut 5#256 "bc1q", by decide⟩,
   ⟨⟨2#160, 3600#256⟩, .confirmPegOut 0#256, by decide⟩,
   ⟨⟨3#160, 3600#256⟩, .confirmPegOut 0#256, by decide⟩,
   ⟨⟨1#160, 3600#256⟩, .setThreshold 2#256, by decide⟩,
   ⟨⟨1#160, 3600#256⟩, .removeRelayer 4#160, by decide⟩]

/-- Everybody left has confirmed the peg-out, which is still waiting for a confirmation. -/
theorem unstuck_always_iff_stuck :
    ∃ (start : State MockWbtc.token) (events : List Event),
      deploy ⟨1#160, 0#256⟩ (MockWbtc.create 1#160 50#256) 1#160 [2#160, 3#160, 4#160] 3#256 =
        .ok (start, events) ∧
      [2#160, 3#160, 4#160].Nodup ∧
      Meets (keepsRelayerCount 9#160) (history 9#160 start stuckRun).past ∧
      Meets (confirmsRequested 9#160) (history 9#160 start stuckRun).past ∧
      ¬ Unstuck (history 9#160 start stuckRun).now := by
  refine ⟨_, _, rfl, by decide, ?_, by decide, fun unstuck => ?_⟩
  · intro entry member
    change entry ∈ [_, _, _, _, _, _] at member
    simp only [List.mem_cons, List.not_mem_nil, or_false] at member
    rcases member with rfl | rfl | rfl | rfl | rfl | rfl
    · trivial
    · trivial
    · trivial
    · trivial
    · trivial
    · rfl
  obtain ⟨relayer, member, unconfirmed⟩ :=
    (unstuck.pegOuts 0#256 (by decide) (by decide)).exists_absent
  -- two relayers are left, and both have confirmed
  change Function.update (Function.update (Function.update (Function.update (fun _ => false)
    2#160 true) 3#160 true) 4#160 true) 4#160 false relayer = true at member
  change Function.update (Function.update (fun _ => false) 2#160 true) 3#160 true relayer = false
    at unconfirmed
  by_cases removed : relayer = 4#160
  · simp [removed] at member
  · by_cases third : relayer = 3#160
    · simp [third] at unconfirmed
    · by_cases second : relayer = 2#160
      · simp [second] at unconfirmed
      · simp [removed, third, second] at member

end BigX.Bridge
