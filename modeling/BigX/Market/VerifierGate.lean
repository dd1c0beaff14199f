import BigX.Market.Steps

set_option autoImplicit false

/- Where a verifier is asked. `transferWithProof` asks it; the transfers that the token
contract inherits, and the marketplace through them, do not. -/
namespace BigX.Market

open Evm Run

/-- A token with a verifier that a move itself moved was moved by a `transferWithProof` of
that token, between these owners, to which the verifier agreed. -/
def VerifiedTransfer (entry : Run.Entry (Config Exchange ExchangeRest) (Move Transaction)
    (Effect (List ExchangeEvent))) : Prop :=
  ∀ tokenId, Nft.Moved entry.before.state.nft entry.after.state.nft tokenId →
    entry.output ≠ .undone →
    (entry.before.state.nft.agentMetadata tokenId).verifier ≠ Address.zero →
    ∃ transaction, entry.input = .call transaction ∧
      transaction.call = .nft (.transferWithProof (entry.before.state.nft.nft.owners tokenId)
        (entry.after.state.nft.nft.owners tokenId) tokenId (some true))

/-- A plain transfer finds no verifier to ask, or moves nothing. -/
def ungated (nft : Nft.State) (source target : Address) (tokenId : Uint256) : Prop :=
  (nft.agentMetadata tokenId).verifier = Address.zero ∨ source = Address.zero ∨ source = target

/-- Each transfer that is not a `transferWithProof` is of a token without a verifier. -/
def asksVerifier (config : Config Exchange ExchangeRest) (move : Move Transaction) : Prop :=
  match move with
  | .call transaction =>
      match transaction.call with
      | .nft (.transferFrom source target tokenId) => ungated config.state.nft source target tokenId
      | .nft (.safeTransferFrom source target tokenId) =>
          ungated config.state.nft source target tokenId
      | .market (.buy _ nftId) => ungated config.state.nft
          (config.state.market.listings nftId).seller transaction.message.sender nftId
      | _ => True
  | _ => True

/-- A transfer that asks nobody is as it should be exactly when there is nobody to ask. -/
theorem plain_transfer_iff {before after : Nft.State} {source target : Address}
    {tokenId : Uint256} (owned : before.nft.owners tokenId = source)
    (owners : after.nft.owners = Function.update before.nft.owners tokenId target) :
    (∀ moved, Nft.Moved before after moved →
        (before.agentMetadata moved).verifier = Address.zero) ↔
      ungated before source target tokenId := by
  constructor
  · intro held
    by_cases still : source = Address.zero ∨ source = target
    · exact Or.inr still
    · obtain ⟨real, other⟩ := not_or.mp still
      refine Or.inl (held tokenId ⟨owned ▸ real, ?_⟩)
      rw [owners, Function.update_self, owned]
      exact fun same => other same.symm
  · rintro free moved ⟨real, different⟩
    have same := Nft.moved_update owners ⟨real, different⟩
    subst same
    rcases free with unset | zero | still
    · exact unset
    · exact absurd (owned.trans zero) real
    · rw [owners, Function.update_self, owned] at different
      exact absurd still.symm different

/-- For a move that is no `transferWithProof`, being verified is having nobody to ask. -/
theorem verified_iff_of_other {before after : Config Exchange ExchangeRest}
    {transaction : Transaction} {effect : Effect (List ExchangeEvent)} (wrote : effect ≠ .undone)
    (other : ∀ source target tokenId answer,
      transaction.call ≠ .nft (.transferWithProof source target tokenId answer)) :
    VerifiedTransfer ⟨before, .call transaction, effect, after⟩ ↔
      ∀ tokenId, Nft.Moved before.state.nft after.state.nft tokenId →
        (before.state.nft.agentMetadata tokenId).verifier = Address.zero := by
  constructor
  · intro verified tokenId moved
    by_contra gated
    obtain ⟨called, same, proven⟩ := verified tokenId moved wrote gated
    cases same
    exact other _ _ _ _ proven
  · intro free tokenId moved _ gated
    exact absurd (free tokenId moved) gated

theorem nft_verified_iff {message : Message} {call : Nft.Call} (real : message.sender ≠ Address.zero)
    {before after : Config Exchange ExchangeRest} {effect : Effect (List ExchangeEvent)}
    {progress : Progress Nft.State Nft.Rest (List Nft.Event)}
    (accepted : Nft.enter ⟨message, call, real⟩ before.state.nft = .ok progress)
    (after_eq : after.state.nft = progress.state) (wrote : effect ≠ .undone) :
    VerifiedTransfer ⟨before, .call ⟨message, .nft call, real⟩, effect, after⟩ ↔
      asksVerifier before (.call ⟨message, .nft call, real⟩) := by
  cases call with
  | transferWithProof source target tokenId answer =>
    refine iff_of_true ?_ trivial
    intro moved changed _ gated
    obtain ⟨owned, -, owners⟩ := Nft.transferWithProof_ok accepted
    rw [after_eq] at changed
    have same := Nft.moved_update owners changed
    subst same
    have agreed := Nft.transferWithProof_verified accepted gated
    refine ⟨_, rfl, ?_⟩
    dsimp only
    rw [after_eq, owners, Function.update_self, owned, agreed]
  | transferFrom source target tokenId =>
    rw [verified_iff_of_other wrote (by simp), after_eq]
    obtain ⟨owned, owners, -⟩ := Nft.TokenMove.plain.owners accepted
    exact plain_transfer_iff owned owners
  | safeTransferFrom source target tokenId =>
    rw [verified_iff_of_other wrote (by simp), after_eq]
    obtain ⟨owned, owners, -⟩ := Nft.TokenMove.safe.owners accepted
    exact plain_transfer_iff owned owners
  | mintAgent | batchMintAgents | setVerifier | setTokenRoyalty | pause | unpause | approve |
    setApprovalForAll | grantRole | revokeRole | renounceRole =>
    refine iff_of_true ?_ trivial
    intro tokenId moved
    rw [after_eq] at moved
    obtain ⟨source, target, move⟩ := Nft.enter_moved accepted moved
    cases move

/-- The marketplace moves a token only when it is bought. -/
theorem market_verified_iff {market : Address} {message : Message} {call : Call}
    (real : message.sender ≠ Address.zero) {before after : Config Exchange ExchangeRest}
    {effect : Effect (List ExchangeEvent)}
    {progress : Progress Exchange ExchangeRest (List ExchangeEvent)}
    (accepted : enterMarket market message call before.state = .ok progress)
    (after_eq : after.state = progress.state) (wrote : effect ≠ .undone) :
    VerifiedTransfer ⟨before, .call ⟨message, .market call, real⟩, effect, after⟩ ↔
      asksVerifier before (.call ⟨message, .market call, real⟩) := by
  have still : after.state.nft = before.state.nft →
      (VerifiedTransfer ⟨before, .call ⟨message, .market call, real⟩, effect, after⟩ ↔ True) := by
    intro same
    refine iff_of_true ?_ trivial
    intro tokenId moved
    rw [same] at moved
    exact absurd moved (Nft.not_moved_of_owners rfl tokenId)
  have lifted : ∀ attempt, liftMarket before.state attempt = .ok progress →
      after.state.nft = before.state.nft := by
    intro attempt returned
    obtain ⟨inner, -, same⟩ := liftMarket_ok returned
    rw [after_eq, same, map_state]
  cases call with
  | buy value nftId =>
    obtain ⟨sale, step⟩ := buy_ok accepted
    rw [verified_iff_of_other wrote (by simp), after_eq]
    exact plain_transfer_iff step.owned step.owners
  | forced amount =>
    cases accepted
    exact still (by rw [after_eq]; rfl)
  | list nftId price => exact still (lifted _ accepted)
  | cancelListing nftId => exact still (lifted _ accepted)
  | setProtocolFee bps => exact still (lifted _ accepted)
  | grantRole role account => exact still (lifted _ accepted)
  | revokeRole role account => exact still (lifted _ accepted)
  | renounceRole role callerConfirmation => exact still (lifted _ accepted)

/-- What follows a hook or a payment moves no token. -/
theorem resume_not_moved {rest : ExchangeRest} {exchange : Exchange}
    {progress : Progress Exchange ExchangeRest (List ExchangeEvent)}
    (accepted : resumeExchange rest exchange = .ok progress) (tokenId : Uint256) :
    ¬ Nft.Moved exchange.nft progress.state.nft tokenId := by
  cases rest with
  | nft rest =>
    obtain ⟨inner, returned, same⟩ := liftNft_ok accepted
    rw [same, map_state]
    exact Nft.resume_not_moved returned tokenId
  | market rest =>
    obtain ⟨inner, -, same⟩ := liftMarket_ok accepted
    rw [same, map_state]
    exact Nft.not_moved_of_owners rfl tokenId
  | elsewhere =>
    cases accepted
    exact Nft.not_moved_of_owners rfl tokenId

/-- One accepted move is verified exactly when it meets the condition. -/
theorem step_verified_iff {market : Address} {move : Move Transaction}
    {before after : Config Exchange ExchangeRest} {effect : Effect (List ExchangeEvent)}
    (accepted : (machine market).step move before = .ok (after, effect)) :
    VerifiedTransfer ⟨before, move, effect, after⟩ ↔ asksVerifier before move := by
  cases effect with
  | undone =>
    refine iff_of_true (fun _ _ wrote => absurd rfl wrote) ?_
    cases move with
    | call transaction =>
      exact absurd rfl ((machine market).step_undone _ before after accepted transaction)
    | returned => trivial
    | failed => trivial
  | wrote output =>
    rcases (machine market).step_wrote move before after output accepted with
      ⟨⟨message, call, real⟩, progress, rfl, entered, after_eq⟩ |
      ⟨frame, progress, rfl, -, resumed, after_eq⟩
    · cases call with
      | nft call =>
        obtain ⟨inner, returned, same⟩ := liftNft_ok entered
        exact nft_verified_iff real returned (by rw [after_eq, same, map_state]) (by simp)
      | market call => exact market_verified_iff real entered after_eq (by simp)
      | elsewhere =>
        cases entered
        refine iff_of_true ?_ trivial
        intro tokenId moved
        rw [after_eq] at moved
        exact absurd moved (Nft.not_moved_of_owners rfl tokenId)
    · refine iff_of_true ?_ trivial
      intro tokenId moved
      rw [after_eq] at moved
      exact absurd moved (resume_not_moved resumed tokenId)

/-- In the runs from any state, a deployed one among them, every transfer of a token with a
verifier was agreed to by it exactly when each plain transfer and each purchase is of a token
without one. -/
theorem transfers_verified_iff (market : Address) (start : Exchange)
    (moves : List (Move Transaction)) :
    (∀ entry ∈ (history market start moves).past, VerifiedTransfer entry) ↔
      Meets asksVerifier (history market start moves).past :=
  run_entries_iff (machine market).step _ VerifiedTransfer asksVerifier
    (fun _ _ _ _ accepted => step_verified_iff accepted) moves

/-- Account 5 gets token 0, sets a verifier for it, and sends it to account 6 with the
inherited `transferFrom`. -/
theorem transfers_verified_plain :
    ∃ (nft : Nft.State) (events : List Nft.Event),
      Nft.deploy ⟨1#160, 0#256⟩ 1#160 2#160 500#96 = .ok (nft, events) ∧
      ¬ ∀ entry ∈ (history 20#160 ⟨nft, (deploy ⟨1#160, 0#256⟩ 1#160 3#160 0).1⟩
        [.call ⟨⟨1#160, 0#256⟩, .nft (.mintAgent ⟨5#160, "ipfs://agent", 7#256⟩), by decide⟩,
         .returned,
         .call ⟨⟨5#160, 0#256⟩, .nft (.setVerifier 0#256 8#160), by decide⟩,
         .call ⟨⟨5#160, 0#256⟩, .nft (.transferFrom 5#160 6#160 0#256), by decide⟩]).past,
        VerifiedTransfer entry := by
  refine ⟨_, _, rfl, fun verified => ?_⟩
  have plain := verified _ (@List.getElem_mem _ _ 3 (by decide))
  obtain ⟨transaction, called, asked⟩ := plain 0#256 (by decide) (by decide) (by decide)
  cases called
  cases asked

end BigX.Market
