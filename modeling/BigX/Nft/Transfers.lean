import BigX.Nft.Steps

set_option autoImplicit false

/- Who moves a token. Every entry point asks for the holder's authority except
`transferWithProof`, which compares the owner with its own argument and never with the
sender. -/
namespace BigX.Nft

open Evm Run

/-- The token had an owner and has another one now. -/
def Moved (before after : State) (tokenId : Uint256) : Prop :=
  before.nft.owners tokenId ≠ Address.zero ∧
    after.nft.owners tokenId ≠ before.nft.owners tokenId

instance (before after : State) (tokenId : Uint256) : Decidable (Moved before after tokenId) :=
  inferInstanceAs (Decidable (_ ∧ _))

theorem not_moved_of_owners {before after : State} (same : after.nft.owners = before.nft.owners)
    (tokenId : Uint256) : ¬ Moved before after tokenId := by
  rintro ⟨-, different⟩
  rw [same] at different
  exact different rfl

/-- The only token whose owner a single write can change. -/
theorem moved_update {before after : State} {written tokenId : Uint256} {target : Address}
    (owners : after.nft.owners = Function.update before.nft.owners written target)
    (moved : Moved before after tokenId) : tokenId = written := by
  by_contra other
  obtain ⟨-, different⟩ := moved
  rw [owners, Function.update_of_ne other] at different
  exact different rfl

theorem moved_withChange {before after : State} {change : Option (Uint256 × Address)}
    {tokenId : Uint256} (owners : after.nft.owners = withChange change before.nft.owners)
    (moved : Moved before after tokenId) : ∃ holder, change = some (tokenId, holder) := by
  cases change with
  | none => exact absurd moved (not_moved_of_owners owners tokenId)
  | some given =>
    refine ⟨given.2, ?_⟩
    rw [moved_update owners moved]

theorem mintNext_not_moved {item : Item} {others : List Item} {state : State}
    {progress : Progress State Rest (List Event)}
    (accepted : mintNext item others state = .ok progress) (tokenId : Uint256) :
    ¬ Moved state progress.state tokenId := by
  simp only [mintNext, bind_eq_ok, pure_eq_ok] at accepted
  obtain ⟨next, -, minted, returned, rfl⟩ := accepted
  obtain ⟨unowned, owners⟩ := Erc721.mint_ok returned
  intro moved
  have same := moved_update owners moved
  rw [same] at moved
  exact moved.1 unowned

theorem mintAll_not_moved {remaining : List Item} {state : State}
    {progress : Progress State Rest (List Event)}
    (accepted : mintAll remaining state = .ok progress) (tokenId : Uint256) :
    ¬ Moved state progress.state tokenId := by
  cases remaining with
  | nil =>
    cases accepted
    exact not_moved_of_owners rfl tokenId
  | cons item others => exact mintNext_not_moved accepted tokenId

theorem afterMint_not_moved {minted : Uint256} {item : Item} {others : List Item} {state : State}
    {progress : Progress State Rest (List Event)}
    (accepted : afterMint minted item others state = .ok progress) (tokenId : Uint256) :
    ¬ Moved state progress.state tokenId := by
  simp only [afterMint, bind_eq_ok] at accepted
  obtain ⟨next, returned, wrapped⟩ := accepted
  have states : progress.state = next.state := by
    cases next <;> cases wrapped <;> rfl
  rw [states]
  exact mintAll_not_moved returned tokenId

/-- What comes after a receiver's hook moves no owned token. -/
theorem resume_not_moved {rest : Rest} {state : State} {progress : Progress State Rest (List Event)}
    (accepted : resume rest state = .ok progress) (tokenId : Uint256) :
    ¬ Moved state progress.state tokenId := by
  cases rest with
  | minted minted item others => exact afterMint_not_moved accepted tokenId
  | transferred =>
    cases accepted
    exact not_moved_of_owners rfl tokenId
  | verified verified source target =>
    cases accepted
    exact not_moved_of_owners rfl tokenId

theorem withNft_ok {state : State} {attempt : Except Failure (Erc721 × List Erc721Event)}
    {progress : Progress State Rest (List Event)}
    (accepted : withNft state attempt = .ok progress) :
    ∃ changed, attempt = .ok changed ∧ progress.state.nft = changed.1 := by
  simp only [withNft, bind_eq_ok, pure_eq_ok] at accepted
  obtain ⟨changed, returned, rfl⟩ := accepted
  exact ⟨changed, returned, rfl⟩

/-- A verifier in place has agreed to every `transferWithProof` that is accepted. -/
theorem transferWithProof_verified {source target : Address} {tokenId : Uint256} {answer : Answer}
    {state : State} {progress : Progress State Rest (List Event)}
    (accepted : transferWithProof source target tokenId answer state = .ok progress)
    (gated : (state.agentMetadata tokenId).verifier ≠ Address.zero) : answer = some true := by
  simp only [transferWithProof, bind_eq_ok] at accepted
  obtain ⟨_, -, _, -, _, -, rest⟩ := accepted
  rw [if_pos gated] at rest
  simp only [bind_eq_ok, require_eq_ok] at rest
  obtain ⟨_, -, _, agreed, -⟩ := rest
  exact agreed

/-- The calls that can move a token, from whom and to whom. -/
inductive TokenMove (tokenId : Uint256) (source target : Address) : Call → Prop
  | proven (answer : Answer) :
      TokenMove tokenId source target (.transferWithProof source target tokenId answer)
  | plain : TokenMove tokenId source target (.transferFrom source target tokenId)
  | safe : TokenMove tokenId source target (.safeTransferFrom source target tokenId)

/-- What an accepted call that can move a token does. -/
theorem TokenMove.owners {transaction : Transaction} {state : State}
    {progress : Progress State Rest (List Event)} {tokenId : Uint256} {source target : Address}
    (move : TokenMove tokenId source target transaction.call)
    (accepted : enter transaction state = .ok progress) :
    state.nft.owners tokenId = source ∧
      progress.state.nft.owners = Function.update state.nft.owners tokenId target ∧
      ((∀ answer, transaction.call ≠ .transferWithProof source target tokenId answer) →
        state.nft.MayMove transaction.message.sender tokenId) := by
  obtain ⟨message, call, real⟩ := transaction
  cases move with
  | proven answer =>
    obtain ⟨owned, -, owners⟩ := transferWithProof_ok accepted
    exact ⟨owned, owners, fun other => absurd rfl (other answer)⟩
  | plain =>
    obtain ⟨changed, returned, same⟩ := withNft_ok accepted
    obtain ⟨owned, owners, authority⟩ := Erc721.transferFrom_ok returned
    exact ⟨owned, same ▸ owners, fun _ => authority real⟩
  | safe =>
    simp only [enter, safeTransferFrom, bind_eq_ok, pure_eq_ok] at accepted
    obtain ⟨changed, returned, rfl⟩ := accepted
    obtain ⟨owned, owners, authority⟩ := Erc721.transferFrom_ok returned
    exact ⟨owned, owners, fun _ => authority real⟩

/-- Only three entry points move a token. -/
theorem enter_moved {transaction : Transaction} {state : State}
    {progress : Progress State Rest (List Event)}
    (accepted : enter transaction state = .ok progress) {tokenId : Uint256}
    (moved : Moved state progress.state tokenId) :
    ∃ source target, TokenMove tokenId source target transaction.call := by
  obtain ⟨holder, given⟩ := moved_withChange (enter_wrote accepted).owners moved
  obtain ⟨message, call, real⟩ := transaction
  cases call with
  | mintAgent item =>
    simp only [enter, mintAgent, bind_eq_ok] at accepted
    obtain ⟨_, -, _, -, minted⟩ := accepted
    exact absurd moved (mintNext_not_moved minted tokenId)
  | batchMintAgents recipients metadataURIs encryptedDataHashes =>
    simp only [enter, batchMintAgents, bind_eq_ok] at accepted
    obtain ⟨_, -, _, -, _, -, minted⟩ := accepted
    exact absurd moved (mintAll_not_moved minted tokenId)
  | transferWithProof source target proven answer =>
    cases given
    exact ⟨source, _, .proven answer⟩
  | transferFrom source target taken =>
    cases given
    exact ⟨source, _, .plain⟩
  | safeTransferFrom source target taken =>
    cases given
    exact ⟨source, _, .safe⟩
  | _ => cases given

/-- Every other entry point moves a token only for somebody who may. -/
theorem enter_mayMove {transaction : Transaction} {state : State}
    {progress : Progress State Rest (List Event)}
    (accepted : enter transaction state = .ok progress)
    (other : ∀ source target tokenId answer,
      transaction.call ≠ .transferWithProof source target tokenId answer)
    (tokenId : Uint256) (moved : Moved state progress.state tokenId) :
    state.nft.MayMove transaction.message.sender tokenId := by
  obtain ⟨source, target, move⟩ := enter_moved accepted moved
  exact (move.owners accepted).2.2 (other source target tokenId)

/-- A token that the move itself moved (and that did not just return to an earlier owner
with the undoing of a call) was moved by a call of somebody who may. -/
def AuthorisedTransfer (entry : Entry) : Prop :=
  ∀ tokenId, Moved entry.before.state entry.after.state tokenId → entry.output ≠ .undone →
    ∃ transaction, entry.input = .call transaction ∧
      entry.before.state.nft.MayMove transaction.message.sender tokenId

/-- A `transferWithProof` that moves anything is called by somebody who may. -/
def provenByHolder (config : Config State Rest) (move : Move Transaction) : Prop :=
  match move with
  | .call transaction =>
      match transaction.call with
      | .transferWithProof source target tokenId _ =>
          source = target ∨ config.state.nft.MayMove transaction.message.sender tokenId
      | _ => True
  | _ => True

theorem enter_authorised_iff {transaction : Transaction} {before after : Config State Rest}
    {effect : Effect (List Event)} {progress : Progress State Rest (List Event)}
    (accepted : enter transaction before.state = .ok progress)
    (after_eq : after.state = progress.state) (wrote : effect ≠ .undone) :
    AuthorisedTransfer ⟨before, .call transaction, effect, after⟩ ↔
      provenByHolder before (.call transaction) := by
  have allowed_iff : AuthorisedTransfer ⟨before, .call transaction, effect, after⟩ ↔
      ∀ tokenId, Moved before.state progress.state tokenId →
        before.state.nft.MayMove transaction.message.sender tokenId := by
    simp only [AuthorisedTransfer, after_eq, ne_eq, wrote, not_false_eq_true, true_imp_iff,
      Move.call.injEq, exists_eq_left']
  rw [allowed_iff]
  unfold provenByHolder
  by_cases proven : ∃ source target tokenId answer,
      transaction.call = .transferWithProof source target tokenId answer
  · obtain ⟨source, target, proven, answer, called⟩ := proven
    simp only [enter, called] at accepted ⊢
    obtain ⟨owned, real, owners⟩ := transferWithProof_ok accepted
    constructor
    · intro authority
      by_cases same : source = target
      · exact Or.inl same
      · refine Or.inr (authority proven ⟨owned ▸ real, ?_⟩)
        rw [owners, Function.update_self, owned]
        exact fun equal => same equal.symm
    · rintro (rfl | authority) tokenId moved
      · refine absurd moved (not_moved_of_owners ?_ tokenId)
        rw [owners, ← owned, Function.update_eq_self]
      · rw [moved_update owners moved]
        exact authority
  · have other : ∀ source target tokenId answer,
        transaction.call ≠ .transferWithProof source target tokenId answer :=
      fun source target tokenId answer called => proven ⟨source, target, tokenId, answer, called⟩
    refine iff_of_true (enter_mayMove accepted other) ?_
    dsimp only
    split
    · rename_i source target tokenId answer called
      exact absurd called (other source target tokenId answer)
    · trivial

/-- One accepted move is authorised exactly when it meets the condition. -/
theorem step_authorised_iff {move : Move Transaction} {before after : Config State Rest}
    {effect : Effect (List Event)}
    (accepted : machine.step move before = .ok (after, effect)) :
    AuthorisedTransfer ⟨before, move, effect, after⟩ ↔ provenByHolder before move := by
  cases effect with
  | undone =>
    refine iff_of_true (fun _ _ wrote => absurd rfl wrote) ?_
    cases move with
    | call transaction => exact absurd rfl (machine.step_undone _ before after accepted transaction)
    | returned => trivial
    | failed => trivial
  | wrote output =>
    rcases machine.step_wrote move before after output accepted with
      ⟨transaction, progress, rfl, entered, after_eq⟩ |
      ⟨frame, progress, rfl, -, resumed, after_eq⟩
    · exact enter_authorised_iff entered after_eq (by simp)
    · refine iff_of_true ?_ trivial
      intro tokenId moved _
      rw [after_eq] at moved
      exact absurd moved (resume_not_moved resumed tokenId)

/-- In the runs from any state, a deployed one among them, owners change only by calls of
those who may move the token exactly when each `transferWithProof` that moves a token is
called by one of those. -/
theorem transfers_authorised_iff (start : State) (moves : List (Move Transaction)) :
    (∀ entry ∈ (history start moves).past, AuthorisedTransfer entry) ↔
      Meets provenByHolder (history start moves).past :=
  run_entries_iff machine.step _ AuthorisedTransfer provenByHolder
    (fun _ _ _ _ accepted => step_authorised_iff accepted) moves

/-- Account 5 gets token 0, whose verifier is unset; account 9, which nobody approved,
sends it to account 6. -/
theorem transfers_authorised_stranger :
    ∃ (start : State) (events : List Event),
      deploy ⟨1#160, 0#256⟩ 1#160 2#160 500#96 = .ok (start, events) ∧
      ¬ ∀ entry ∈ (history start
        [.call ⟨⟨1#160, 0#256⟩, .mintAgent ⟨5#160, "ipfs://agent", 7#256⟩, by decide⟩, .returned,
         .call ⟨⟨9#160, 0#256⟩, .transferWithProof 5#160 6#160 0#256 none, by decide⟩,
         .returned]).past, AuthorisedTransfer entry := by
  refine ⟨_, _, rfl, fun authorised => ?_⟩
  have stranger := authorised _ (@List.getElem_mem _ _ 2 (by decide))
  obtain ⟨transaction, called, may⟩ := stranger 0#256 (by decide) (by decide)
  cases called
  exact absurd may (by decide)

end BigX.Nft
