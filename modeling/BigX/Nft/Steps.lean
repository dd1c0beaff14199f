import BigX.Nft.Contract
import BigX.Evm.Journal

set_option autoImplicit false

/- What each accepted stretch of the token contract wrote: the owner of a token, its
verifier and its royalty. -/
namespace BigX.Nft

open Evm

/-- The token that the next mint of some items gives away, and to whom. -/
def mints (items : List Item) (state : State) : Option (Uint256 × Address) :=
  items.head?.map fun item => (state.nextTokenId, item.recipient)

/-- The token that a stretch gives to somebody, and to whom. -/
def gives : Stretch Transaction Rest → State → Option (Uint256 × Address)
  | .start ⟨_, .mintAgent item, _⟩, state => mints [item] state
  | .start ⟨_, .batchMintAgents recipients metadataURIs encryptedDataHashes, _⟩, state =>
      mints (items recipients metadataURIs encryptedDataHashes) state
  | .start ⟨_, .transferWithProof _ target tokenId _, _⟩, _ => some (tokenId, target)
  | .start ⟨_, .transferFrom _ target tokenId, _⟩, _ => some (tokenId, target)
  | .start ⟨_, .safeTransferFrom _ target tokenId, _⟩, _ => some (tokenId, target)
  | .rest (.minted _ _ others), state => mints others state
  | _, _ => none

/-- The verifier that a stretch writes for a token. A mint writes none. -/
def verifierWritten (tokenId : Uint256) : Stretch Transaction Rest → Option Address
  | .start ⟨_, .setVerifier written verifier, _⟩ =>
      if written = tokenId then some verifier else none
  | .rest (.minted written _ _) => if written = tokenId then some Address.zero else none
  | _ => none

/-- The royalty that a stretch sets for a token. -/
def royaltySet : Stretch Transaction Rest → Option (Uint256 × RoyaltyInfo)
  | .start ⟨_, .setTokenRoyalty tokenId receiver feeBps, _⟩ => some (tokenId, ⟨receiver, feeBps⟩)
  | _ => none

/-- What a stretch wrote. -/
structure Wrote (stretch : Stretch Transaction Rest) (before after : State) : Prop where
  owners : after.nft.owners = withChange (gives stretch before) before.nft.owners
  verifier : ∀ tokenId, (after.agentMetadata tokenId).verifier =
    (verifierWritten tokenId stretch).getD (before.agentMetadata tokenId).verifier
  defaultRoyalty : after.defaultRoyalty = before.defaultRoyalty
  tokenRoyalty : after.tokenRoyalty = withChange (royaltySet stretch) before.tokenRoyalty
  bounded : ∀ set ∈ royaltySet stretch, ¬ feeDenominator < set.2.royaltyFraction

/-- Only the tokens changed, and of them at most one owner. -/
def TokensWrote (change : Option (Uint256 × Address)) (before after : State) : Prop :=
  ∃ nft nextTokenId, nft.owners = withChange change before.nft.owners ∧
    after = { before with nft := nft, nextTokenId := nextTokenId }

/-- `transferWithProof` moves the token of whoever its argument names. -/
theorem transferWithProof_ok {source target : Address} {tokenId : Uint256} {answer : Answer}
    {state : State} {progress : Progress State Rest (List Event)}
    (accepted : transferWithProof source target tokenId answer state = .ok progress) :
    state.nft.owners tokenId = source ∧ source ≠ Address.zero ∧
      progress.state.nft.owners = Function.update state.nft.owners tokenId target := by
  have moved : ∃ changed : Erc721 × List Erc721Event,
      state.nft.transfer state.paused source target tokenId =
        (.ok changed : Except Failure _) ∧ progress.state.nft = changed.1 := by
    simp only [transferWithProof, bind_eq_ok] at accepted
    obtain ⟨_, -, _, -, _, -, rest⟩ := accepted
    split at rest
    · simp only [bind_eq_ok, pure_eq_ok] at rest
      obtain ⟨_, -, _, -, changed, returned, rfl⟩ := rest
      exact ⟨changed, returned, rfl⟩
    · simp only [bind_eq_ok, pure_eq_ok] at rest
      obtain ⟨changed, returned, rfl⟩ := rest
      exact ⟨changed, returned, rfl⟩
  obtain ⟨changed, returned, same⟩ := moved
  rw [same]
  exact Erc721.transfer_ok returned

theorem mintAll_tokens {remaining : List Item} {state : State}
    {progress : Progress State Rest (List Event)}
    (accepted : mintAll remaining state = .ok progress) :
    TokensWrote (mints remaining state) state progress.state := by
  cases remaining with
  | nil =>
    cases accepted
    exact ⟨state.nft, state.nextTokenId, rfl, rfl⟩
  | cons item others =>
    simp only [mintAll, mintNext, bind_eq_ok, pure_eq_ok] at accepted
    obtain ⟨nextTokenId, -, minted, returned, rfl⟩ := accepted
    exact ⟨minted.1, nextTokenId, (Erc721.mint_ok returned).2, rfl⟩

theorem withNft_tokens {state : State} {attempt : Except Failure (Erc721 × List Erc721Event)}
    {progress : Progress State Rest (List Event)} {change : Option (Uint256 × Address)}
    (accepted : withNft state attempt = .ok progress)
    (owners : ∀ changed, attempt = .ok changed →
      changed.1.owners = withChange change state.nft.owners) :
    TokensWrote change state progress.state := by
  simp only [withNft, bind_eq_ok, pure_eq_ok] at accepted
  obtain ⟨changed, returned, rfl⟩ := accepted
  exact ⟨changed.1, state.nextTokenId, owners changed returned, rfl⟩

theorem transferWithProof_tokens {source target : Address} {tokenId : Uint256} {answer : Answer}
    {state : State} {progress : Progress State Rest (List Event)}
    (accepted : transferWithProof source target tokenId answer state = .ok progress) :
    TokensWrote (some (tokenId, target)) state progress.state := by
  have owners := (transferWithProof_ok accepted).2.2
  have only : ∃ nft, progress.state = { state with nft := nft } := by
    simp only [transferWithProof, bind_eq_ok] at accepted
    obtain ⟨_, -, _, -, _, -, rest⟩ := accepted
    split at rest
    · simp only [bind_eq_ok, pure_eq_ok] at rest
      obtain ⟨_, -, _, -, moved, -, rfl⟩ := rest
      exact ⟨moved.1, rfl⟩
    · simp only [bind_eq_ok, pure_eq_ok] at rest
      obtain ⟨moved, -, rfl⟩ := rest
      exact ⟨moved.1, rfl⟩
  obtain ⟨nft, wrote⟩ := only
  rw [wrote] at owners
  exact ⟨nft, state.nextTokenId, owners, wrote⟩

/-- A call that sets neither a verifier nor a royalty. -/
theorem wrote_of_unset {transaction : Transaction} {before after : State}
    (owners : after.nft.owners = withChange (gives (.start transaction) before) before.nft.owners)
    (agentMetadata : after.agentMetadata = before.agentMetadata)
    (defaultRoyalty : after.defaultRoyalty = before.defaultRoyalty)
    (tokenRoyalty : after.tokenRoyalty = before.tokenRoyalty)
    (unverified : ∀ tokenId, verifierWritten tokenId (.start transaction) = none)
    (unset : royaltySet (.start transaction) = none) :
    Wrote (.start transaction) before after := by
  refine ⟨owners, ?_, defaultRoyalty, ?_, ?_⟩
  · intro tokenId
    rw [unverified, agentMetadata]
    rfl
  · rw [unset, tokenRoyalty]
    rfl
  · intro set found
    rw [unset] at found
    cases found

/-- A call that writes tokens alone. -/
theorem TokensWrote.wrote {transaction : Transaction} {before after : State}
    {change : Option (Uint256 × Address)} (tokens : TokensWrote change before after)
    (given : gives (.start transaction) before = change)
    (unverified : ∀ tokenId, verifierWritten tokenId (.start transaction) = none)
    (unset : royaltySet (.start transaction) = none) :
    Wrote (.start transaction) before after := by
  obtain ⟨nft, nextTokenId, owners, rfl⟩ := tokens
  exact wrote_of_unset (given ▸ owners) rfl rfl rfl unverified unset

/-- A call that writes none of all this. -/
theorem wrote_nothing {transaction : Transaction} {before : State} {roles : AccessControl Role}
    {paused : Bool} (ungiven : gives (.start transaction) before = none)
    (unverified : ∀ tokenId, verifierWritten tokenId (.start transaction) = none)
    (unset : royaltySet (.start transaction) = none) :
    Wrote (.start transaction) before { before with roles := roles, paused := paused } := by
  refine wrote_of_unset ?_ rfl rfl rfl unverified unset
  rw [ungiven]
  rfl

theorem enter_wrote {transaction : Transaction} {state : State}
    {progress : Progress State Rest (List Event)}
    (accepted : enter transaction state = .ok progress) :
    Wrote (.start transaction) state progress.state := by
  obtain ⟨message, call, real⟩ := transaction
  cases call with
  | mintAgent item =>
    simp only [enter, mintAgent, bind_eq_ok] at accepted
    obtain ⟨_, -, _, -, minted⟩ := accepted
    have tokens : TokensWrote (mints [item] state) state progress.state := mintAll_tokens minted
    exact tokens.wrote rfl (fun _ => rfl) rfl
  | batchMintAgents recipients metadataURIs encryptedDataHashes =>
    simp only [enter, batchMintAgents, bind_eq_ok] at accepted
    obtain ⟨_, -, _, -, _, -, minted⟩ := accepted
    exact (mintAll_tokens minted).wrote rfl (fun _ => rfl) rfl
  | setVerifier tokenId verifier =>
    simp only [enter, setVerifier, bind_eq_ok, pure_eq_ok] at accepted
    obtain ⟨_, -, _, -, rfl⟩ := accepted
    refine ⟨rfl, ?_, rfl, rfl, fun set found => by cases found⟩
    intro asked
    by_cases same : tokenId = asked
    · subst same
      simp [verifierWritten, Progress.state]
    · simp [verifierWritten, Progress.state, same, Function.update_of_ne (Ne.symm same)]
  | setTokenRoyalty tokenId receiver feeBps =>
    simp only [enter, setTokenRoyalty, bind_eq_ok, require_eq_ok, pure_eq_ok] at accepted
    obtain ⟨_, -, _, within, _, -, rfl⟩ := accepted
    refine ⟨rfl, fun _ => rfl, rfl, rfl, ?_⟩
    intro set found
    cases found
    exact within
  | transferWithProof source target tokenId answer =>
    exact (transferWithProof_tokens accepted).wrote rfl (fun _ => rfl) rfl
  | pause =>
    simp only [enter, pause, bind_eq_ok, pure_eq_ok] at accepted
    obtain ⟨_, -, _, -, rfl⟩ := accepted
    exact wrote_nothing rfl (fun _ => rfl) rfl
  | unpause =>
    simp only [enter, unpause, bind_eq_ok, pure_eq_ok] at accepted
    obtain ⟨_, -, _, -, rfl⟩ := accepted
    exact wrote_nothing rfl (fun _ => rfl) rfl
  | approve target tokenId =>
    have tokens : TokensWrote none state progress.state :=
      withNft_tokens accepted fun changed returned => Erc721.approve_ok returned
    exact tokens.wrote rfl (fun _ => rfl) rfl
  | setApprovalForAll operator approved =>
    have tokens : TokensWrote none state progress.state :=
      withNft_tokens accepted fun changed returned => Erc721.setApprovalForAll_ok returned
    exact tokens.wrote rfl (fun _ => rfl) rfl
  | transferFrom source target tokenId =>
    have tokens : TokensWrote (some (tokenId, target)) state progress.state :=
      withNft_tokens accepted fun changed returned => (Erc721.transferFrom_ok returned).2.1
    exact tokens.wrote rfl (fun _ => rfl) rfl
  | safeTransferFrom source target tokenId =>
    simp only [enter, safeTransferFrom, bind_eq_ok, pure_eq_ok] at accepted
    obtain ⟨moved, returned, rfl⟩ := accepted
    have tokens : TokensWrote (some (tokenId, target)) state { state with nft := moved.1 } :=
      ⟨moved.1, state.nextTokenId, (Erc721.transferFrom_ok returned).2.1, rfl⟩
    exact tokens.wrote rfl (fun _ => rfl) rfl
  | grantRole role account =>
    simp only [enter, withRoles, bind_eq_ok, pure_eq_ok] at accepted
    obtain ⟨_, -, rfl⟩ := accepted
    exact wrote_nothing rfl (fun _ => rfl) rfl
  | revokeRole role account =>
    simp only [enter, withRoles, bind_eq_ok, pure_eq_ok] at accepted
    obtain ⟨_, -, rfl⟩ := accepted
    exact wrote_nothing rfl (fun _ => rfl) rfl
  | renounceRole role callerConfirmation =>
    simp only [enter, withRoles, bind_eq_ok, pure_eq_ok] at accepted
    obtain ⟨_, -, rfl⟩ := accepted
    exact wrote_nothing rfl (fun _ => rfl) rfl

theorem resume_wrote {rest : Rest} {state : State} {progress : Progress State Rest (List Event)}
    (accepted : resume rest state = .ok progress) : Wrote (.rest rest) state progress.state := by
  cases rest with
  | minted written item others =>
    simp only [resume, afterMint, bind_eq_ok] at accepted
    obtain ⟨next, returned, wrapped⟩ := accepted
    have states : progress.state = next.state := by
      cases next <;> cases wrapped <;> rfl
    obtain ⟨nft, nextTokenId, owners, wrote⟩ := mintAll_tokens returned
    rw [states, wrote]
    refine ⟨owners, ?_, rfl, rfl, fun set found => by cases found⟩
    intro tokenId
    by_cases same : written = tokenId
    · subst same
      simp [verifierWritten]
    · simp [verifierWritten, same, Function.update_of_ne (Ne.symm same)]
  | transferred =>
    cases accepted
    exact ⟨rfl, fun _ => rfl, rfl, rfl, fun set found => by cases found⟩
  | verified tokenId source target =>
    cases accepted
    exact ⟨rfl, fun _ => rfl, rfl, rfl, fun set found => by cases found⟩

theorem advance_wrote {stretch : Stretch Transaction Rest} {state : State}
    {progress : Progress State Rest (List Event)}
    (accepted : machine.advance stretch state = .ok progress) :
    Wrote stretch state progress.state := by
  cases stretch with
  | start transaction => exact enter_wrote accepted
  | rest pending => exact resume_wrote accepted

end BigX.Nft
