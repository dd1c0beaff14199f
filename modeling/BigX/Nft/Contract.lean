import BigX.Evm.AccessControl
import BigX.Evm.CallStack
import BigX.Evm.Erc721

set_option autoImplicit false

/- The agent token ERC-7857: minting, verifiers, royalties and the transfer that a verifier
has to agree to. Mints and safe transfers call the receiver, so each function stops there
and leaves the rest pending; a receiver without code returns at once. -/
namespace BigX.Nft

open Evm

inductive Role
  | defaultAdmin
  | minter
  | pauser
  | other (id : Bytes32)
  deriving DecidableEq

inductive Error
  | notAgentOwner
  | verifierRejectedTransfer
  | invalidRoyaltyReceiver
  | erc2981InvalidDefaultRoyalty (numerator : Uint256)
  | erc2981InvalidTokenRoyalty (tokenId numerator : Uint256)
  | erc2981InvalidTokenRoyaltyReceiver (tokenId : Uint256) (receiver : Address)
  deriving DecidableEq

structure AgentMetadata where
  encryptedDataHash : Bytes32
  metadataURI : String
  verifier : Address
  deriving DecidableEq

abbrev Uint96 := BitVec 96

structure RoyaltyInfo where
  receiver : Address
  royaltyFraction : Uint96
  deriving DecidableEq

inductive Event
  | erc721 (event : Erc721Event)
  | roles (event : RoleEvent Role)
  | agentMinted (tokenId : Uint256) (target : Address) (metadataURI : String)
  | agentTransferVerified (tokenId : Uint256) (source target : Address)
  | paused (account : Address)
  | unpaused (account : Address)
  deriving DecidableEq

structure State where
  roles : AccessControl Role
  paused : Bool
  nft : Erc721
  nextTokenId : Uint256
  agentMetadata : Uint256 → AgentMetadata
  defaultRoyalty : RoyaltyInfo
  tokenRoyalty : Uint256 → RoyaltyInfo

abbrev Failure : Type := Revert Role Error

/-- One token to mint. -/
structure Item where
  recipient : Address
  metadataURI : String
  encryptedDataHash : Bytes32
  deriving DecidableEq

/-- What is left of a function when it calls the receiver of a token. -/
inductive Rest
  | minted (tokenId : Uint256) (item : Item) (others : List Item)
  | transferred
  | verified (tokenId : Uint256) (source target : Address)

abbrev Result : Type := Except Failure (Progress State Rest (List Event))

/-- `_feeDenominator()` -/
def feeDenominator : Uint96 := 10000#96

/-- The constructor. -/
def deploy (message : Message) (admin defaultRoyaltyReceiver : Address)
    (defaultRoyaltyBps : Uint96) : Except Failure (State × List Event) := do
  require (¬ defaultRoyaltyReceiver = Address.zero) (.custom .invalidRoyaltyReceiver)
  let first := AccessControl.empty.grant Role.defaultAdmin admin message.sender
  let second := first.1.grant .minter admin message.sender
  let third := second.1.grant .pauser admin message.sender
  require (¬ feeDenominator < defaultRoyaltyBps)
    (.custom (.erc2981InvalidDefaultRoyalty (defaultRoyaltyBps.setWidth 256)))
  pure
    ({ roles := third.1
       paused := false
       nft := .empty
       nextTokenId := 0#256
       agentMetadata := fun _ => ⟨0#256, "", Address.zero⟩
       defaultRoyalty := ⟨defaultRoyaltyReceiver, defaultRoyaltyBps⟩
       tokenRoyalty := fun _ => ⟨Address.zero, 0#96⟩ },
     (first.2 ++ second.2 ++ third.2).map .roles)

/-- `tokenId = _nextTokenId++; _safeMint(..)`, up to the receiver's hook. -/
def mintNext (item : Item) (others : List Item) (state : State) : Result := do
  let tokenId := state.nextTokenId
  let nextTokenId ← checkedAdd tokenId 1#256
  let minted ← state.nft.mint state.paused item.recipient tokenId
  pure (.calling { state with nft := minted.1, nextTokenId := nextTokenId }
    (.minted tokenId item others) (minted.2.map .erc721))

def mintAgent (message : Message) (item : Item) (state : State) : Result := do
  onlyRole state.roles .minter message
  whenNotPaused state.paused
  mintNext item [] state

/-- The arrays of `batchMintAgents`, read side by side. -/
def items : List Address → List String → List Bytes32 → List Item
  | recipient :: recipients, metadataURI :: metadataURIs, hash :: hashes =>
      ⟨recipient, metadataURI, hash⟩ :: items recipients metadataURIs hashes
  | _, _, _ => []

/-- The loop of `batchMintAgents` from its next iteration on. -/
def mintAll (remaining : List Item) (state : State) : Result :=
  match remaining with
  | [] => pure (.done state [])
  | item :: others => mintNext item others state

def batchMintAgents (message : Message) (recipients : List Address) (metadataURIs : List String)
    (encryptedDataHashes : List Bytes32) (state : State) : Result := do
  onlyRole state.roles .minter message
  whenNotPaused state.paused
  require (recipients.length = metadataURIs.length ∧
    recipients.length = encryptedDataHashes.length) (.reason "Length mismatch")
  mintAll (items recipients metadataURIs encryptedDataHashes) state

/-- What follows the receiver's hook of a mint: the metadata, and the next mint. -/
def afterMint (tokenId : Uint256) (item : Item) (others : List Item) (state : State) : Result := do
  let written : State := { state with
    agentMetadata := Function.update state.agentMetadata tokenId
      { encryptedDataHash := item.encryptedDataHash
        metadataURI := item.metadataURI
        verifier := Address.zero } }
  let event : Event := .agentMinted tokenId item.recipient item.metadataURI
  match ← mintAll others written with
  | .done state events => pure (.done state (event :: events))
  | .calling state rest events => pure (.calling state rest (event :: events))

def getAgentMetadata (tokenId : Uint256) (state : State) : Except Failure AgentMetadata := do
  let _ ← (state.nft.requireOwned tokenId : Except Failure Address)
  pure (state.agentMetadata tokenId)

/-- `royaltyInfo`: the token's own royalty, else the default one. -/
def royaltyInfo (tokenId salePrice : Uint256) (state : State) :
    Except Failure (Address × Uint256) := do
  let own := state.tokenRoyalty tokenId
  let royalty := if own.receiver = Address.zero then state.defaultRoyalty else own
  let product ← checkedMul salePrice (royalty.royaltyFraction.setWidth 256)
  pure (royalty.receiver, product / feeDenominator.setWidth 256)

def setVerifier (message : Message) (tokenId : Uint256) (verifier : Address) (state : State) :
    Result := do
  let owner ← state.nft.requireOwned tokenId
  require (owner = message.sender) (.custom .notAgentOwner)
  pure (.done { state with
    agentMetadata := Function.update state.agentMetadata tokenId
      { state.agentMetadata tokenId with verifier := verifier } } [])

def setTokenRoyalty (message : Message) (tokenId : Uint256) (receiver : Address)
    (feeBps : Uint96) (state : State) : Result := do
  onlyRole state.roles .defaultAdmin message
  require (¬ feeDenominator < feeBps)
    (.custom (.erc2981InvalidTokenRoyalty tokenId (feeBps.setWidth 256)))
  require (¬ receiver = Address.zero)
    (.custom (.erc2981InvalidTokenRoyaltyReceiver tokenId Address.zero))
  pure (.done { state with
    tokenRoyalty := Function.update state.tokenRoyalty tokenId ⟨receiver, feeBps⟩ } [])

/-- A verifier's answer to `verifyTransfer`; `none` when the call to it fails. The call is
a static one, so it changes nothing. -/
abbrev Answer : Type := Option Bool

/-- `transferWithProof`, where the verifier in place gives `answer` for the proof. -/
def transferWithProof (source target : Address) (tokenId : Uint256) (answer : Answer)
    (state : State) : Result := do
  whenNotPaused state.paused
  let owner ← state.nft.requireOwned tokenId
  require (owner = source) (.custom .notAgentOwner)
  let verifier := (state.agentMetadata tokenId).verifier
  if verifier ≠ Address.zero then
    require (answer ≠ none) .bubbled
    require (answer = some true) (.custom .verifierRejectedTransfer)
  let moved ← state.nft.transfer state.paused source target tokenId
  pure (.calling { state with nft := moved.1 } (.verified tokenId source target)
    (moved.2.map .erc721))

def pause (message : Message) (state : State) : Result := do
  onlyRole state.roles .pauser message
  whenNotPaused state.paused
  pure (.done { state with paused := true } [.paused message.sender])

def unpause (message : Message) (state : State) : Result := do
  onlyRole state.roles .pauser message
  whenPaused state.paused
  pure (.done { state with paused := false } [.unpaused message.sender])

/-- Write back what an inherited token function did. -/
def withNft (state : State) (attempt : Except Failure (Erc721 × List Erc721Event)) : Result := do
  let changed ← attempt
  pure (.done { state with nft := changed.1 } (changed.2.map .erc721))

/-- Both forms of `safeTransferFrom`; the data only reaches the receiver. -/
def safeTransferFrom (message : Message) (source target : Address) (tokenId : Uint256)
    (state : State) : Result := do
  let moved ← state.nft.transferFrom state.paused message.sender source target tokenId
  pure (.calling { state with nft := moved.1 } .transferred (moved.2.map .erc721))

/-- Write back what an inherited role function did. -/
def withRoles (state : State)
    (attempt : Except Failure (AccessControl Role × List (RoleEvent Role))) : Result := do
  let changed ← attempt
  pure (.done { state with roles := changed.1 } (changed.2.map .roles))

/-- The external functions that can write. -/
inductive Call
  | mintAgent (item : Item)
  | batchMintAgents (recipients : List Address) (metadataURIs : List String)
      (encryptedDataHashes : List Bytes32)
  | setVerifier (tokenId : Uint256) (verifier : Address)
  | setTokenRoyalty (tokenId : Uint256) (receiver : Address) (feeBps : Uint96)
  | transferWithProof (source target : Address) (tokenId : Uint256) (answer : Answer)
  | pause
  | unpause
  | approve (target : Address) (tokenId : Uint256)
  | setApprovalForAll (operator : Address) (approved : Bool)
  | transferFrom (source target : Address) (tokenId : Uint256)
  | safeTransferFrom (source target : Address) (tokenId : Uint256)
  | grantRole (role : Role) (account : Address)
  | revokeRole (role : Role) (account : Address)
  | renounceRole (role : Role) (callerConfirmation : Address)
  deriving DecidableEq

/-- No account has the zero address, so none calls from it. -/
structure Transaction where
  message : Message
  call : Call
  real : message.sender ≠ Address.zero

def enter (transaction : Transaction) (state : State) : Result :=
  let message := transaction.message
  match transaction.call with
  | .mintAgent item => mintAgent message item state
  | .batchMintAgents recipients metadataURIs encryptedDataHashes =>
      batchMintAgents message recipients metadataURIs encryptedDataHashes state
  | .setVerifier tokenId verifier => setVerifier message tokenId verifier state
  | .setTokenRoyalty tokenId receiver feeBps => setTokenRoyalty message tokenId receiver feeBps state
  | .transferWithProof source target tokenId answer =>
      transferWithProof source target tokenId answer state
  | .pause => pause message state
  | .unpause => unpause message state
  | .approve target tokenId => withNft state (state.nft.approve message.sender target tokenId)
  | .setApprovalForAll operator approved =>
      withNft state (state.nft.setApprovalForAll message.sender operator approved)
  | .transferFrom source target tokenId =>
      withNft state (state.nft.transferFrom state.paused message.sender source target tokenId)
  | .safeTransferFrom source target tokenId => safeTransferFrom message source target tokenId state
  | .grantRole role account =>
      withRoles state (state.roles.grantRole .defaultAdmin message role account)
  | .revokeRole role account =>
      withRoles state (state.roles.revokeRole .defaultAdmin message role account)
  | .renounceRole role callerConfirmation =>
      withRoles state (state.roles.renounceRole message role callerConfirmation)

/-- What follows a receiver's hook that returned the magic value. -/
def resume (rest : Rest) (state : State) : Result :=
  match rest with
  | .minted tokenId item others => afterMint tokenId item others state
  | .transferred => pure (.done state [])
  | .verified tokenId source target =>
      pure (.done state [.agentTransferVerified tokenId source target])

def machine : Machine State Transaction Rest Failure (List Event) where
  enter := enter
  resume := resume

abbrev Entry : Type :=
  Run.Entry (Config State Rest) (Move Transaction) (Effect (List Event))

/-- Every move in turn, from a deployed contract and no call under way. -/
abbrev history (start : State) (moves : List (Move Transaction)) :
    Run.Trace (Config State Rest) (Move Transaction) (Effect (List Event)) :=
  Run.run machine.step ⟨start, []⟩ moves

end BigX.Nft
