import BigX.Evm.Journal
import BigX.Nft.Contract

set_option autoImplicit false

/- The marketplace: listings of agent tokens, sold at the listed price with a royalty and
a protocol fee. It holds no token; a sale moves it from the seller on the approval the
marketplace has. Here it runs beside the token contract it was deployed for. -/
namespace BigX.Market

open Evm

inductive Role
  | defaultAdmin
  | feeAdmin
  | other (id : Bytes32)
  deriving DecidableEq

inductive Error
  | notTokenOwner
  | notApprovedForMarketplace
  | listingNotActive
  | insufficientPayment
  deriving DecidableEq

abbrev Uint96 := BitVec 96

structure Listing where
  seller : Address
  price : Uint256
  active : Bool
  deriving DecidableEq

inductive Event
  | listed (nftId : Uint256) (seller : Address) (price : Uint256)
  | listingCancelled (nftId : Uint256)
  | sold (nftId : Uint256) (seller buyer : Address) (price : Uint256)
  | protocolFeeUpdated (bps : Uint96)
  | roles (event : RoleEvent Role)
  deriving DecidableEq

/-- The marketplace's storage, with the ETH of its account. -/
structure State where
  roles : AccessControl Role
  entered : Bool
  protocolFeeBps : Uint96
  feeRecipient : Address
  listings : Uint256 → Listing
  balance : Nat

abbrev Failure : Type := Revert Role Error

/-- The local variables of one `buy`, called with `value` of ETH. -/
structure Sale where
  nftId : Uint256
  seller : Address
  buyer : Address
  price : Uint256
  value : Uint256
  royaltyReceiver : Address
  royaltyAmount : Uint256
  protocolFee : Uint256
  sellerProceeds : Uint256
  deriving DecidableEq

/-- What a `buy` waits for: the buyer's hook for the token, then each of its payments. -/
inductive Rest
  | delivered (sale : Sale)
  | royaltyPaid (sale : Sale)
  | feePaid (sale : Sale)
  | sellerPaid (sale : Sale)
  | refunded (sale : Sale)

abbrev Result : Type := Except Failure (Progress State Rest (List Event))

/-- The constructor. -/
def deploy (message : Message) (admin feeRecipient : Address) (balance : Nat) :
    State × List Event :=
  let first := AccessControl.empty.grant Role.defaultAdmin admin message.sender
  let second := first.1.grant .feeAdmin admin message.sender
  ({ roles := second.1
     entered := false
     protocolFeeBps := 250#96
     feeRecipient := feeRecipient
     listings := fun _ => ⟨Address.zero, 0#256, false⟩
     balance := balance },
   (first.2 ++ second.2).map .roles)

/-- A call of the token contract, whose error goes up unchanged. -/
def bubble {α : Type} (attempt : Except Nft.Failure α) : Except Failure α :=
  match attempt with
  | .ok value => .ok value
  | .error _ => .error .bubbled

/-- `list`, in the marketplace at `market`. -/
def list (market : Address) (message : Message) (nftId price : Uint256) (nft : Nft.State)
    (state : State) : Result := do
  let owner ← bubble (nft.nft.requireOwned nftId)
  require (owner = message.sender) (.custom .notTokenOwner)
  require (nft.nft.tokenApprovals nftId = market ∨
    nft.nft.operatorApprovals message.sender market = true) (.custom .notApprovedForMarketplace)
  pure (.done { state with
    listings := Function.update state.listings nftId ⟨message.sender, price, true⟩ }
    [.listed nftId message.sender price])

def cancelListing (message : Message) (nftId : Uint256) (state : State) : Result := do
  require ((state.listings nftId).seller = message.sender) (.reason "Not seller")
  pure (.done { state with
    listings := Function.update state.listings nftId
      { state.listings nftId with active := false } } [.listingCancelled nftId])

/-- `(price * bps) / 10_000` -/
def shareOf (price : Uint256) (bps : Uint96) : Except Failure Uint256 := do
  let product ← checkedMul price (bps.setWidth 256)
  pure (product / 10000#256)

/-- The checks and the split of `buy`. The token contract supports ERC-2981, so the royalty
is always asked for. -/
def openSale (message : Message) (value nftId : Uint256) (nft : Nft.State) (state : State) :
    Except Failure Sale := do
  nonReentrant state.entered
  let listing := state.listings nftId
  require (listing.active = true) (.custom .listingNotActive)
  require (¬ value < listing.price) (.custom .insufficientPayment)
  let royalty ← bubble (Nft.royaltyInfo nftId listing.price nft)
  let protocolFee ← shareOf listing.price state.protocolFeeBps
  let afterFee ← checkedSub listing.price protocolFee
  let sellerProceeds ← checkedSub afterFee royalty.2
  pure
    { nftId := nftId
      seller := listing.seller
      buyer := message.sender
      price := listing.price
      value := value
      royaltyReceiver := royalty.1
      royaltyAmount := royalty.2
      protocolFee := protocolFee
      sellerProceeds := sellerProceeds }

/-- The marketplace once the sale is under way, with the payment it came with. -/
def State.selling (state : State) (sale : Sale) : State :=
  { state with
    entered := true
    listings := Function.update state.listings sale.nftId
      { state.listings sale.nftId with active := false }
    balance := state.balance + sale.value.toNat }

/-- A call that pays `amount`, and fails when the account cannot cover it. -/
def pay (amount : Uint256) (failure : String) (rest : Rest) (state : State) : Result := do
  require (amount.toNat ≤ state.balance) (.reason failure)
  pure (.calling { state with balance := state.balance - amount.toNat } rest [])

def finish (sale : Sale) (state : State) : Result :=
  .ok (.done { state with entered := false }
    [.sold sale.nftId sale.seller sale.buyer sale.price])

/-- `buy` from each of its calls on. -/
def resume (rest : Rest) (state : State) : Result :=
  match rest with
  | .delivered sale =>
      if 0#256 < sale.royaltyAmount ∧ sale.royaltyReceiver ≠ Address.zero then
        pay sale.royaltyAmount "Royalty payment failed" (.royaltyPaid sale) state
      else pay sale.protocolFee "Fee payment failed" (.feePaid sale) state
  | .royaltyPaid sale => pay sale.protocolFee "Fee payment failed" (.feePaid sale) state
  | .feePaid sale => pay sale.sellerProceeds "Seller payment failed" (.sellerPaid sale) state
  | .sellerPaid sale =>
      if sale.price < sale.value then
        pay (sale.value - sale.price) "Refund failed" (.refunded sale) state
      else finish sale state
  | .refunded sale => finish sale state

def setProtocolFee (message : Message) (bps : Uint96) (state : State) : Result := do
  onlyRole state.roles .feeAdmin message
  require (bps ≤ 1000#96) (.reason "Fee too high")
  pure (.done { state with protocolFeeBps := bps } [.protocolFeeUpdated bps])

/-- Write back what an inherited role function did. -/
def withRoles (state : State)
    (attempt : Except Failure (AccessControl Role × List (RoleEvent Role))) : Result := do
  let changed ← attempt
  pure (.done { state with roles := changed.1 } (changed.2.map .roles))

/-- The external functions that can write, and ETH that arrives without a call. -/
inductive Call
  | list (nftId price : Uint256)
  | cancelListing (nftId : Uint256)
  | buy (value nftId : Uint256)
  | setProtocolFee (bps : Uint96)
  | grantRole (role : Role) (account : Address)
  | revokeRole (role : Role) (account : Address)
  | renounceRole (role : Role) (callerConfirmation : Address)
  | forced (amount : Nat)
  deriving DecidableEq

end BigX.Market
