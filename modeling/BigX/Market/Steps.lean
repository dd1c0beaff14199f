import BigX.Market.Contract
import BigX.Nft.Transfers

set_option autoImplicit false

/- The token contract and the marketplace side by side, each open to calls by anybody at
any moment, also from the hooks and payments in the middle of the other's functions; and what
each accepted call of this exchange found and what it wrote. -/
namespace BigX.Market

open Evm

structure Exchange where
  nft : Nft.State
  market : State

inductive ExchangeCall
  | nft (call : Nft.Call)
  | market (call : Call)
  | elsewhere
  deriving DecidableEq

/-- A call from outside. No account has the zero address, so none calls from it. -/
structure Transaction where
  message : Message
  call : ExchangeCall
  real : message.sender ≠ Address.zero

inductive ExchangeRest
  | nft (rest : Nft.Rest)
  | market (rest : Rest)
  | elsewhere

inductive ExchangeFailure
  | nft (reason : Nft.Failure)
  | market (reason : Failure)

inductive ExchangeEvent
  | nft (event : Nft.Event)
  | market (event : Event)
  deriving DecidableEq

abbrev ExchangeResult : Type :=
  Except ExchangeFailure (Progress Exchange ExchangeRest (List ExchangeEvent))

/-- A function of the token contract, seen from the exchange. -/
def liftNft (exchange : Exchange) (attempt : Nft.Result) : ExchangeResult :=
  match attempt with
  | .ok progress => .ok (progress.map (fun nft => { exchange with nft := nft }) .nft
      (List.map .nft))
  | .error reason => .error (.nft reason)

def liftMarket (exchange : Exchange) (attempt : Result) : ExchangeResult :=
  match attempt with
  | .ok progress => .ok (progress.map (fun market => { exchange with market := market }) .market
      (List.map .market))
  | .error reason => .error (.market reason)

/-- `buy` up to the buyer's hook: the marketplace calls `safeTransferFrom` on the token
contract, which calls the buyer. -/
def buy (market : Address) (message : Message) (value nftId : Uint256) (exchange : Exchange) :
    ExchangeResult :=
  match openSale message value nftId exchange.nft exchange.market with
  | .error reason => .error (.market reason)
  | .ok sale =>
      match exchange.nft.nft.transferFrom exchange.nft.paused market sale.seller sale.buyer nftId with
      | .error reason => .error (.nft reason)
      | .ok moved => .ok (.calling
          { nft := { exchange.nft with nft := moved.1 }
            market := exchange.market.selling sale }
          (.market (.delivered sale)) (moved.2.map fun event => .nft (.erc721 event)))

def enterMarket (market : Address) (message : Message) (call : Call) (exchange : Exchange) :
    ExchangeResult :=
  match call with
  | .list nftId price => liftMarket exchange
      (list market message nftId price exchange.nft exchange.market)
  | .cancelListing nftId => liftMarket exchange (cancelListing message nftId exchange.market)
  | .buy value nftId => buy market message value nftId exchange
  | .setProtocolFee bps => liftMarket exchange (setProtocolFee message bps exchange.market)
  | .grantRole role account => liftMarket exchange (withRoles exchange.market
      (exchange.market.roles.grantRole .defaultAdmin message role account))
  | .revokeRole role account => liftMarket exchange (withRoles exchange.market
      (exchange.market.roles.revokeRole .defaultAdmin message role account))
  | .renounceRole role callerConfirmation => liftMarket exchange (withRoles exchange.market
      (exchange.market.roles.renounceRole message role callerConfirmation))
  | .forced amount => .ok (.done { exchange with
      market := { exchange.market with balance := exchange.market.balance + amount } } [])

def enter (market : Address) (transaction : Transaction) (exchange : Exchange) : ExchangeResult :=
  match transaction.call with
  | .nft call => liftNft exchange
      (Nft.enter ⟨transaction.message, call, transaction.real⟩ exchange.nft)
  | .market call => enterMarket market transaction.message call exchange
  | .elsewhere => .ok (.calling exchange .elsewhere [])

def resumeExchange (rest : ExchangeRest) (exchange : Exchange) : ExchangeResult :=
  match rest with
  | .nft rest => liftNft exchange (Nft.resume rest exchange.nft)
  | .market rest => liftMarket exchange (resume rest exchange.market)
  | .elsewhere => .ok (.done exchange [])

/-- The exchange with the marketplace at `market`. -/
def machine (market : Address) :
    Machine Exchange Transaction ExchangeRest ExchangeFailure (List ExchangeEvent) where
  enter := enter market
  resume := resumeExchange

/-- Every move in turn, from two deployed contracts and no call under way. -/
abbrev history (market : Address) (start : Exchange) (moves : List (Move Transaction)) :
    Run.Trace (Config Exchange ExchangeRest) (Move Transaction) (Effect (List ExchangeEvent)) :=
  Run.run (machine market).step ⟨start, []⟩ moves

/-- The stretches of a run that were not undone. -/
abbrev Entry : Type :=
  Run.Entry Exchange (Stretch Transaction ExchangeRest) (List ExchangeEvent)

theorem liftNft_ok {exchange : Exchange} {attempt : Nft.Result}
    {progress : Progress Exchange ExchangeRest (List ExchangeEvent)}
    (accepted : liftNft exchange attempt = .ok progress) :
    ∃ inner, attempt = .ok inner ∧
      progress = inner.map (fun nft => { exchange with nft := nft }) .nft (List.map .nft) := by
  unfold liftNft at accepted
  split at accepted
  · rename_i inner
    cases accepted
    exact ⟨inner, rfl, rfl⟩
  · cases accepted

theorem liftMarket_ok {exchange : Exchange} {attempt : Result}
    {progress : Progress Exchange ExchangeRest (List ExchangeEvent)}
    (accepted : liftMarket exchange attempt = .ok progress) :
    ∃ inner, attempt = .ok inner ∧ progress =
      inner.map (fun market => { exchange with market := market }) .market (List.map .market) := by
  unfold liftMarket at accepted
  split at accepted
  · rename_i inner
    cases accepted
    exact ⟨inner, rfl, rfl⟩
  · cases accepted

@[simp] theorem bubble_eq_ok {α : Type} (attempt : Except Nft.Failure α) (value : α) :
    bubble attempt = .ok value ↔ attempt = .ok value := by
  cases attempt <;> simp [bubble]

/-- An accepted `list`: by the owner, with the marketplace approved. -/
theorem list_ok {market : Address} {message : Message} {nftId price : Uint256} {nft : Nft.State}
    {state : State} {progress : Progress State Rest (List Event)}
    (accepted : list market message nftId price nft state = .ok progress) :
    nft.nft.owners nftId = message.sender ∧
      (nft.nft.tokenApprovals nftId = market ∨
        nft.nft.operatorApprovals message.sender market = true) ∧
      progress.state = { state with
        listings := Function.update state.listings nftId ⟨message.sender, price, true⟩ } := by
  simp only [list, bind_eq_ok, bubble_eq_ok, Erc721.requireOwned, require_eq_ok, pure_eq_ok,
    exists_and_left, exists_const] at accepted
  obtain ⟨owner, ⟨-, rfl⟩, same, approved, rfl⟩ := accepted
  exact ⟨same, approved, rfl⟩

theorem cancelListing_ok {message : Message} {nftId : Uint256} {state : State}
    {progress : Progress State Rest (List Event)}
    (accepted : cancelListing message nftId state = .ok progress) :
    progress.state = { state with
      listings := Function.update state.listings nftId
        { state.listings nftId with active := false } } := by
  simp only [cancelListing, bind_eq_ok, pure_eq_ok] at accepted
  obtain ⟨_, -, rfl⟩ := accepted
  rfl

/-- A sale is opened on an active listing, at its price. -/
theorem openSale_ok {message : Message} {value nftId : Uint256} {nft : Nft.State} {state : State}
    {sale : Sale} (accepted : openSale message value nftId nft state = .ok sale) :
    (state.listings nftId).active = true ∧ (state.listings nftId).price ≤ value ∧
      sale.nftId = nftId ∧ sale.seller = (state.listings nftId).seller ∧
      sale.buyer = message.sender ∧ sale.price = (state.listings nftId).price := by
  simp only [openSale, bind_eq_ok, nonReentrant_eq_ok, require_eq_ok, pure_eq_ok,
    exists_and_left, exists_const] at accepted
  obtain ⟨-, active, enough, _, -, _, -, _, -, _, -, rfl⟩ := accepted
  exact ⟨active, BitVec.not_lt.mp enough, rfl, rfl, rfl, rfl⟩

/-- An accepted `buy` that has moved the token and waits for the buyer's hook. -/
structure BuyStep (market : Address) (message : Message) (value nftId : Uint256)
    (before after : Exchange) (sale : Sale) : Prop where
  opened : openSale message value nftId before.nft before.market = .ok sale
  owned : before.nft.nft.owners nftId = (before.market.listings nftId).seller
  owners : after.nft.nft.owners = Function.update before.nft.nft.owners nftId message.sender
  market_eq : after.market = before.market.selling sale

theorem buy_ok {market : Address} {message : Message} {value nftId : Uint256}
    {exchange : Exchange} {progress : Progress Exchange ExchangeRest (List ExchangeEvent)}
    (accepted : buy market message value nftId exchange = .ok progress) :
    ∃ sale, BuyStep market message value nftId exchange progress.state sale := by
  unfold buy at accepted
  split at accepted
  · cases accepted
  · rename_i sale opened
    split at accepted
    · cases accepted
    · rename_i moved returned
      cases accepted
      obtain ⟨-, -, rfl, seller, buyer, -⟩ := openSale_ok opened
      obtain ⟨owned, owners, -⟩ := Erc721.transferFrom_ok returned
      rw [seller] at owned
      rw [buyer] at owners
      exact ⟨sale, opened, owned, owners, rfl⟩

theorem withRoles_ok {state : State}
    {attempt : Except Failure (AccessControl Role × List (RoleEvent Role))}
    {progress : Progress State Rest (List Event)}
    (accepted : withRoles state attempt = .ok progress) :
    ∃ roles, progress.state = { state with roles := roles } := by
  simp only [withRoles, bind_eq_ok, pure_eq_ok] at accepted
  obtain ⟨changed, -, rfl⟩ := accepted
  exact ⟨changed.1, rfl⟩

/-- A payment changes the balance and, at the end of the sale, the lock. -/
theorem resume_ok {rest : Rest} {state : State} {progress : Progress State Rest (List Event)}
    (accepted : resume rest state = .ok progress) :
    ∃ entered balance, progress.state = { state with entered := entered, balance := balance } := by
  have paid : ∀ amount failure next, pay amount failure next state = .ok progress →
      ∃ entered balance,
        progress.state = { state with entered := entered, balance := balance } := by
    intro amount failure next returned
    simp only [pay, bind_eq_ok, pure_eq_ok] at returned
    obtain ⟨_, -, rfl⟩ := returned
    exact ⟨state.entered, _, rfl⟩
  have finished : ∀ sale, finish sale state = .ok progress → ∃ entered balance,
      progress.state = { state with entered := entered, balance := balance } := by
    intro sale returned
    cases returned
    exact ⟨false, state.balance, rfl⟩
  cases rest with
  | delivered sale =>
    simp only [resume] at accepted
    split at accepted
    · exact paid _ _ _ accepted
    · exact paid _ _ _ accepted
  | royaltyPaid sale => exact paid _ _ _ accepted
  | feePaid sale => exact paid _ _ _ accepted
  | sellerPaid sale =>
    simp only [resume] at accepted
    split at accepted
    · exact paid _ _ _ accepted
    · exact finished sale accepted
  | refunded sale => exact finished sale accepted

end BigX.Market
