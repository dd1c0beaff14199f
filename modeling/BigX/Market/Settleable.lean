import BigX.Market.Payments

set_option autoImplicit false

/- Which sales the marketplace can settle. Fee and royalty are bounded apart and rounded down
apart; a purchase reverts when together they are more than the price. -/
namespace BigX.Market

open Evm Run

/-- The bounds that the two contracts put on royalties and fee, each on its own. -/
structure RatesBounded (exchange : Exchange) : Prop where
  royalties : Nft.RoyaltiesBounded exchange.nft
  fee : exchange.market.protocolFeeBps.toNat ≤ 1000

theorem withRoles_fee {state : State}
    {attempt : Except Failure (AccessControl Role × List (RoleEvent Role))}
    {progress : Progress State Rest (List Event)}
    (accepted : withRoles state attempt = .ok progress) :
    progress.state.protocolFeeBps = state.protocolFeeBps := by
  obtain ⟨roles, wrote⟩ := withRoles_ok accepted
  rw [wrote]

/-- The marketplace's part of a call leaves the token contract and keeps the fee's bound. -/
theorem RatesBounded.market {now : Exchange} (held : RatesBounded now) {attempt : Result}
    {progress : Progress Exchange ExchangeRest (List ExchangeEvent)}
    (accepted : liftMarket now attempt = .ok progress)
    (bounded : ∀ inner, attempt = .ok inner →
      inner.state.protocolFeeBps = now.market.protocolFeeBps ∨
        inner.state.protocolFeeBps.toNat ≤ 1000) : RatesBounded progress.state := by
  obtain ⟨inner, returned, rfl⟩ := liftMarket_ok accepted
  have fee : inner.state.protocolFeeBps.toNat ≤ 1000 := by
    rcases bounded inner returned with same | within
    · rw [same]
      exact held.fee
    · exact within
  rw [map_state]
  exact ⟨held.royalties, fee⟩

theorem RatesBounded.enterMarket {now : Exchange} (held : RatesBounded now) {market : Address}
    {message : Message} {call : Call}
    {progress : Progress Exchange ExchangeRest (List ExchangeEvent)}
    (accepted : enterMarket market message call now = .ok progress) :
    RatesBounded progress.state := by
  cases call with
  | list nftId price =>
    apply held.market accepted
    intro inner returned
    rw [(list_ok returned).2.2]
    exact .inl rfl
  | cancelListing nftId =>
    apply held.market accepted
    intro inner returned
    rw [cancelListing_ok returned]
    exact .inl rfl
  | buy value nftId =>
    change buy market message value nftId now = .ok progress at accepted
    unfold buy at accepted
    split at accepted
    · cases accepted
    · split at accepted
      · cases accepted
      · cases accepted
        exact ⟨⟨held.royalties.default_, held.royalties.own⟩, held.fee⟩
  | setProtocolFee bps =>
    apply held.market accepted
    intro inner returned
    simp only [setProtocolFee, bind_eq_ok, require_eq_ok, pure_eq_ok] at returned
    obtain ⟨_, -, _, within, rfl⟩ := returned
    exact .inr (BitVec.le_def.mp within)
  | grantRole role account => exact held.market accepted fun _ returned => .inl (withRoles_fee returned)
  | revokeRole role account => exact held.market accepted fun _ returned => .inl (withRoles_fee returned)
  | renounceRole role callerConfirmation =>
    exact held.market accepted fun _ returned => .inl (withRoles_fee returned)
  | forced amount =>
    cases accepted
    exact ⟨held.royalties, held.fee⟩

theorem RatesBounded.nft {now : Exchange} (held : RatesBounded now) {attempt : Nft.Result}
    {progress : Progress Exchange ExchangeRest (List ExchangeEvent)}
    (accepted : liftNft now attempt = .ok progress)
    (bounded : ∀ inner, attempt = .ok inner → Nft.RoyaltiesBounded inner.state) :
    RatesBounded progress.state := by
  obtain ⟨inner, returned, rfl⟩ := liftNft_ok accepted
  rw [map_state]
  exact ⟨bounded inner returned, held.fee⟩

theorem RatesBounded.advance {now : Exchange} (held : RatesBounded now) {market : Address}
    {stretch : Stretch Transaction ExchangeRest}
    {progress : Progress Exchange ExchangeRest (List ExchangeEvent)}
    (accepted : (machine market).advance stretch now = .ok progress) :
    RatesBounded progress.state := by
  cases stretch with
  | start transaction =>
    obtain ⟨message, call, real⟩ := transaction
    cases call with
    | nft call =>
      apply held.nft accepted
      intro inner returned
      exact held.royalties.wrote (Nft.enter_wrote returned)
    | market call => exact held.enterMarket accepted
    | elsewhere =>
      cases accepted
      exact held
  | rest pending =>
    cases pending with
    | nft rest =>
      apply held.nft accepted
      intro inner returned
      exact held.royalties.wrote (Nft.resume_wrote returned)
    | market rest =>
      apply held.market accepted
      intro inner returned
      obtain ⟨entered, balance, wrote⟩ := resume_ok returned
      rw [wrote]
      exact .inl rfl
    | elsewhere =>
      cases accepted
      exact held

theorem ratesBounded_history {start : Exchange} (bounded : RatesBounded start) (market : Address)
    (moves : List (Move Transaction)) :
    RatesBounded (history market start moves).now.state := by
  apply journal_induction (machine market) start (fun _ now => RatesBounded now)
  · exact bounded
  · intro _ now stretch progress held accepted
    exact held.advance accepted

/-- A purchase gets past the arithmetic of `buy`. -/
def Settleable (message : Message) (value nftId : Uint256) (exchange : Exchange) : Prop :=
  ∃ sale, openSale message value nftId exchange.nft exchange.market = .ok sale ∧
    sale.protocolFee.toNat + sale.royaltyAmount.toNat ≤ sale.price.toNat

/-- Two shares fit in the price if they do before rounding, or if rounding loses the excess. -/
theorem shares_fit_iff (price royalty fee : Nat) :
    price * fee / 10000 + price * royalty / 10000 ≤ price ↔
      royalty + fee ≤ 10000 ∨
        price * (royalty + fee - 10000) ≤ price * royalty % 10000 + price * fee % 10000 := by
  have royalties := Nat.div_add_mod (price * royalty) 10000
  have fees := Nat.div_add_mod (price * fee) 10000
  by_cases within : royalty + fee ≤ 10000
  · have bound : price * (royalty + fee) ≤ price * 10000 := Nat.mul_le_mul_left price within
    rw [Nat.mul_add] at bound
    omega
  · have excess : price * (royalty + fee - 10000) + price * 10000 =
        price * royalty + price * fee := by
      rw [← Nat.mul_add, ← Nat.mul_add, Nat.sub_add_cancel (by omega)]
    omega

theorem shareOf_of_fits {price : Uint256} {bps : Uint96}
    (fits : price.toNat * bps.toNat < 2 ^ 256) :
    ∃ share, shareOf price bps = .ok share ∧ share.toNat = price.toNat * bps.toNat / 10000 := by
  have widened : (bps.setWidth 256).toNat = bps.toNat := by
    rw [BitVec.toNat_setWidth]
    exact Nat.mod_eq_of_lt (Nat.lt_trans bps.isLt (by decide))
  rw [← widened] at fits
  obtain ⟨product, multiplied, _⟩ :=
    @checkedMul_of_fits Role Error price _ fits
  have returned : shareOf price bps = .ok (product / 10000#256) :=
    bind_of_ok _ _ product multiplied
  exact ⟨_, returned, shareOf_ok returned⟩

/-- Whether a purchase is settled depends on the two shares alone. -/
theorem settleable_iff_shares {exchange : Exchange} (bounded : RatesBounded exchange)
    (message : Message) (value nftId : Uint256)
    (unlocked : exchange.market.entered = false)
    (active : (exchange.market.listings nftId).active = true)
    (small : (exchange.market.listings nftId).price.toNat * 10000 < 2 ^ 256)
    (enough : (exchange.market.listings nftId).price ≤ value) :
    Settleable message value nftId exchange ↔
      (exchange.market.listings nftId).price.toNat * exchange.market.protocolFeeBps.toNat / 10000 +
          (exchange.market.listings nftId).price.toNat *
            (Nft.royaltyBps nftId exchange.nft).toNat / 10000 ≤
        (exchange.market.listings nftId).price.toNat := by
  have below : ∀ bps, bps ≤ 10000 →
      (exchange.market.listings nftId).price.toNat * bps < 2 ^ 256 := fun bps within =>
    Nat.lt_of_le_of_lt (Nat.mul_le_mul_left _ within) small
  obtain ⟨receiver, amount, asked, royalty⟩ := Nft.royaltyInfo_of_fits
    (below _ (bounded.royalties.royaltyBps_le nftId))
  obtain ⟨fee, charged, protocolFee⟩ := shareOf_of_fits
    (below _ (Nat.le_trans bounded.fee (by decide)))
  constructor
  · rintro ⟨sale, opened, fits⟩
    obtain ⟨-, split_⟩ := openSale_split opened
    have price : (exchange.market.listings nftId).price = sale.price := by rw [split_.listing]
    rw [price] at asked royalty
    have same := Except.ok.inj (split_.royalty.symm.trans asked)
    rw [price, ← royalty, ← split_.fee, ← (Prod.mk.inj same).2]
    exact fits
  · intro fits
    rw [← protocolFee, ← royalty] at fits
    obtain ⟨afterFee, first, left⟩ := @checkedSub_of_covers Role Error
      (exchange.market.listings nftId).price fee (by omega)
    obtain ⟨proceeds, second, -⟩ := @checkedSub_of_covers Role Error
      afterFee amount (by omega)
    obtain ⟨sale, opened⟩ : ∃ sale,
        openSale message value nftId exchange.nft exchange.market = .ok sale := by
      simp only [openSale, bind_eq_ok, nonReentrant_eq_ok, require_eq_ok, bubble_eq_ok,
        pure_eq_ok]
      exact ⟨_, (), unlocked, (), active, (), BitVec.not_lt.mpr enough, _, asked, _, charged, _,
        first, _, second, rfl⟩
    have shares := (openSale_split opened).2.shares
    exact ⟨sale, opened, by omega⟩

/-- In every state of a deployed marketplace beside its token contract, a listing at a price
that is small enough to be multiplied can be bought exactly if royalty and fee are at most
the whole price, or the excess is what rounding them loses. -/
theorem settleable_iff (market : Address) (message nftMessage : Message)
    (admin nftAdmin feeRecipient royaltyReceiver : Address) (royaltyBps : Nft.Uint96)
    (balance : Nat) (deployed : Nft.State × List Nft.Event)
    (accepted : Nft.deploy nftMessage nftAdmin royaltyReceiver royaltyBps = .ok deployed)
    (moves : List (Move Transaction)) (purchase : Message) (value nftId : Uint256) :
    let exchange := (history market
      ⟨deployed.1, (deploy message admin feeRecipient balance).1⟩ moves).now.state
    let listing := exchange.market.listings nftId
    let royalty := (Nft.royaltyBps nftId exchange.nft).toNat
    let fee := exchange.market.protocolFeeBps.toNat
    exchange.market.entered = false → listing.active = true →
      listing.price.toNat * 10000 < 2 ^ 256 → listing.price ≤ value →
      (Settleable purchase value nftId exchange ↔
        royalty + fee ≤ 10000 ∨ listing.price.toNat * (royalty + fee - 10000) ≤
          listing.price.toNat * royalty % 10000 + listing.price.toNat * fee % 10000) := by
  intro exchange listing royalty fee unlocked active small enough
  have start : RatesBounded ⟨deployed.1, (deploy message admin feeRecipient balance).1⟩ :=
    ⟨Nft.deploy_bounded accepted, show (250#96).toNat ≤ 1000 by decide⟩
  have bounded : RatesBounded exchange := ratesBounded_history start market moves
  rw [settleable_iff_shares bounded purchase value nftId unlocked active small enough]
  exact shares_fit_iff listing.price.toNat royalty fee

theorem admin_real : (1#160 : Address) ≠ Address.zero := by decide

theorem owner_real : (5#160 : Address) ≠ Address.zero := by decide

/-- Account 5 lists token 0 for 100, after the administrator set its royalty. -/
def royaltyMoves (feeBps : Uint96) : List (Move Transaction) :=
  [.call ⟨⟨1#160, 0#256⟩, .nft (.mintAgent ⟨5#160, "ipfs://agent", 7#256⟩), admin_real⟩,
   .returned,
   .call ⟨⟨1#160, 0#256⟩, .nft (.setTokenRoyalty 0#256 2#160 feeBps), admin_real⟩,
   .call ⟨⟨5#160, 0#256⟩, .nft (.setApprovalForAll 20#160 true), owner_real⟩,
   .call ⟨⟨5#160, 0#256⟩, .market (.list 0#256 100#256), owner_real⟩]

/-- With a royalty of half the price the listing can be bought. -/
theorem settleable_half :
    ∃ deployed, Nft.deploy ⟨1#160, 0#256⟩ 1#160 2#160 500#96 = .ok deployed ∧
      Settleable ⟨9#160, 0#256⟩ 120#256 0#256 (history 20#160
        ⟨deployed.1, (deploy ⟨1#160, 0#256⟩ 1#160 3#160 0).1⟩ (royaltyMoves 5000#96)).now.state := by
  refine ⟨_, rfl, ?_⟩
  exact (settleable_iff 20#160 ⟨1#160, 0#256⟩ ⟨1#160, 0#256⟩ 1#160 1#160 3#160 2#160 500#96 0 _ rfl
    (royaltyMoves 5000#96) ⟨9#160, 0#256⟩ 120#256 0#256 (by decide +kernel) (by decide +kernel)
    (by decide +kernel) (by decide +kernel)).mpr (.inl (by decide +kernel))

/-- With a royalty of the whole price it is listed, and no payment buys it. -/
theorem whole_royalty_unsettleable :
    ∃ deployed, Nft.deploy ⟨1#160, 0#256⟩ 1#160 2#160 500#96 = .ok deployed ∧
      let exchange := (history 20#160 ⟨deployed.1, (deploy ⟨1#160, 0#256⟩ 1#160 3#160 0).1⟩
        (royaltyMoves 10000#96)).now.state
      exchange.market.listings 0#256 = ⟨5#160, 100#256, true⟩ ∧
        exchange.market.entered = false ∧
        openSale ⟨9#160, 0#256⟩ 120#256 0#256 exchange.nft exchange.market = .error .panic ∧
        ¬ Settleable ⟨9#160, 0#256⟩ 120#256 0#256 exchange := by
  refine ⟨_, rfl, ?_⟩
  intro exchange
  have panics : openSale ⟨9#160, 0#256⟩ 120#256 0#256 exchange.nft exchange.market =
      .error .panic := by decide +kernel
  refine ⟨by decide +kernel, by decide +kernel, panics, ?_⟩
  rintro ⟨sale, opened, -⟩
  rw [panics] at opened
  cases opened

end BigX.Market
