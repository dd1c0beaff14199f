import BigX.Market.Steps

set_option autoImplicit false

/- Which listing a sale executes. A listing is a table entry that stays until the next call
about its token; transfers of the token do not touch it. -/
namespace BigX.Market

open Evm Run

/-- The entry is a call that writes the listing of `nftId`. -/
def touches (nftId : Uint256) (entry : Entry) : Bool :=
  match entry.input with
  | .start ⟨_, .market (.list listed _), _⟩ => listed = nftId
  | .start ⟨_, .market (.cancelListing cancelled), _⟩ => cancelled = nftId
  | .start ⟨_, .market (.buy _ bought), _⟩ => bought = nftId
  | _ => false

/-- The last call about the listing of `nftId`. -/
def lastTouch (nftId : Uint256) (past : List Entry) : Option Entry :=
  (past.reverse.dropWhile fun entry => !touches nftId entry).head?

/-- What came after it, newest first. -/
def sinceTouch (nftId : Uint256) (past : List Entry) : List Entry :=
  past.reverse.takeWhile fun entry => !touches nftId entry

/-- The entry is a `list` call of `seller`, who owned the token and had approved the
marketplace at `market` for it. -/
structure ListCall (market : Address) (entry : Entry) (nftId : Uint256) (seller : Address)
    (price : Uint256) : Prop where
  called : ∃ message real, entry.input = .start ⟨message, .market (.list nftId price), real⟩ ∧
    message.sender = seller
  owned : entry.before.nft.nft.owners nftId = seller
  approved : entry.before.nft.nft.tokenApprovals nftId = market ∨
    entry.before.nft.nft.operatorApprovals seller market = true

/-- The entry is a call of `buy`, which opened `sale`. -/
def Buys (entry : Entry) (sale : Sale) : Prop :=
  ∃ message value nftId real, entry.input = .start ⟨message, .market (.buy value nftId), real⟩ ∧
    openSale message value nftId entry.before.nft entry.before.market = .ok sale

/-- Each purchase is of what the last call about the listing listed, from whoever listed it,
who owns the token again or still, and at that price. -/
def SoldAsListed (market : Address) (earlier : List Entry) (entry : Entry) : Prop :=
  ∀ sale, Buys entry sale →
    (∃ listing, lastTouch sale.nftId earlier = some listing ∧
      ListCall market listing sale.nftId sale.seller sale.price) ∧
    entry.before.nft.nft.owners sale.nftId = sale.seller

/-- The same, and the seller has owned the token all along. -/
def SoldFresh (market : Address) (earlier : List Entry) (entry : Entry) : Prop :=
  SoldAsListed market earlier entry ∧ ∀ sale, Buys entry sale →
    ∀ passed ∈ sinceTouch sale.nftId earlier,
      passed.after.nft.nft.owners sale.nftId = sale.seller

theorem lastTouch_snoc (nftId : Uint256) (past : List Entry) (last : Entry) :
    lastTouch nftId (past ++ [last]) =
      if touches nftId last then some last else lastTouch nftId past := by
  cases touched : touches nftId last <;>
    simp [lastTouch, touched]

/-- What a stretch does to the listing of a token. -/
inductive ListingStep (market : Address) (nftId : Uint256) (before after : Listing)
    (entry : Entry) : Prop
  | kept (untouched : touches nftId entry = false) (same : after = before)
  | closed (inactive : after.active = false)
  | listed (seller : Address) (price : Uint256) (touched : touches nftId entry = true)
      (wrote : after = ⟨seller, price, true⟩) (call : ListCall market entry nftId seller price)

theorem listingStep_update {market : Address} {nftId : Uint256} (written : Uint256)
    {listing : Listing} {before after : State} {entry : Entry}
    (wrote : after.listings = Function.update before.listings written listing)
    (touched : touches nftId entry = decide (written = nftId))
    (own : written = nftId →
      ListingStep market nftId (before.listings nftId) listing entry) :
    ListingStep market nftId (before.listings nftId) (after.listings nftId) entry := by
  rw [wrote]
  by_cases same : written = nftId
  · subst same
    rw [Function.update_self]
    exact own rfl
  · rw [Function.update_of_ne (Ne.symm same)]
    exact .kept (by rw [touched]; exact decide_eq_false same) rfl

/-- Only three calls write a listing. -/
theorem enterMarket_listing {market : Address} {message : Message} {call : Call}
    (real : message.sender ≠ Address.zero) {now : Exchange}
    {progress : Progress Exchange ExchangeRest (List ExchangeEvent)}
    (accepted : enterMarket market message call now = .ok progress) (nftId : Uint256) :
    ListingStep market nftId (now.market.listings nftId) (progress.state.market.listings nftId)
      ⟨now, .start ⟨message, .market call, real⟩, progress.output, progress.state⟩ := by
  cases call with
  | list listed price =>
    obtain ⟨inner, returned, same⟩ := liftMarket_ok accepted
    obtain ⟨owned, approved, wrote⟩ := list_ok returned
    refine listingStep_update listed (by rw [same, map_state, wrote]) rfl ?_
    rintro rfl
    exact .listed message.sender price (by simp [touches]) rfl
      ⟨⟨message, real, rfl, rfl⟩, owned, approved⟩
  | cancelListing cancelled =>
    obtain ⟨inner, returned, same⟩ := liftMarket_ok accepted
    have wrote := cancelListing_ok returned
    refine listingStep_update cancelled (by rw [same, map_state, wrote]) rfl ?_
    rintro rfl
    exact .closed rfl
  | buy value bought =>
    obtain ⟨sale, step⟩ := buy_ok accepted
    have sold := (openSale_ok step.opened).2.2.1
    refine listingStep_update bought
      (by rw [step.market_eq, State.selling, sold]) rfl ?_
    rintro rfl
    exact .closed rfl
  | forced amount =>
    cases accepted
    exact .kept rfl rfl
  | setProtocolFee bps =>
    obtain ⟨inner, returned, same⟩ := liftMarket_ok accepted
    simp only [setProtocolFee, bind_eq_ok, pure_eq_ok] at returned
    obtain ⟨_, -, _, -, rfl⟩ := returned
    exact .kept rfl (by rw [same, map_state]; rfl)
  | grantRole role account =>
    obtain ⟨inner, returned, same⟩ := liftMarket_ok accepted
    obtain ⟨roles, wrote⟩ := withRoles_ok returned
    exact .kept rfl (by rw [same, map_state, wrote])
  | revokeRole role account =>
    obtain ⟨inner, returned, same⟩ := liftMarket_ok accepted
    obtain ⟨roles, wrote⟩ := withRoles_ok returned
    exact .kept rfl (by rw [same, map_state, wrote])
  | renounceRole role callerConfirmation =>
    obtain ⟨inner, returned, same⟩ := liftMarket_ok accepted
    obtain ⟨roles, wrote⟩ := withRoles_ok returned
    exact .kept rfl (by rw [same, map_state, wrote])

theorem advance_listing {market : Address} {stretch : Stretch Transaction ExchangeRest}
    {now : Exchange} {progress : Progress Exchange ExchangeRest (List ExchangeEvent)}
    (accepted : (machine market).advance stretch now = .ok progress) (nftId : Uint256) :
    ListingStep market nftId (now.market.listings nftId) (progress.state.market.listings nftId)
      ⟨now, stretch, progress.output, progress.state⟩ := by
  cases stretch with
  | start transaction =>
    obtain ⟨message, call, real⟩ := transaction
    cases call with
    | nft call =>
      obtain ⟨inner, -, same⟩ := liftNft_ok accepted
      exact .kept rfl (by rw [same, map_state])
    | market call => exact enterMarket_listing real accepted nftId
    | elsewhere =>
      cases accepted
      exact .kept rfl rfl
  | rest pending =>
    cases pending with
    | nft rest =>
      obtain ⟨inner, -, same⟩ := liftNft_ok accepted
      exact .kept rfl (by rw [same, map_state])
    | market rest =>
      obtain ⟨inner, returned, same⟩ := liftMarket_ok accepted
      obtain ⟨entered, balance, wrote⟩ := resume_ok returned
      exact .kept rfl (by rw [same, map_state, wrote])
    | elsewhere =>
      cases accepted
      exact .kept rfl rfl

/-- Every active listing is the one that the last call about it made. -/
def Listed (market : Address) (past : List Entry) (now : Exchange) : Prop :=
  ∀ nftId, (now.market.listings nftId).active = true →
    ∃ listing, lastTouch nftId past = some listing ∧
      ListCall market listing nftId (now.market.listings nftId).seller
        (now.market.listings nftId).price

theorem Listed.advance {market : Address} {past : List Entry} {now : Exchange}
    (held : Listed market past now) {stretch : Stretch Transaction ExchangeRest}
    {progress : Progress Exchange ExchangeRest (List ExchangeEvent)}
    (accepted : (machine market).advance stretch now = .ok progress) :
    Listed market (past ++ [⟨now, stretch, progress.output, progress.state⟩]) progress.state := by
  intro nftId active
  rw [lastTouch_snoc]
  cases advance_listing accepted nftId with
  | kept untouched same =>
    rw [same] at active ⊢
    rw [if_neg (by simp [untouched])]
    exact held nftId active
  | closed inactive =>
    rw [inactive] at active
    cases active
  | listed seller price touched wrote call =>
    rw [if_pos touched, wrote]
    exact ⟨_, rfl, call⟩

/-- A purchase finds its listing active. -/
theorem Listed.sold {market : Address} {past : List Entry} {now : Exchange}
    (held : Listed market past now) {stretch : Stretch Transaction ExchangeRest}
    {progress : Progress Exchange ExchangeRest (List ExchangeEvent)}
    (accepted : (machine market).advance stretch now = .ok progress) :
    SoldAsListed market past ⟨now, stretch, progress.output, progress.state⟩ := by
  rintro sale ⟨message, value, nftId, real, rfl, opened⟩
  obtain ⟨active, -, same, seller, -, price⟩ := openSale_ok opened
  obtain ⟨other, step⟩ := buy_ok accepted
  rw [same, seller, price]
  exact ⟨held nftId active, step.owned⟩

/-- The sale that a pending `buy` carries along. -/
def Rest.sale : Rest → Sale
  | .delivered sale => sale
  | .royaltyPaid sale => sale
  | .feePaid sale => sale
  | .sellerPaid sale => sale
  | .refunded sale => sale

/-- A `Sold` event reports a sale that an earlier purchase opened. -/
def Completes (earlier : List Entry) (entry : Entry) : Prop :=
  ∀ nftId seller buyer price, .market (.sold nftId seller buyer price) ∈ entry.output →
    ∃ purchase ∈ earlier, ∃ sale, Buys purchase sale ∧ sale.nftId = nftId ∧
      sale.seller = seller ∧ sale.buyer = buyer ∧ sale.price = price

/-- The sale of a pending `buy` was opened by a purchase that still counts. -/
def Purchased (past : List Entry) (pending : ExchangeRest) : Prop :=
  match pending with
  | .market rest => ∃ purchase ∈ past, Buys purchase rest.sale
  | _ => True

/-- Every payment belongs to the sale it started with, and only its end reports it. -/
theorem resume_sale {rest : Rest} {state : State} {progress : Progress State Rest (List Event)}
    (accepted : resume rest state = .ok progress) :
    (∀ after next output, progress = .calling after next output → next.sale = rest.sale) ∧
      ∀ event ∈ progress.output,
        event = .sold rest.sale.nftId rest.sale.seller rest.sale.buyer rest.sale.price := by
  have paid : ∀ amount failure next, pay amount failure next state = .ok progress →
      next.sale = rest.sale →
      (∀ after other output, progress = .calling after other output → other.sale = rest.sale) ∧
        ∀ event ∈ progress.output,
          event = .sold rest.sale.nftId rest.sale.seller rest.sale.buyer rest.sale.price := by
    intro amount failure next returned same
    simp only [pay, bind_eq_ok, pure_eq_ok] at returned
    obtain ⟨_, -, rfl⟩ := returned
    refine ⟨?_, ?_⟩
    · intro after other output equal
      cases equal
      exact same
    · intro event member
      cases member
  have finished : finish rest.sale state = .ok progress →
      (∀ after other output, progress = .calling after other output → other.sale = rest.sale) ∧
        ∀ event ∈ progress.output,
          event = .sold rest.sale.nftId rest.sale.seller rest.sale.buyer rest.sale.price := by
    intro returned
    cases returned
    refine ⟨?_, ?_⟩
    · intro after other output equal
      cases equal
    · intro event member
      exact List.mem_singleton.mp member
  cases rest with
  | delivered sale =>
    simp only [resume] at accepted
    split at accepted
    · exact paid _ _ _ accepted rfl
    · exact paid _ _ _ accepted rfl
  | royaltyPaid sale => exact paid _ _ _ accepted rfl
  | feePaid sale => exact paid _ _ _ accepted rfl
  | sellerPaid sale =>
    simp only [resume] at accepted
    split at accepted
    · exact paid _ _ _ accepted rfl
    · exact finished accepted
  | refunded sale => exact finished accepted

/-- A call starts with no sale reported, and a purchase waits with the sale it opened. -/
structure Starts (entry : Entry) (progress : Progress Exchange ExchangeRest (List ExchangeEvent)) :
    Prop where
  unreported : ∀ nftId seller buyer price,
    .market (.sold nftId seller buyer price) ∉ progress.output
  waits : ∀ after pending output, progress = .calling after pending output →
    Purchased [entry] pending

theorem starts_nft {exchange : Exchange} {attempt : Nft.Result} {entry : Entry}
    {progress : Progress Exchange ExchangeRest (List ExchangeEvent)}
    (accepted : liftNft exchange attempt = .ok progress) : Starts entry progress := by
  obtain ⟨inner, -, rfl⟩ := liftNft_ok accepted
  refine ⟨?_, ?_⟩
  · intro nftId seller buyer price member
    rw [map_output] at member
    obtain ⟨event, -, other⟩ := List.mem_map.mp member
    cases other
  · intro after pending output same
    cases inner with
    | done state written => cases same
    | calling state rest written =>
      cases same
      trivial

/-- The functions of the marketplace that do not call out. -/
theorem starts_done {exchange : Exchange} {attempt : Result} {entry : Entry}
    {progress : Progress Exchange ExchangeRest (List ExchangeEvent)}
    (accepted : liftMarket exchange attempt = .ok progress)
    (plain : ∀ inner, attempt = .ok inner → ∃ state output, inner = .done state output ∧
      ∀ nftId seller buyer price, .sold nftId seller buyer price ∉ output) :
    Starts entry progress := by
  obtain ⟨inner, returned, rfl⟩ := liftMarket_ok accepted
  obtain ⟨state, output, rfl, quiet⟩ := plain inner returned
  refine ⟨?_, ?_⟩
  · intro nftId seller buyer price member
    obtain ⟨event, within, same⟩ := List.mem_map.mp member
    cases same
    exact quiet nftId seller buyer price within
  · intro after pending output same
    cases same

theorem withRoles_plain {state : State}
    {attempt : Except Failure (AccessControl Role × List (RoleEvent Role))}
    (inner : Progress State Rest (List Event)) (accepted : withRoles state attempt = .ok inner) :
    ∃ after output, inner = .done after output ∧
      ∀ nftId seller buyer price, .sold nftId seller buyer price ∉ output := by
  simp only [withRoles, bind_eq_ok, pure_eq_ok] at accepted
  obtain ⟨changed, -, rfl⟩ := accepted
  exact ⟨_, _, rfl, by simp⟩

theorem enter_starts {market : Address} {transaction : Transaction} {now : Exchange}
    {progress : Progress Exchange ExchangeRest (List ExchangeEvent)}
    (accepted : enter market transaction now = .ok progress) :
    Starts ⟨now, .start transaction, progress.output, progress.state⟩ progress := by
  obtain ⟨message, call, real⟩ := transaction
  cases call with
  | nft call => exact starts_nft accepted
  | elsewhere =>
    cases accepted
    refine ⟨by simp [Progress.output], ?_⟩
    intro after pending output same
    cases same
    trivial
  | market call =>
    cases call with
    | list nftId price =>
      refine starts_done accepted ?_
      intro inner returned
      simp only [list, bind_eq_ok, pure_eq_ok] at returned
      obtain ⟨_, -, _, -, _, -, rfl⟩ := returned
      exact ⟨_, _, rfl, by simp⟩
    | cancelListing nftId =>
      refine starts_done accepted ?_
      intro inner returned
      simp only [cancelListing, bind_eq_ok, pure_eq_ok] at returned
      obtain ⟨_, -, rfl⟩ := returned
      exact ⟨_, _, rfl, by simp⟩
    | buy value nftId =>
      have called : buy market message value nftId now = .ok progress := accepted
      unfold buy at called
      split at called
      · cases called
      · rename_i sale opened
        split at called
        · cases called
        · cases called
          refine ⟨by simp [Progress.output], ?_⟩
          intro after pending output same
          cases same
          exact ⟨_, List.mem_singleton_self _, message, value, nftId, real, rfl, opened⟩
    | setProtocolFee bps =>
      refine starts_done accepted ?_
      intro inner returned
      simp only [setProtocolFee, bind_eq_ok, pure_eq_ok] at returned
      obtain ⟨_, -, _, -, rfl⟩ := returned
      exact ⟨_, _, rfl, by simp⟩
    | grantRole role account => exact starts_done accepted withRoles_plain
    | revokeRole role account => exact starts_done accepted withRoles_plain
    | renounceRole role callerConfirmation => exact starts_done accepted withRoles_plain
    | forced amount =>
      cases accepted
      refine ⟨by simp [Progress.output], ?_⟩
      intro after pending output same
      cases same

theorem Purchased.extend {past more : List Entry} {pending : ExchangeRest}
    (held : Purchased past pending) (covered : past ⊆ more) : Purchased more pending := by
  cases pending with
  | market rest =>
    obtain ⟨purchase, member, buys⟩ := held
    exact ⟨purchase, covered member, buys⟩
  | nft rest => trivial
  | elsewhere => trivial

/-- A rest goes on for the sale it waited with. -/
theorem rest_completes {market : Address} {past : List Entry} {now : Exchange}
    {pending : ExchangeRest} {progress : Progress Exchange ExchangeRest (List ExchangeEvent)}
    (owed : Purchased past pending)
    (accepted : (machine market).advance (.rest pending) now = .ok progress) :
    Completes past ⟨now, .rest pending, progress.output, progress.state⟩ ∧
      ∀ after next output, progress = .calling after next output → Purchased past next := by
  cases pending with
  | nft rest =>
    have starts : Starts ⟨now, .rest (.nft rest), progress.output, progress.state⟩ progress :=
      starts_nft accepted
    refine ⟨fun nftId seller buyer price member =>
      absurd member (starts.unreported nftId seller buyer price), ?_⟩
    intro after next output same
    have called : liftNft now (Nft.resume rest now.nft) = .ok progress := accepted
    obtain ⟨inner, -, rfl⟩ := liftNft_ok called
    cases inner with
    | done state written => cases same
    | calling state other written =>
      cases same
      trivial
  | market rest =>
    obtain ⟨inner, returned, rfl⟩ := liftMarket_ok accepted
    obtain ⟨carried, reported⟩ := resume_sale returned
    obtain ⟨purchase, bought, buys⟩ := owed
    refine ⟨?_, ?_⟩
    · intro nftId seller buyer price member
      rw [map_output] at member
      obtain ⟨event, within, same⟩ := List.mem_map.mp member
      rw [reported event within] at same
      cases same
      exact ⟨purchase, bought, rest.sale, buys, rfl, rfl, rfl, rfl⟩
    · intro after next output same
      cases inner with
      | done state written => cases same
      | calling state other written =>
        cases same
        refine ⟨purchase, bought, ?_⟩
        rw [carried state other written rfl]
        exact buys
  | elsewhere =>
    cases accepted
    refine ⟨?_, ?_⟩
    · intro nftId seller buyer price member
      cases member
    · intro after next output same
      cases same

/-- In the runs of a deployed marketplace beside any token contract, every purchase that
counts is of a listing as it was last made, by the owner at that time and now, at its price,
and every sale that is reported was such a purchase. -/
theorem sales_as_listed (market : Address) (nft : Nft.State) (message : Message)
    (admin feeRecipient : Address) (balance : Nat) (moves : List (Move Transaction)) :
    Throughout (fun earlier entry => SoldAsListed market earlier entry ∧ Completes earlier entry)
      ((machine market).journal ⟨nft, (deploy message admin feeRecipient balance).1⟩ moves) := by
  suffices both : Throughout
      (fun earlier entry => SoldAsListed market earlier entry ∧ Completes earlier entry)
      ((machine market).journal ⟨nft, (deploy message admin feeRecipient balance).1⟩ moves) ∧
      Listed market
        ((machine market).journal ⟨nft, (deploy message admin feeRecipient balance).1⟩ moves)
        (history market ⟨nft, (deploy message admin feeRecipient balance).1⟩ moves).now.state
      from both.1
  apply journal_induction_pending (machine market) _ (fun past now => Throughout
    (fun earlier entry => SoldAsListed market earlier entry ∧ Completes earlier entry) past ∧
      Listed market past now) Purchased
  · refine ⟨throughout_nil _, ?_⟩
    intro nftId active
    cases active
  · intro past more rest grown owed
    exact owed.extend grown.subset
  · rintro past now stretch progress ⟨held, listed⟩ owed accepted
    have sold := listed.sold accepted
    rw [throughout_snoc]
    refine ⟨⟨⟨held, sold, ?_⟩, listed.advance accepted⟩, ?_⟩
    · cases stretch with
      | start transaction =>
        intro nftId seller buyer price member
        exact absurd member ((enter_starts accepted).unreported nftId seller buyer price)
      | rest pending => exact (rest_completes (owed pending rfl) accepted).1
    · intro state rest output same
      cases stretch with
      | start transaction =>
        have waits := (enter_starts accepted).waits state rest output same
        rw [same] at waits
        exact waits.extend (by simp [Progress.output, Progress.state])
      | rest pending =>
        have next := (rest_completes (owed pending rfl) accepted).2 state rest output same
        exact next.extend (List.subset_append_left _ _)

/-- Account 5 lists token 0 for 100, gives it to account 6, gets it back, and account 9 buys
it for the old price. -/
def resaleMoves : List (Move Transaction) :=
  [.call ⟨⟨1#160, 0#256⟩, .nft (.mintAgent ⟨5#160, "ipfs://agent", 7#256⟩), by decide⟩,
   .returned,
   .call ⟨⟨5#160, 0#256⟩, .nft (.setApprovalForAll 20#160 true), by decide⟩,
   .call ⟨⟨5#160, 0#256⟩, .market (.list 0#256 100#256), by decide⟩,
   .call ⟨⟨5#160, 0#256⟩, .nft (.transferFrom 5#160 6#160 0#256), by decide⟩,
   .call ⟨⟨6#160, 0#256⟩, .nft (.transferFrom 6#160 5#160 0#256), by decide⟩,
   .call ⟨⟨9#160, 0#256⟩, .market (.buy 100#256 0#256), by decide⟩,
   .returned, .returned, .returned, .returned]

/-- The sale goes through, and its seller has not owned the token all along. -/
theorem sales_as_listed_resale :
    ∃ (nft : Nft.State) (events : List Nft.Event),
      Nft.deploy ⟨1#160, 0#256⟩ 1#160 2#160 500#96 = .ok (nft, events) ∧
      (∃ entry ∈ (machine 20#160).journal ⟨nft, (deploy ⟨1#160, 0#256⟩ 1#160 3#160 0).1⟩
          resaleMoves, .market (.sold 0#256 5#160 9#160 100#256) ∈ entry.output) ∧
      ¬ Throughout (SoldFresh 20#160)
        ((machine 20#160).journal ⟨nft, (deploy ⟨1#160, 0#256⟩ 1#160 3#160 0).1⟩ resaleMoves) := by
  refine ⟨_, _, rfl, ⟨_, @List.getElem_mem _ _ 10 (by decide), by decide⟩, fun fresh => ?_⟩
  have purchase := (fresh.at_index 6 (by decide)).2
  have kept := purchase _ ⟨_, _, _, _, rfl, rfl⟩
  exact absurd kept (by decide)

end BigX.Market
