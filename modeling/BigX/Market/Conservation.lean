import BigX.Market.Payments
import BigX.Evm.Undo

set_option autoImplicit false

/- What a purchase does with its payment. While a sale is under way the guard keeps other
purchases out, so the marketplace's payments of that time are those of the sale; ETH that is
forced on it comes on top. -/
namespace BigX.Market

open Evm Run

/-- What the marketplace pays in a stretch. -/
def payments (entry : Entry) : List (Address × Nat) :=
  match entry.input with
  | .rest (.market rest) =>
      ((payment rest entry.before.market).map fun paid => (paid.1, paid.2.toNat)).toList
  | _ => []

/-- The ETH forced on the marketplace in a stretch. -/
def forcedBy (entry : Entry) : Nat :=
  match entry.input with
  | .start ⟨_, .market (.forced amount), _⟩ => amount
  | _ => 0

def forcedIn (entries : List Entry) : Nat := (entries.map forcedBy).sum

/-- The entry lists the token. -/
def Relists (nftId : Uint256) (entry : Entry) : Prop :=
  ∃ message price real, entry.input = .start ⟨message, .market (.list nftId price), real⟩

/-- The entry is a `buy` that split its payment as `sale` says and moved the token. -/
structure Opens (entry : Entry) (message : Message) (value nftId : Uint256) (sale : Sale) :
    Prop where
  called : ∃ real, entry.input = .start ⟨message, .market (.buy value nftId), real⟩
  split_ : Split message value nftId entry.before.nft entry.before.market sale
  receiver : sale.royaltyReceiver ≠ Address.zero
  sold : entry.before.nft.nft.owners nftId = sale.seller
  bought : entry.after.nft.nft.owners nftId = sale.buyer

/-- How far a sale got that waits at `rest`. -/
structure Progressed (opening : Entry) (between : List Entry) (now : State) (rest : Rest) :
    Prop where
  opened : ∃ message value nftId, Opens opening message value nftId rest.sale
  recipient : now.feeRecipient = opening.before.market.feeRecipient
  paid : between.flatMap payments = rest.paid opening.before.market.feeRecipient
  balance : now.balance + ((between.flatMap payments).map Prod.snd).sum =
    opening.before.market.balance + rest.sale.value.toNat + forcedIn between
  closed : (now.listings rest.sale.nftId).active = false ∨
    ∃ entry ∈ between, Relists rest.sale.nftId entry

/-- A purchase from its call to its end: whom it paid what, and what it left. -/
structure Conserved (opening : Entry) (during : List Entry) (after : State) (message : Message)
    (value nftId : Uint256) (sale : Sale) : Prop where
  opened : Opens opening message value nftId sale
  payments_eq : (opening :: during).flatMap payments =
    (if 0 < sale.royaltyAmount.toNat then
        [(sale.royaltyReceiver, sale.royaltyAmount.toNat)] else []) ++
      [(opening.before.market.feeRecipient,
          sale.price.toNat * opening.before.market.protocolFeeBps.toNat / 10000),
        (sale.seller, sale.price.toNat - sale.royaltyAmount.toNat -
          sale.price.toNat * opening.before.market.protocolFeeBps.toNat / 10000)] ++
      (if sale.price.toNat < value.toNat then
        [(message.sender, value.toNat - sale.price.toNat)] else [])
  total : (((opening :: during).flatMap payments).map Prod.snd).sum = value.toNat
  balance : after.balance = opening.before.market.balance + forcedIn during
  closed : (after.listings nftId).active = false ∨ ∃ entry ∈ during, Relists nftId entry

/-- The entry ends a purchase, if any, that conserved its payment. -/
def SaleConserved (earlier : List Entry) (entry : Entry) : Prop :=
  ∀ nftId seller buyer price, .market (.sold nftId seller buyer price) ∈ entry.output →
    ∃ before opening between message value sale, earlier = before ++ opening :: between ∧
      Conserved opening (between ++ [entry]) entry.after.market message value nftId sale ∧
      sale.seller = seller ∧ sale.buyer = buyer ∧ sale.price = price

/-- A stretch that has nothing to do with sales. -/
structure Aside (entry : Entry) : Prop where
  unpaid : payments entry = []
  guard : entry.after.market.entered = entry.before.market.entered
  recipient : entry.after.market.feeRecipient = entry.before.market.feeRecipient
  balance : entry.after.market.balance = entry.before.market.balance + forcedBy entry
  listing : ∀ nftId, (entry.before.market.listings nftId).active = false →
    (entry.after.market.listings nftId).active = false ∨ Relists nftId entry
  royalty : entry.after.nft.defaultRoyalty = entry.before.nft.defaultRoyalty
  unsold : ∀ nftId seller buyer price, .market (.sold nftId seller buyer price) ∉ entry.output

theorem forcedIn_snoc (entries : List Entry) (entry : Entry) :
    forcedIn (entries ++ [entry]) = forcedIn entries + forcedBy entry := by
  simp only [forcedIn, List.map_append, List.map_cons, List.map_nil, List.sum_append,
    List.sum_cons, List.sum_nil, Nat.add_zero]

/-- A sale waits while something else happens. -/
theorem Progressed.aside {opening : Entry} {between : List Entry} {entry : Entry} {rest : Rest}
    (held : Progressed opening between entry.before.market rest) (aside : Aside entry) :
    Progressed opening (between ++ [entry]) entry.after.market rest := by
  have same : (between ++ [entry]).flatMap payments = between.flatMap payments := by
    rw [List.flatMap_append, List.flatMap_singleton, aside.unpaid, List.append_nil]
  refine ⟨held.opened, aside.recipient.trans held.recipient, same.trans held.paid, ?_, ?_⟩
  · have before := held.balance
    rw [same, forcedIn_snoc, aside.balance]
    omega
  · rcases held.closed with inactive | ⟨found, member, relists⟩
    · rcases aside.listing _ inactive with still | relists
      · exact .inl still
      · exact .inr ⟨entry, by simp, relists⟩
    · exact .inr ⟨found, List.mem_append_left _ member, relists⟩

/-- The sale makes its next payment. -/
theorem Progressed.pays {opening : Entry} {between : List Entry} {entry : Entry} {rest next : Rest}
    {target : Address} {amount : Uint256}
    (held : Progressed opening between entry.before.market rest)
    (input : entry.input = .rest (.market rest))
    (due : payment rest entry.before.market = some (target, amount))
    (waits : rest.next = some next) (covered : amount.toNat ≤ entry.before.market.balance)
    (after_eq : entry.after.market = { entry.before.market with
      balance := entry.before.market.balance - amount.toNat }) :
    Progressed opening (between ++ [entry]) entry.after.market next := by
  obtain ⟨grown, same⟩ := paid_next due waits
  rw [held.recipient] at grown
  have made : payments entry = [(target, amount.toNat)] := by
    simp only [payments, input, due, Option.map_some, Option.toList_some]
  have unforced : forcedBy entry = 0 := by simp only [forcedBy, input]
  have all : (between ++ [entry]).flatMap payments =
      between.flatMap payments ++ [(target, amount.toNat)] := by
    rw [List.flatMap_append, List.flatMap_singleton, made]
  refine ⟨by rw [same]; exact held.opened, ?_, ?_, ?_, ?_⟩
  · rw [after_eq]
    exact held.recipient
  · rw [all, grown, held.paid]
  · have before := held.balance
    rw [all, forcedIn_snoc, unforced, after_eq, same, List.map_append, List.sum_append]
    simp only [List.map_cons, List.map_nil, List.sum_cons, List.sum_nil]
    omega
  · rw [after_eq, same]
    rcases held.closed with inactive | ⟨found, member, relists⟩
    · exact .inl inactive
    · exact .inr ⟨found, List.mem_append_left _ member, relists⟩

/-- What an opened sale owes, in numbers. -/
theorem Opens.due_eq {opening : Entry} {message : Message} {value nftId : Uint256} {sale : Sale}
    (opened : Opens opening message value nftId sale) (feeRecipient : Address) :
    sale.due feeRecipient =
      (if 0 < sale.royaltyAmount.toNat then
          [(sale.royaltyReceiver, sale.royaltyAmount.toNat)] else []) ++
        [(feeRecipient, sale.price.toNat * opening.before.market.protocolFeeBps.toNat / 10000),
          (sale.seller, sale.price.toNat - sale.royaltyAmount.toNat -
            sale.price.toNat * opening.before.market.protocolFeeBps.toNat / 10000)] ++
        (if sale.price.toNat < value.toNat then
          [(message.sender, value.toNat - sale.price.toNat)] else []) := by
  have split_ := opened.split_
  have owed : (0#256 < sale.royaltyAmount ∧ sale.royaltyReceiver ≠ Address.zero) ↔
      0 < sale.royaltyAmount.toNat := by
    simp only [opened.receiver, ne_eq, not_false_eq_true, and_true, BitVec.lt_def,
      BitVec.toNat_ofNat, Nat.zero_mod]
  have excess : sale.price < sale.value ↔ sale.price.toNat < value.toNat := by
    rw [BitVec.lt_def, split_.value_eq]
  have shares := split_.shares
  have proceeds : sale.sellerProceeds.toNat = sale.price.toNat - sale.royaltyAmount.toNat -
      sale.price.toNat * opening.before.market.protocolFeeBps.toNat / 10000 := by
    rw [← split_.fee]
    omega
  have change : (sale.value - sale.price).toNat = value.toNat - sale.price.toNat := by
    rw [BitVec.toNat_sub_of_le (BitVec.le_def.mpr split_.enough), split_.value_eq]
  unfold Sale.due Sale.royalty Sale.refund
  simp only [owed, excess, split_.fee, proceeds, change, split_.buyer]

theorem Opens.due_total {opening : Entry} {message : Message} {value nftId : Uint256} {sale : Sale}
    (opened : Opens opening message value nftId sale) (feeRecipient : Address) :
    ((sale.due feeRecipient).map Prod.snd).sum = value.toNat := by
  have split_ := opened.split_
  have royalty : (sale.royalty.map Prod.snd).sum = sale.royaltyAmount.toNat := by
    unfold Sale.royalty
    split
    · simp
    · rename_i none_
      have zero : ¬ 0#256 < sale.royaltyAmount := fun some_ => none_ ⟨some_, opened.receiver⟩
      simp only [BitVec.lt_def, BitVec.toNat_ofNat, Nat.zero_mod] at zero
      simp only [List.map_nil, List.sum_nil]
      omega
  have enough := split_.enough
  have refund : (sale.refund.map Prod.snd).sum = sale.value.toNat - sale.price.toNat := by
    unfold Sale.refund
    split
    · simp [BitVec.toNat_sub_of_le (BitVec.le_def.mpr enough)]
    · rename_i exact_
      rw [BitVec.lt_def] at exact_
      simp only [List.map_nil, List.sum_nil]
      omega
  have shares := split_.shares
  rw [Sale.due, List.map_append, List.sum_append, List.map_append, List.sum_append, royalty, refund,
    ← split_.value_eq]
  simp only [List.map_cons, List.map_nil, List.sum_cons, List.sum_nil]
  omega

/-- The sale comes to its end. -/
theorem Progressed.finish {opening : Entry} {between : List Entry} {entry : Entry} {rest : Rest}
    {message : Message} {value nftId : Uint256}
    (held : Progressed opening between entry.before.market rest)
    (opened : Opens opening message value nftId rest.sale)
    (input : entry.input = .rest (.market rest))
    (due : payment rest entry.before.market = none) (waits : rest.next = none)
    (after_eq : entry.after.market = { entry.before.market with entered := false }) :
    Conserved opening (between ++ [entry]) entry.after.market message value nftId rest.sale := by
  have started : payments opening = [] := by
    obtain ⟨real, called⟩ := opened.called
    simp only [payments, called]
  have last : payments entry = [] := by
    simp only [payments, input, due, Option.map_none, Option.toList_none]
  have unforced : forcedBy entry = 0 := by simp only [forcedBy, input]
  have all : (opening :: (between ++ [entry])).flatMap payments = between.flatMap payments := by
    rw [List.flatMap_cons, started, List.nil_append, List.flatMap_append, List.flatMap_singleton,
      last, List.append_nil]
  have made := held.paid.trans (paid_last opening.before.market.feeRecipient waits)
  refine ⟨opened, ?_, ?_, ?_, ?_⟩
  · rw [all, made]
    exact opened.due_eq _
  · rw [all, made]
    exact opened.due_total _
  · have balance := held.balance
    rw [made, opened.due_total, opened.split_.value_eq] at balance
    rw [forcedIn_snoc, unforced, after_eq]
    dsimp only
    omega
  · rw [after_eq, ← opened.split_.nftId_eq]
    rcases held.closed with inactive | ⟨found, member, relists⟩
    · exact .inl inactive
    · exact .inr ⟨found, List.mem_append_left _ member, relists⟩

abbrev Record : Type :=
  Journal Exchange Transaction ExchangeRest (List ExchangeEvent)

abbrev Pending : Type := List (Frame Record ExchangeRest)

/-- A pending sale, with the journal as it was before its `buy`. -/
def saleOf (frame : Frame Record ExchangeRest) : Option (Rest × List Entry) :=
  match frame.rest with
  | .market rest => some (rest, frame.snapshot.past)
  | _ => none

/-- No call of the marketplace is left waiting. -/
def Settles (progress : Progress Exchange ExchangeRest (List ExchangeEvent)) : Prop :=
  ∀ state rest output, progress ≠ .calling state (.market rest) output

theorem Settles.sales {progress : Progress Exchange ExchangeRest (List ExchangeEvent)}
    (settles : Settles progress) (snapshot : Record) (outer : Pending) :
    (progress.pending snapshot outer).filterMap saleOf = outer.filterMap saleOf := by
  cases progress with
  | done state output => rfl
  | calling state rest output =>
    cases rest with
    | market rest => exact absurd rfl (settles state rest output)
    | nft rest => rfl
    | elsewhere => rfl

/-- A stretch of the token contract. -/
theorem nft_aside {stretch : Stretch Transaction ExchangeRest} {now : Exchange}
    {attempt : Nft.Result} {progress : Progress Exchange ExchangeRest (List ExchangeEvent)}
    (unpaid : payments ⟨now, stretch, progress.output, progress.state⟩ = [])
    (unforced : forcedBy ⟨now, stretch, progress.output, progress.state⟩ = 0)
    (royalty : ∀ inner, attempt = .ok inner →
      inner.state.defaultRoyalty = now.nft.defaultRoyalty)
    (accepted : liftNft now attempt = .ok progress) :
    Aside ⟨now, stretch, progress.output, progress.state⟩ ∧ Settles progress := by
  have starts : Starts ⟨now, stretch, progress.output, progress.state⟩ progress :=
    starts_nft accepted
  obtain ⟨inner, returned, rfl⟩ := liftNft_ok accepted
  refine ⟨⟨unpaid, ?_, ?_, ?_, ?_, ?_, starts.unreported⟩, ?_⟩
  · rw [map_state]
  · rw [map_state]
  · rw [unforced, map_state, Nat.add_zero]
  · intro nftId inactive
    rw [map_state]
    exact .inl inactive
  · rw [map_state]
    exact royalty inner returned
  · intro state rest output same
    cases inner <;> cases same

/-- A call of the marketplace that writes neither guard nor fee recipient. -/
theorem market_aside {market : Address} {message : Message} {call : Call}
    {real : message.sender ≠ Address.zero} {now : Exchange} {attempt : Result}
    {progress : Progress Exchange ExchangeRest (List ExchangeEvent)}
    (unforced : ∀ amount, call ≠ .forced amount)
    (entered : enter market ⟨message, .market call, real⟩ now = .ok progress)
    (accepted : liftMarket now attempt = .ok progress)
    (plain : ∀ inner, attempt = .ok inner → ∃ state output, inner = .done state output ∧
      state.entered = now.market.entered ∧ state.feeRecipient = now.market.feeRecipient ∧
      state.balance = now.market.balance) :
    Aside ⟨now, .start ⟨message, .market call, real⟩, progress.output, progress.state⟩ ∧
      Settles progress := by
  have listing := enterMarket_listing real
    (show enterMarket market message call now = .ok progress from entered)
  have starts := enter_starts entered
  have none_ : forcedBy ⟨now, .start ⟨message, .market call, real⟩, progress.output,
      progress.state⟩ = 0 := by
    unfold forcedBy
    split
    · rename_i amount _ input
      cases input
      exact absurd rfl (unforced amount)
    · rfl
  obtain ⟨inner, returned, rfl⟩ := liftMarket_ok accepted
  obtain ⟨state, output, rfl, guard, recipient, balance⟩ := plain inner returned
  refine ⟨⟨rfl, guard, recipient, ?_, ?_, rfl, starts.unreported⟩, ?_⟩
  · rw [none_, Nat.add_zero]
    exact balance
  · intro nftId inactive
    cases listing nftId with
    | kept untouched same =>
      rw [same]
      exact .inl inactive
    | closed now_inactive => exact .inl now_inactive
    | listed seller price touched wrote called =>
      obtain ⟨sender, real, input, -⟩ := called.called
      exact .inr ⟨sender, price, real, input⟩
  · intro state rest output same
    cases same

theorem withRoles_unpaid {state : State}
    {attempt : Except Failure (AccessControl Role × List (RoleEvent Role))}
    (inner : Progress State Rest (List Event)) (accepted : withRoles state attempt = .ok inner) :
    ∃ after output, inner = .done after output ∧ after.entered = state.entered ∧
      after.feeRecipient = state.feeRecipient ∧ after.balance = state.balance := by
  simp only [withRoles, bind_eq_ok, pure_eq_ok] at accepted
  obtain ⟨changed, -, rfl⟩ := accepted
  exact ⟨_, _, rfl, rfl, rfl, rfl⟩

/-- Every call but `buy`. -/
theorem enter_aside {market : Address} {transaction : Transaction} {now : Exchange}
    {progress : Progress Exchange ExchangeRest (List ExchangeEvent)}
    (other : ∀ value nftId, transaction.call ≠ .market (.buy value nftId))
    (accepted : enter market transaction now = .ok progress) :
    Aside ⟨now, .start transaction, progress.output, progress.state⟩ ∧ Settles progress := by
  obtain ⟨message, call, real⟩ := transaction
  cases call with
  | nft call =>
    exact nft_aside rfl rfl (fun inner returned => (Nft.enter_wrote returned).defaultRoyalty)
      accepted
  | elsewhere =>
    cases accepted
    refine ⟨⟨rfl, rfl, rfl, rfl, fun nftId => .inl, rfl, by simp [Progress.output]⟩, ?_⟩
    intro state rest output same
    cases same
  | market call =>
    cases call with
    | list nftId price =>
      refine market_aside (by simp) accepted accepted ?_
      intro inner returned
      simp only [list, bind_eq_ok, pure_eq_ok] at returned
      obtain ⟨_, -, _, -, _, -, rfl⟩ := returned
      exact ⟨_, _, rfl, rfl, rfl, rfl⟩
    | cancelListing nftId =>
      refine market_aside (by simp) accepted accepted ?_
      intro inner returned
      simp only [cancelListing, bind_eq_ok, pure_eq_ok] at returned
      obtain ⟨_, -, rfl⟩ := returned
      exact ⟨_, _, rfl, rfl, rfl, rfl⟩
    | buy value nftId => exact absurd rfl (other value nftId)
    | setProtocolFee bps =>
      refine market_aside (by simp) accepted accepted ?_
      intro inner returned
      simp only [setProtocolFee, bind_eq_ok, pure_eq_ok] at returned
      obtain ⟨_, -, _, -, rfl⟩ := returned
      exact ⟨_, _, rfl, rfl, rfl, rfl⟩
    | grantRole role account => exact market_aside (by simp) accepted accepted withRoles_unpaid
    | revokeRole role account => exact market_aside (by simp) accepted accepted withRoles_unpaid
    | renounceRole role callerConfirmation =>
      exact market_aside (by simp) accepted accepted withRoles_unpaid
    | forced amount =>
      cases accepted
      refine ⟨⟨rfl, rfl, rfl, rfl, fun nftId => .inl, rfl, by simp [Progress.output]⟩, ?_⟩
      intro state rest output same
      cases same

/-- At most one sale is under way, and the guard knows. -/
def Selling (journal : Record) : List (Rest × List Entry) → Prop
  | [] => journal.now.market.entered = false
  | [(rest, earlier)] => journal.now.market.entered = true ∧
      ∃ opening between, journal.past = earlier ++ opening :: between ∧
        Progressed opening between journal.now.market rest
  | _ :: _ :: _ => False

/-- What holds along a run, with the calls under way. -/
structure Sound (journal : Record) (stack : Pending) : Prop where
  selling : Selling journal (stack.filterMap saleOf)
  receiver : journal.now.nft.defaultRoyalty.receiver ≠ Address.zero
  conserved : Throughout SaleConserved journal.past

theorem Selling.aside {journal : Record} {sales : List (Rest × List Entry)}
    {stretch : Stretch Transaction ExchangeRest}
    {progress : Progress Exchange ExchangeRest (List ExchangeEvent)}
    (held : Selling journal sales)
    (aside : Aside ⟨journal.now, stretch, progress.output, progress.state⟩) :
    Selling (journal.add stretch progress) sales := by
  match sales, held with
  | [], unlocked => exact aside.guard.trans unlocked
  | [(rest, earlier)], ⟨locked, opening, between, past, progressed⟩ =>
    refine ⟨aside.guard.trans locked, opening,
      between ++ [⟨journal.now, stretch, progress.output, progress.state⟩], ?_,
      progressed.aside aside⟩
    simp only [Journal.add, past, List.append_assoc, List.cons_append]

theorem Sound.aside {journal : Record} {stack next : Pending}
    {stretch : Stretch Transaction ExchangeRest}
    {progress : Progress Exchange ExchangeRest (List ExchangeEvent)} (held : Sound journal stack)
    (aside : Aside ⟨journal.now, stretch, progress.output, progress.state⟩)
    (sales : next.filterMap saleOf = stack.filterMap saleOf) :
    Sound (journal.add stretch progress) next := by
  refine ⟨?_, ?_, ?_⟩
  · rw [sales]
    exact held.selling.aside aside
  · exact fun zero => held.receiver (aside.royalty ▸ zero)
  · rw [Journal.add, throughout_snoc]
    refine ⟨held.conserved, ?_⟩
    intro nftId seller buyer price member
    exact absurd member (aside.unsold nftId seller buyer price)

/-- A purchase begins. -/
theorem Sound.buy {market : Address} {journal : Record} {stack : Pending} {message : Message}
    {value nftId : Uint256} {real : message.sender ≠ Address.zero}
    {progress : Progress Exchange ExchangeRest (List ExchangeEvent)} (held : Sound journal stack)
    (accepted : buy market message value nftId journal.now = .ok progress) :
    Sound (journal.add (.start ⟨message, .market (.buy value nftId), real⟩) progress)
      (progress.pending journal stack) := by
  obtain ⟨sale, step⟩ := buy_ok accepted
  obtain ⟨unlocked, split_⟩ := openSale_split step.opened
  have none_ : stack.filterMap saleOf = [] := by
    have selling := held.selling
    match sales : stack.filterMap saleOf with
    | [] => rfl
    | [(rest, earlier)] =>
      rw [sales] at selling
      rw [selling.1] at unlocked
      cases unlocked
    | first :: second :: more =>
      rw [sales] at selling
      exact selling.elim
  have receiver := Nft.royaltyInfo_receiver split_.royalty held.receiver
  have calls : ∃ after events, progress = .calling after (.market (.delivered sale)) events ∧
      after.nft.defaultRoyalty = journal.now.nft.defaultRoyalty ∧
      ∀ nftId seller buyer price, .market (.sold nftId seller buyer price) ∉ events := by
    simp only [Market.buy, step.opened] at accepted
    split at accepted
    · cases accepted
    · cases accepted
      exact ⟨_, _, rfl, rfl, by simp⟩
  obtain ⟨after, events, rfl, royalty, unsold⟩ := calls
  refine ⟨?_, ?_, ?_⟩
  · simp only [Progress.pending, List.filterMap_cons, saleOf, none_]
    refine ⟨?_, _, [], rfl, ?_⟩
    · exact congrArg State.entered step.market_eq
    · refine ⟨⟨message, value, nftId, ⟨real, rfl⟩, split_, receiver, ?_, ?_⟩, ?_, rfl, ?_, ?_⟩
      · rw [step.owned, split_.listing]
        rfl
      · rw [step.owners, Function.update_self]
        exact split_.buyer.symm
      · have recipient := congrArg State.feeRecipient step.market_eq
        exact recipient
      · simp only [List.flatMap_nil, List.map_nil, List.sum_nil, Nat.add_zero, forcedIn]
        have balance := congrArg State.balance step.market_eq
        exact balance
      · have closed := congrArg (fun state => (State.listings state sale.nftId).active)
          step.market_eq
        simp only [State.selling, Function.update_self] at closed
        exact .inl closed
  · exact fun zero => held.receiver (royalty ▸ zero)
  · rw [Journal.add, throughout_snoc]
    exact ⟨held.conserved, fun nftId seller buyer price member =>
      absurd member (unsold nftId seller buyer price)⟩

/-- A purchase goes on, or comes to its end. -/
theorem Sound.sale {journal : Record} {rest : Rest} {snapshot : Record} {outer : Pending}
    {progress : Progress Exchange ExchangeRest (List ExchangeEvent)}
    (held : Sound journal (⟨.market rest, snapshot⟩ :: outer))
    (accepted : liftMarket journal.now (resume rest journal.now.market) = .ok progress) :
    Sound (journal.add (.rest (.market rest)) progress) (progress.pending snapshot outer) := by
  obtain ⟨inner, returned, rfl⟩ := liftMarket_ok accepted
  have selling := held.selling
  simp only [List.filterMap_cons, saleOf] at selling
  match sales : outer.filterMap saleOf with
  | _ :: _ =>
    rw [sales] at selling
    exact selling.elim
  | [] =>
    rw [sales] at selling
    obtain ⟨locked, opening, between, past, progressed⟩ := selling
    cases resume_pays returned with
    | paid target amount next due waits covered =>
      have further : Progressed opening
          (between ++ [⟨journal.now, .rest (.market rest), [],
            { journal.now with market := { journal.now.market with
              balance := journal.now.market.balance - amount.toNat } }⟩])
          { journal.now.market with balance := journal.now.market.balance - amount.toNat } next :=
        progressed.pays rfl due waits covered rfl
      refine ⟨?_, held.receiver, ?_⟩
      · simp only [Progress.map, Progress.pending, List.filterMap_cons, saleOf, sales]
        refine ⟨locked, opening, _, ?_, further⟩
        simp only [Journal.add, past, List.append_assoc, List.cons_append]
        rfl
      · rw [Journal.add, throughout_snoc]
        refine ⟨held.conserved, ?_⟩
        intro nftId seller buyer price member
        cases member
    | finished due waits =>
      refine ⟨?_, held.receiver, ?_⟩
      · simp only [Progress.map, Progress.pending, sales]
        rfl
      · rw [Journal.add, throughout_snoc]
        refine ⟨held.conserved, ?_⟩
        intro nftId seller buyer price member
        obtain ⟨message, value, bought, opened⟩ := progressed.opened
        have same := List.mem_singleton.mp member
        cases same
        have nftId_eq := opened.split_.nftId_eq
        subst nftId_eq
        exact ⟨snapshot.past, opening, between, message, value, rest.sale, past,
          progressed.finish opened rfl due waits rfl, rfl, rfl, rfl⟩

theorem journal_sound (market : Address) (start : Exchange)
    (unlocked : start.market.entered = false)
    (receiver : start.nft.defaultRoyalty.receiver ≠ Address.zero)
    (moves : List (Move Transaction)) :
    Throughout SaleConserved ((machine market).journal start moves) := by
  suffices sound : ∃ journal stack, Sound journal stack ∧
      journal.past = (machine market).journal start moves ∧
      journal.now = (run (machine market).step ⟨start, []⟩ moves).now.state by
    obtain ⟨journal, stack, held, past, -⟩ := sound
    rw [← past]
    exact held.conserved
  apply journal_induction_stack (machine market) start Sound
  · exact ⟨unlocked, receiver, throughout_nil _⟩
  · intro journal stack transaction progress held accepted
    by_cases purchase : ∃ value nftId, transaction.call = .market (.buy value nftId)
    · obtain ⟨value, nftId, called⟩ := purchase
      obtain ⟨message, call, real⟩ := transaction
      subst called
      exact held.buy accepted
    · have other : ∀ value nftId, transaction.call ≠ .market (.buy value nftId) :=
        fun value nftId called => purchase ⟨value, nftId, called⟩
      obtain ⟨aside, settles⟩ := enter_aside other accepted
      exact held.aside aside (settles.sales journal stack)
  · intro journal frame outer progress held below accepted
    obtain ⟨pending, snapshot⟩ := frame
    cases pending with
    | market rest => exact held.sale accepted
    | nft rest =>
      obtain ⟨aside, settles⟩ : Aside ⟨journal.now, .rest (.nft rest), progress.output,
          progress.state⟩ ∧ Settles progress :=
        nft_aside rfl rfl (fun inner returned => (Nft.resume_wrote returned).defaultRoyalty) accepted
      exact held.aside aside (settles.sales snapshot outer)
    | elsewhere =>
      cases accepted
      exact held.aside ⟨rfl, rfl, rfl, rfl, fun nftId => .inl, rfl, by simp [Progress.output]⟩ rfl

/-- In every run of a deployed marketplace beside its token contract, each purchase that came
to its end paid exactly the royalty, the fee, the rest of the price and the change, which
are the payment it came with, moved the token to the buyer, and left the balance as it was
but for ETH forced on it meanwhile, and the listing inactive unless it was made again. A call
that fails, at once or later, leaves what was there before it. -/
theorem payment_conserved (market : Address) (message nftMessage : Message)
    (admin nftAdmin feeRecipient royaltyReceiver : Address) (royaltyBps : Nft.Uint96)
    (balance : Nat) (deployed : Nft.State × List Nft.Event)
    (accepted : Nft.deploy nftMessage nftAdmin royaltyReceiver royaltyBps = .ok deployed)
    (moves : List (Move Transaction)) :
    Throughout SaleConserved
        ((machine market).journal ⟨deployed.1, (deploy message admin feeRecipient balance).1⟩ moves) ∧
      Throughout (fun earlier entry => entry.output = .undone → OpenedAt earlier entry.after)
        (history market ⟨deployed.1, (deploy message admin feeRecipient balance).1⟩ moves).past ∧
      ∀ transaction stuck, (machine market).step (.call transaction)
          (history market ⟨deployed.1, (deploy message admin feeRecipient balance).1⟩ moves).now =
            .error stuck →
        history market ⟨deployed.1, (deploy message admin feeRecipient balance).1⟩
            (moves ++ [.call transaction]) =
          history market ⟨deployed.1, (deploy message admin feeRecipient balance).1⟩ moves := by
  refine ⟨?_, Machine.run_undone (machine market) _ moves, ?_⟩
  · exact journal_sound market _ rfl (Nft.deploy_defaultRoyalty accepted) moves
  · intro transaction stuck refused
    rw [history, run_snoc]
    exact extend_error _ _ _ stuck refused

theorem minter_real : (1#160 : Address) ≠ Address.zero := by decide

theorem seller_real : (5#160 : Address) ≠ Address.zero := by decide

theorem buyer_real : (9#160 : Address) ≠ Address.zero := by decide

/-- Account 9 buys token 0 for 100 with 120, and 7 of ETH are forced on the marketplace while
account 9 is asked to receive it. -/
def forcingMoves : List (Move Transaction) :=
  [.call ⟨⟨1#160, 0#256⟩, .nft (.mintAgent ⟨5#160, "ipfs://agent", 7#256⟩), minter_real⟩,
   .returned,
   .call ⟨⟨5#160, 0#256⟩, .nft (.setApprovalForAll 20#160 true), seller_real⟩,
   .call ⟨⟨5#160, 0#256⟩, .market (.list 0#256 100#256), seller_real⟩,
   .call ⟨⟨9#160, 0#256⟩, .market (.buy 120#256 0#256), buyer_real⟩,
   .call ⟨⟨9#160, 0#256⟩, .market (.forced 7), buyer_real⟩,
   .returned, .returned, .returned, .returned, .returned]

theorem payment_conserved_change :
    ∃ deployed, Nft.deploy ⟨1#160, 0#256⟩ 1#160 2#160 500#96 = .ok deployed ∧
      Throughout SaleConserved
        ((machine 20#160).journal ⟨deployed.1, (deploy ⟨1#160, 0#256⟩ 1#160 3#160 0).1⟩
          forcingMoves) :=
  ⟨_, rfl, (payment_conserved 20#160 ⟨1#160, 0#256⟩ ⟨1#160, 0#256⟩ 1#160 1#160 3#160 2#160 500#96
    0 _ rfl forcingMoves).1⟩

/-- The purchase pays out all that it came with, and the marketplace has 7 more than before. -/
theorem payment_conserved_forced :
    ∃ deployed, Nft.deploy ⟨1#160, 0#256⟩ 1#160 2#160 500#96 = .ok deployed ∧
      ∃ opening ∈ (machine 20#160).journal
          ⟨deployed.1, (deploy ⟨1#160, 0#256⟩ 1#160 3#160 0).1⟩ forcingMoves,
        ∃ entry ∈ (machine 20#160).journal
            ⟨deployed.1, (deploy ⟨1#160, 0#256⟩ 1#160 3#160 0).1⟩ forcingMoves,
          opening.input = .start ⟨⟨9#160, 0#256⟩, .market (.buy 120#256 0#256), by decide⟩ ∧
            .market (.sold 0#256 5#160 9#160 100#256) ∈ entry.output ∧
            opening.before.market.balance = 0 ∧ entry.after.market.balance = 7 :=
  ⟨_, rfl, _, @List.getElem_mem _ _ 4 (by decide), _, @List.getElem_mem _ _ 10 (by decide), rfl,
    by decide, by decide, by decide⟩

end BigX.Market
