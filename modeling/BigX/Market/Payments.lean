import BigX.Market.Listings
import BigX.Nft.Royalty
import Mathlib.Algebra.GroupWithZero.Nat

set_option autoImplicit false

/- What a sale pays to whom. Each stretch of `buy` after the buyer's hook makes the next
payment of the list that the sale was split into when it was opened. -/
namespace BigX.Market

open Evm Run

/-- Whom `buy` pays when it goes on, and how much. -/
def payment (rest : Rest) (state : State) : Option (Address × Uint256) :=
  match rest with
  | .delivered sale =>
      if 0#256 < sale.royaltyAmount ∧ sale.royaltyReceiver ≠ Address.zero then
        some (sale.royaltyReceiver, sale.royaltyAmount)
      else some (state.feeRecipient, sale.protocolFee)
  | .royaltyPaid sale => some (state.feeRecipient, sale.protocolFee)
  | .feePaid sale => some (sale.seller, sale.sellerProceeds)
  | .sellerPaid sale =>
      if sale.price < sale.value then some (sale.buyer, sale.value - sale.price) else none
  | .refunded _ => none

/-- What it waits for then. -/
def Rest.next : Rest → Option Rest
  | .delivered sale =>
      if 0#256 < sale.royaltyAmount ∧ sale.royaltyReceiver ≠ Address.zero then
        some (.royaltyPaid sale)
      else some (.feePaid sale)
  | .royaltyPaid sale => some (.feePaid sale)
  | .feePaid sale => some (.sellerPaid sale)
  | .sellerPaid sale => if sale.price < sale.value then some (.refunded sale) else none
  | .refunded _ => none

/-- A payment made, or the end of the sale. -/
inductive Pays (rest : Rest) (state : State) : Progress State Rest (List Event) → Prop
  | paid (target : Address) (amount : Uint256) (next : Rest)
      (due : payment rest state = some (target, amount)) (waits : rest.next = some next)
      (covered : amount.toNat ≤ state.balance) :
      Pays rest state (.calling { state with balance := state.balance - amount.toNat } next [])
  | finished (due : payment rest state = none) (waits : rest.next = none) :
      Pays rest state (.done { state with entered := false }
        [.sold rest.sale.nftId rest.sale.seller rest.sale.buyer rest.sale.price])

theorem pay_pays {rest next : Rest} {state : State} {target : Address} {amount : Uint256}
    {failure : String} {progress : Progress State Rest (List Event)}
    (due : payment rest state = some (target, amount)) (waits : rest.next = some next)
    (accepted : pay amount failure next state = .ok progress) : Pays rest state progress := by
  simp only [pay, bind_eq_ok, require_eq_ok, pure_eq_ok, exists_const] at accepted
  obtain ⟨covered, rfl⟩ := accepted
  exact .paid target amount next due waits covered

theorem resume_pays {rest : Rest} {state : State} {progress : Progress State Rest (List Event)}
    (accepted : resume rest state = .ok progress) : Pays rest state progress := by
  cases rest with
  | delivered sale =>
    simp only [resume] at accepted
    by_cases owed : 0#256 < sale.royaltyAmount ∧ sale.royaltyReceiver ≠ Address.zero
    · rw [if_pos owed] at accepted
      exact pay_pays (if_pos owed) (if_pos owed) accepted
    · rw [if_neg owed] at accepted
      exact pay_pays (if_neg owed) (if_neg owed) accepted
  | royaltyPaid sale => exact pay_pays rfl rfl accepted
  | feePaid sale => exact pay_pays rfl rfl accepted
  | sellerPaid sale =>
    simp only [resume] at accepted
    by_cases excess : sale.price < sale.value
    · rw [if_pos excess] at accepted
      exact pay_pays (if_pos excess) (if_pos excess) accepted
    · rw [if_neg excess] at accepted
      cases accepted
      exact .finished (if_neg excess) (if_neg excess)
  | refunded sale =>
    cases accepted
    exact .finished rfl rfl

/-- The royalty, when there is one. -/
def Sale.royalty (sale : Sale) : List (Address × Nat) :=
  if 0#256 < sale.royaltyAmount ∧ sale.royaltyReceiver ≠ Address.zero then
    [(sale.royaltyReceiver, sale.royaltyAmount.toNat)]
  else []

def Sale.refund (sale : Sale) : List (Address × Nat) :=
  if sale.price < sale.value then [(sale.buyer, (sale.value - sale.price).toNat)] else []

/-- What has been paid of a sale that waits at `rest`. -/
def Rest.paid (feeRecipient : Address) : Rest → List (Address × Nat)
  | .delivered _ => []
  | .royaltyPaid sale => sale.royalty
  | .feePaid sale => sale.royalty ++ [(feeRecipient, sale.protocolFee.toNat)]
  | .sellerPaid sale => sale.royalty ++
      [(feeRecipient, sale.protocolFee.toNat), (sale.seller, sale.sellerProceeds.toNat)]
  | .refunded sale => sale.royalty ++
      [(feeRecipient, sale.protocolFee.toNat), (sale.seller, sale.sellerProceeds.toNat)] ++
      sale.refund

/-- All that a sale pays, in order. -/
def Sale.due (feeRecipient : Address) (sale : Sale) : List (Address × Nat) :=
  sale.royalty ++
    [(feeRecipient, sale.protocolFee.toNat), (sale.seller, sale.sellerProceeds.toNat)] ++
    sale.refund

/-- Each payment is the next one due. -/
theorem paid_next {rest next : Rest} {state : State} {target : Address} {amount : Uint256}
    (due : payment rest state = some (target, amount)) (waits : rest.next = some next) :
    next.paid state.feeRecipient = rest.paid state.feeRecipient ++ [(target, amount.toNat)] ∧
      next.sale = rest.sale := by
  cases rest with
  | delivered sale =>
    by_cases owed : 0#256 < sale.royaltyAmount ∧ sale.royaltyReceiver ≠ Address.zero
    · simp only [payment, Rest.next, if_pos owed, Option.some.injEq, Prod.mk.injEq] at due waits
      obtain ⟨rfl, rfl⟩ := due
      subst waits
      simp only [Rest.paid, Sale.royalty, if_pos owed, List.nil_append, Rest.sale, and_self]
    · simp only [payment, Rest.next, if_neg owed, Option.some.injEq, Prod.mk.injEq] at due waits
      obtain ⟨rfl, rfl⟩ := due
      subst waits
      simp only [Rest.paid, Sale.royalty, if_neg owed, Rest.sale, and_self]
  | royaltyPaid sale =>
    cases due
    cases waits
    exact ⟨rfl, rfl⟩
  | feePaid sale =>
    cases due
    cases waits
    exact ⟨by simp [Rest.paid], rfl⟩
  | sellerPaid sale =>
    by_cases excess : sale.price < sale.value
    · simp only [payment, Rest.next, if_pos excess, Option.some.injEq, Prod.mk.injEq] at due waits
      obtain ⟨rfl, rfl⟩ := due
      subst waits
      simp only [Rest.paid, Sale.refund, if_pos excess, Rest.sale, and_self]
    · simp only [payment, if_neg excess] at due
      cases due
  | refunded sale => cases due

/-- A sale that is at its end has paid all that was due. -/
theorem paid_last {rest : Rest} (feeRecipient : Address) (waits : rest.next = none) :
    rest.paid feeRecipient = rest.sale.due feeRecipient := by
  cases rest with
  | delivered sale =>
    simp only [Rest.next] at waits
    split at waits <;> cases waits
  | royaltyPaid sale => cases waits
  | feePaid sale => cases waits
  | sellerPaid sale =>
    by_cases excess : sale.price < sale.value
    · simp only [Rest.next, if_pos excess] at waits
      cases waits
    · have exact_ : sale.refund = [] := if_neg excess
      simp only [Rest.paid, Rest.sale, Sale.due, exact_, List.append_nil]
  | refunded sale => rfl

/-- How a sale is split when it is opened. -/
structure Split (message : Message) (value nftId : Uint256) (nft : Nft.State) (state : State)
    (sale : Sale) : Prop where
  listing : state.listings nftId = ⟨sale.seller, sale.price, true⟩
  nftId_eq : sale.nftId = nftId
  buyer : sale.buyer = message.sender
  value_eq : sale.value = value
  enough : sale.price.toNat ≤ sale.value.toNat
  royalty : Nft.royaltyInfo nftId sale.price nft = .ok (sale.royaltyReceiver, sale.royaltyAmount)
  fee : sale.protocolFee.toNat = sale.price.toNat * state.protocolFeeBps.toNat / 10000
  shares : sale.royaltyAmount.toNat + sale.protocolFee.toNat + sale.sellerProceeds.toNat =
    sale.price.toNat

theorem shareOf_ok {price result : Uint256} {bps : Uint96} (accepted : shareOf price bps = .ok result) :
    result.toNat = price.toNat * bps.toNat / 10000 := by
  simp only [shareOf, checkedMul, bind_eq_ok, pure_eq_ok] at accepted
  obtain ⟨product, multiplied, rfl⟩ := accepted
  split at multiplied
  · rename_i fits
    cases multiplied
    have small : (bps.setWidth 256).toNat = bps.toNat := by
      rw [BitVec.toNat_setWidth]
      exact Nat.mod_eq_of_lt (Nat.lt_trans bps.isLt (by decide))
    rw [small] at fits
    rw [BitVec.toNat_udiv, BitVec.toNat_mul, small, Nat.mod_eq_of_lt fits]
    rfl
  · cases multiplied

theorem openSale_split {message : Message} {value nftId : Uint256} {nft : Nft.State} {state : State}
    {sale : Sale} (accepted : openSale message value nftId nft state = .ok sale) :
    state.entered = false ∧ Split message value nftId nft state sale := by
  simp only [openSale, bind_eq_ok, nonReentrant_eq_ok, require_eq_ok, bubble_eq_ok, pure_eq_ok,
    checkedSub_eq_ok, exists_and_left, exists_const] at accepted
  obtain ⟨unlocked, active, enough, royalty, asked, fee, charged, afterFee, first, proceeds,
    second, rfl⟩ := accepted
  refine ⟨unlocked, ?_, rfl, rfl, rfl, ?_, asked, shareOf_ok charged, ?_⟩
  · cases found : state.listings nftId with
    | mk seller price listed =>
      rw [found] at active
      rw [← show listed = true from active]
  · exact Nat.not_lt.mp enough
  · dsimp only
    omega

end BigX.Market
