import BigX.Evm.Word
import Mathlib.Logic.Function.Basic

set_option autoImplicit false

/- Standard ERC-20 tokens without fees or hooks: a ledger whose transfers move exactly
the amount or fail. Laws are stated on the natural values of the balances. -/
namespace BigX.Evm

/-- A failed token call either reverts or answers `false`; neither moves anything. -/
inductive TransferFailure
  | reverted
  | returnedFalse
  deriving DecidableEq

/-- `amount` has moved from `source` to `target` (a self-transfer moves nothing). -/
structure Moved (before after : Address → Uint256) (source target : Address)
    (amount : Uint256) : Prop where
  covered : amount.toNat ≤ (before source).toNat
  balance : ∀ account,
    (after account).toNat + (if account = source then amount.toNat else 0) =
      (before account).toNat + (if account = target then amount.toNat else 0)

/-- A token with the standard's laws. `sender` is the caller of the token contract. -/
structure Erc20 where
  Ledger : Type
  balanceOf : Ledger → Address → Uint256
  allowance : Ledger → Address → Address → Uint256
  transfer : (sender target : Address) → Uint256 → Ledger → Except TransferFailure Ledger
  approve : (sender spender : Address) → Uint256 → Ledger → Except TransferFailure Ledger
  transferFrom : (sender source target : Address) → Uint256 → Ledger →
    Except TransferFailure Ledger
  transfer_moved : ∀ sender target amount before after,
    transfer sender target amount before = .ok after →
      Moved (balanceOf before) (balanceOf after) sender target amount
  transfer_allowance : ∀ sender target amount before after,
    transfer sender target amount before = .ok after → allowance after = allowance before
  approve_balance : ∀ sender spender amount before after,
    approve sender spender amount before = .ok after → balanceOf after = balanceOf before
  approve_allowance : ∀ sender spender amount before after,
    approve sender spender amount before = .ok after →
      ∀ owner, owner ≠ sender → allowance after owner = allowance before owner
  transferFrom_moved : ∀ sender source target amount before after,
    transferFrom sender source target amount before = .ok after →
      Moved (balanceOf before) (balanceOf after) source target amount
  transferFrom_allowed : ∀ sender source target amount before after,
    transferFrom sender source target amount before = .ok after →
      amount.toNat ≤ (allowance before source sender).toNat
  transferFrom_allowance : ∀ sender source target amount before after,
    transferFrom sender source target amount before = .ok after →
      ∀ owner spender, (allowance after owner spender).toNat ≤
        (allowance before owner spender).toNat

/-- The calls any account can make on a token. -/
inductive Erc20.Call
  | transfer (target : Address) (amount : Uint256)
  | approve (spender : Address) (amount : Uint256)
  | transferFrom (source target : Address) (amount : Uint256)
  deriving DecidableEq

def Erc20.execute (token : Erc20) (sender : Address) (ledger : token.Ledger) :
    Erc20.Call → Except TransferFailure token.Ledger
  | .transfer target amount => token.transfer sender target amount ledger
  | .approve spender amount => token.approve sender spender amount ledger
  | .transferFrom source target amount => token.transferFrom sender source target amount ledger

/-- The account has let nobody spend its tokens. -/
def Erc20.NoAllowance (token : Erc20) (account : Address) (ledger : token.Ledger) : Prop :=
  ∀ spender, token.allowance ledger account spender = 0#256

/-- What a call of somebody else sends to `account`. -/
def Erc20.Call.sentTo (account : Address) : Erc20.Call → Nat
  | .transfer target amount => if account = target then amount.toNat else 0
  | .approve _ _ => 0
  | .transferFrom source target amount =>
      if account = target ∧ account ≠ source then amount.toNat else 0

theorem Erc20.transferFrom_noAllowance (token : Erc20) (account sender source target : Address)
    (amount : Uint256) (before after : token.Ledger)
    (closed : token.NoAllowance account before)
    (accepted : token.transferFrom sender source target amount before = .ok after) :
    token.NoAllowance account after := by
  intro spender
  have less := token.transferFrom_allowance sender source target amount before after accepted
    account spender
  rw [closed spender] at less
  apply BitVec.eq_of_toNat_eq
  exact Nat.le_zero.mp less

/-- Others cannot open an account. -/
theorem Erc20.execute_noAllowance (token : Erc20) (account sender : Address)
    (other : sender ≠ account) (call : Erc20.Call) (before after : token.Ledger)
    (closed : token.NoAllowance account before)
    (accepted : token.execute sender before call = .ok after) :
    token.NoAllowance account after := by
  cases call with
  | transfer target amount =>
    intro spender
    rw [token.transfer_allowance sender target amount before after accepted]
    exact closed spender
  | approve spender amount =>
    intro spender'
    rw [token.approve_allowance sender spender amount before after accepted account other.symm]
    exact closed spender'
  | transferFrom source target amount =>
    exact token.transferFrom_noAllowance account sender source target amount before after closed
      accepted

/-- The balance of an account that let nobody spend grows by exactly what others send. -/
theorem Erc20.execute_balance (token : Erc20) (account sender : Address)
    (other : sender ≠ account) (call : Erc20.Call) (before after : token.Ledger)
    (closed : token.NoAllowance account before)
    (accepted : token.execute sender before call = .ok after) :
    (token.balanceOf after account).toNat =
      (token.balanceOf before account).toNat + call.sentTo account := by
  cases call with
  | transfer target amount =>
    have moved := (token.transfer_moved sender target amount before after accepted).balance account
    simpa only [Erc20.Call.sentTo, other.symm, ↓reduceIte, Nat.add_zero] using moved
  | approve spender amount =>
    rw [token.approve_balance sender spender amount before after accepted]
    rfl
  | transferFrom source target amount =>
    have moved :=
      (token.transferFrom_moved sender source target amount before after accepted).balance account
    by_cases own : account = source
    · subst own
      have nothing := token.transferFrom_allowed sender account target amount before after accepted
      rw [closed sender] at nothing
      have zero : amount.toNat = 0 := Nat.le_zero.mp nothing
      simpa [Erc20.Call.sentTo, zero] using moved
    · simpa only [Erc20.Call.sentTo, own, ne_eq, not_false_eq_true, and_true, ↓reduceIte,
        Nat.add_zero] using moved

end BigX.Evm
