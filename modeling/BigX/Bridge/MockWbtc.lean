import BigX.Bridge.Contract

set_option autoImplicit false

/- The repository's own wrapped token, and that it is a standard ERC-20. -/
namespace BigX.Bridge.MockWbtc

open Evm

structure Ledger where
  balanceOf : Address → Uint256
  allowance : Address → Address → Uint256

/-- `balanceOf[source] -= value; balanceOf[target] += value`, both checked. -/
def move (balanceOf : Address → Uint256) (source target : Address) (value : Uint256) :
    Except TransferFailure (Address → Uint256) :=
  if value.toNat ≤ (balanceOf source).toNat then
    let debited := Function.update balanceOf source (balanceOf source - value)
    if (debited target).toNat + value.toNat < 2 ^ 256 then
      .ok (Function.update debited target (debited target + value))
    else .error .reverted
  else .error .reverted

def transfer (sender target : Address) (value : Uint256) (ledger : Ledger) :
    Except TransferFailure Ledger :=
  (move ledger.balanceOf sender target value).map fun moved => { ledger with balanceOf := moved }

def approve (sender spender : Address) (value : Uint256) (ledger : Ledger) :
    Except TransferFailure Ledger :=
  .ok { ledger with
    allowance := Function.update ledger.allowance sender
      (Function.update (ledger.allowance sender) spender value) }

def transferFrom (sender source target : Address) (value : Uint256) (ledger : Ledger) :
    Except TransferFailure Ledger :=
  if value.toNat ≤ (ledger.allowance source sender).toNat then
    (move ledger.balanceOf source target value).map fun moved =>
      { balanceOf := moved
        allowance := Function.update ledger.allowance source
          (Function.update (ledger.allowance source) sender
            (ledger.allowance source sender - value)) }
  else .error .reverted

theorem move_moved (before after : Address → Uint256) (source target : Address)
    (value : Uint256) (accepted : move before source target value = .ok after) :
    Moved before after source target value := by
  unfold move at accepted
  split at accepted
  · rename_i covered
    dsimp only at accepted
    split at accepted
    · rename_i fits
      cases accepted
      refine ⟨covered, fun account => ?_⟩
      have debited : (before source - value).toNat = (before source).toNat - value.toNat :=
        BitVec.toNat_sub_of_le covered
      by_cases same : target = source
      · subst same
        simp only [Function.update_self, debited] at fits
        by_cases own : account = target
        · subst own
          simp only [Function.update_self, ↓reduceIte, BitVec.toNat_add, debited,
            Nat.mod_eq_of_lt fits]
          omega
        · simp [own]
      · rw [Function.update_of_ne same] at fits
        by_cases paid : account = target
        · subst paid
          simp only [Function.update_self, Function.update_of_ne same, same, ↓reduceIte,
            BitVec.toNat_add, Nat.mod_eq_of_lt fits, Nat.add_zero]
        · by_cases own : account = source
          · subst own
            simp only [Function.update_of_ne paid, Function.update_self, paid, debited,
              ↓reduceIte]
            omega
          · simp [paid, own]
    · cases accepted
  · cases accepted

theorem transfer_ok (sender target : Address) (value : Uint256) (before after : Ledger)
    (accepted : transfer sender target value before = .ok after) :
    Moved before.balanceOf after.balanceOf sender target value ∧
      after.allowance = before.allowance := by
  unfold transfer at accepted
  cases attempt : move before.balanceOf sender target value with
  | error failure =>
    rw [attempt] at accepted
    cases accepted
  | ok moved =>
    rw [attempt] at accepted
    cases accepted
    exact ⟨move_moved before.balanceOf moved sender target value attempt, rfl⟩

theorem transferFrom_ok (sender source target : Address) (value : Uint256)
    (before after : Ledger)
    (accepted : transferFrom sender source target value before = .ok after) :
    Moved before.balanceOf after.balanceOf source target value ∧
      value.toNat ≤ (before.allowance source sender).toNat ∧
      ∀ owner spender,
        (after.allowance owner spender).toNat ≤ (before.allowance owner spender).toNat := by
  unfold transferFrom at accepted
  split at accepted
  · rename_i allowed
    cases attempt : move before.balanceOf source target value with
    | error failure =>
      rw [attempt] at accepted
      cases accepted
    | ok moved =>
      rw [attempt] at accepted
      cases accepted
      refine ⟨move_moved before.balanceOf moved source target value attempt, allowed, ?_⟩
      intro owner spender
      by_cases own : owner = source
      · subst own
        by_cases same : spender = sender
        · subst same
          simp only [Function.update_self, BitVec.toNat_sub_of_le allowed]
          omega
        · simp [same]
      · simp [own]
  · cases accepted

/-- `MockWbtc` as a standard token. -/
def token : Erc20 where
  Ledger := Ledger
  balanceOf := Ledger.balanceOf
  allowance := Ledger.allowance
  transfer := transfer
  approve := approve
  transferFrom := transferFrom
  transfer_moved sender target value before after accepted :=
    (transfer_ok sender target value before after accepted).1
  transfer_allowance sender target value before after accepted :=
    (transfer_ok sender target value before after accepted).2
  approve_balance _ _ _ _ _ accepted := by
    cases accepted
    rfl
  approve_allowance _ _ _ _ _ accepted owner other := by
    cases accepted
    exact Function.update_of_ne other _ _
  transferFrom_moved sender source target value before after accepted :=
    (transferFrom_ok sender source target value before after accepted).1
  transferFrom_allowed sender source target value before after accepted :=
    (transferFrom_ok sender source target value before after accepted).2.1
  transferFrom_allowance sender source target value before after accepted :=
    (transferFrom_ok sender source target value before after accepted).2.2

/-- The constructor gives `initialSupply` to the deployer. -/
def create (deployer : Address) (initialSupply : Uint256) : Ledger :=
  { balanceOf := Function.update (fun _ => 0#256) deployer initialSupply
    allowance := fun _ _ => 0#256 }

end BigX.Bridge.MockWbtc
