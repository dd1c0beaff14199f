import BigX.Evm.Word
import Mathlib.Logic.Function.Basic

set_option autoImplicit false

/- Ownership and approvals of non-fungible tokens, as the OpenZeppelin contract implements
them. `paused` is what an `_update` overridden with `whenNotPaused` asks first. -/
namespace BigX.Evm

variable {Role E : Type}

structure Erc721 where
  owners : Uint256 → Address
  tokenApprovals : Uint256 → Address
  operatorApprovals : Address → Address → Bool

inductive Erc721Event
  | transfer (source target : Address) (tokenId : Uint256)
  | approval (owner approved : Address) (tokenId : Uint256)
  | approvalForAll (owner operator : Address) (approved : Bool)
  deriving DecidableEq

namespace Erc721

def empty : Erc721 :=
  ⟨fun _ => Address.zero, fun _ => Address.zero, fun _ _ => false⟩

/-- `_requireOwned`, which is also `ownerOf`. -/
def requireOwned (tokenId : Uint256) (nft : Erc721) : Except (Revert Role E) Address := do
  let owner := nft.owners tokenId
  require (¬ owner = Address.zero) (.erc721 (.nonexistentToken tokenId))
  pure owner

/-- `_isAuthorized` -/
def isAuthorized (nft : Erc721) (owner spender : Address) (tokenId : Uint256) : Bool :=
  spender ≠ Address.zero &&
    (owner = spender || nft.operatorApprovals owner spender || nft.tokenApprovals tokenId = spender)

/-- `_checkAuthorized` -/
def checkAuthorized (owner spender : Address) (tokenId : Uint256) (nft : Erc721) :
    Except (Revert Role E) Unit :=
  if nft.isAuthorized owner spender tokenId then .ok ()
  else if owner = Address.zero then .error (.erc721 (.nonexistentToken tokenId))
  else .error (.erc721 (.insufficientApproval spender tokenId))

/-- `_update`, with the previous owner it returns. A zero `auth` skips the check. -/
def update (paused : Bool) (target : Address) (tokenId : Uint256) (auth : Address)
    (nft : Erc721) : Except (Revert Role E) (Address × Erc721 × List Erc721Event) := do
  require (paused = false) .enforcedPause
  let source := nft.owners tokenId
  if auth ≠ Address.zero then checkAuthorized source auth tokenId nft
  let cleared := if source ≠ Address.zero then
    { nft with tokenApprovals := Function.update nft.tokenApprovals tokenId Address.zero } else nft
  pure (source, { cleared with owners := Function.update cleared.owners tokenId target },
    [.transfer source target tokenId])

/-- `_mint` -/
def mint (paused : Bool) (target : Address) (tokenId : Uint256) (nft : Erc721) :
    Except (Revert Role E) (Erc721 × List Erc721Event) := do
  require (¬ target = Address.zero) (.erc721 (.invalidReceiver Address.zero))
  let updated ← update paused target tokenId Address.zero nft
  require (updated.1 = Address.zero) (.erc721 (.invalidSender Address.zero))
  pure updated.2

/-- `_transfer`: asks for no authority at all. -/
def transfer (paused : Bool) (source target : Address) (tokenId : Uint256) (nft : Erc721) :
    Except (Revert Role E) (Erc721 × List Erc721Event) := do
  require (¬ target = Address.zero) (.erc721 (.invalidReceiver Address.zero))
  let updated ← update paused target tokenId Address.zero nft
  require (¬ updated.1 = Address.zero) (.erc721 (.nonexistentToken tokenId))
  require (updated.1 = source) (.erc721 (.incorrectOwner source tokenId updated.1))
  pure updated.2

def transferFrom (paused : Bool) (sender source target : Address) (tokenId : Uint256)
    (nft : Erc721) : Except (Revert Role E) (Erc721 × List Erc721Event) := do
  require (¬ target = Address.zero) (.erc721 (.invalidReceiver Address.zero))
  let updated ← update paused target tokenId sender nft
  require (updated.1 = source) (.erc721 (.incorrectOwner source tokenId updated.1))
  pure updated.2

def approve (sender target : Address) (tokenId : Uint256) (nft : Erc721) :
    Except (Revert Role E) (Erc721 × List Erc721Event) := do
  let owner ← requireOwned tokenId nft
  require (¬ (sender ≠ Address.zero ∧ owner ≠ sender ∧ nft.operatorApprovals owner sender = false))
    (.erc721 (.invalidApprover sender))
  pure ({ nft with tokenApprovals := Function.update nft.tokenApprovals tokenId target },
    [.approval owner target tokenId])

def setApprovalForAll (sender operator : Address) (approved : Bool) (nft : Erc721) :
    Except (Revert Role E) (Erc721 × List Erc721Event) := do
  require (¬ sender = Address.zero) (.erc721 (.invalidApprover Address.zero))
  require (¬ operator = Address.zero) (.erc721 (.invalidOperator operator))
  pure
    ({ nft with
       operatorApprovals := Function.update nft.operatorApprovals sender
         (Function.update (nft.operatorApprovals sender) operator approved) },
     [.approvalForAll sender operator approved])

/-- The account owns the token, is approved for it, or operates for its owner. -/
def MayMove (nft : Erc721) (account : Address) (tokenId : Uint256) : Prop :=
  account = nft.owners tokenId ∨ account = nft.tokenApprovals tokenId ∨
    nft.operatorApprovals (nft.owners tokenId) account = true

instance (nft : Erc721) (account : Address) (tokenId : Uint256) :
    Decidable (nft.MayMove account tokenId) :=
  inferInstanceAs (Decidable (_ ∨ _ ∨ _))

theorem mayMove_of_isAuthorized {nft : Erc721} {spender : Address} {tokenId : Uint256}
    (authorized : nft.isAuthorized (nft.owners tokenId) spender tokenId = true) :
    nft.MayMove spender tokenId := by
  simp only [isAuthorized, Bool.and_eq_true, Bool.or_eq_true, decide_eq_true_eq] at authorized
  rcases authorized.2 with (owner | operator) | approved
  · exact Or.inl owner.symm
  · exact Or.inr (Or.inr operator)
  · exact Or.inr (Or.inl approved.symm)

theorem checkAuthorized_ok {owner spender : Address} {tokenId : Uint256} {nft : Erc721}
    {result : Unit}
    (accepted : (checkAuthorized owner spender tokenId nft : Except (Revert Role E) Unit) =
      .ok result) : nft.isAuthorized owner spender tokenId = true := by
  unfold checkAuthorized at accepted
  split at accepted
  · assumption
  · split at accepted <;> cases accepted

/-- What an accepted `_update` did, and on whose authority. -/
structure Updated (target : Address) (tokenId : Uint256) (auth : Address) (before : Erc721)
    (previous : Address) (after : Erc721) : Prop where
  previous_eq : previous = before.owners tokenId
  owners_eq : after.owners = Function.update before.owners tokenId target
  authorized : auth ≠ Address.zero → before.MayMove auth tokenId

theorem update_ok {paused : Bool} {target : Address} {tokenId : Uint256} {auth : Address}
    {before : Erc721} {result : Address × Erc721 × List Erc721Event}
    (accepted : (update paused target tokenId auth before : Except (Revert Role E) _) =
      .ok result) : Updated target tokenId auth before result.1 result.2.1 := by
  simp only [update, bind_eq_ok, require_eq_ok, exists_and_left, exists_const] at accepted
  obtain ⟨-, rest⟩ := accepted
  have owners_kept : ∀ cleared : Erc721, cleared = (if before.owners tokenId ≠ Address.zero then
      { before with tokenApprovals := Function.update before.tokenApprovals tokenId Address.zero }
      else before) → cleared.owners = before.owners := by
    intro cleared same
    rw [same]
    split <;> rfl
  split at rest
  · simp only [bind_eq_ok, pure_eq_ok] at rest
    obtain ⟨_, checked, rfl⟩ := rest
    refine ⟨rfl, ?_, fun _ => mayMove_of_isAuthorized (checkAuthorized_ok checked)⟩
    simp only [owners_kept _ rfl]
  · rename_i unasked
    simp only [pure_eq_ok] at rest
    cases rest
    refine ⟨rfl, ?_, fun asked => absurd asked unasked⟩
    simp only [owners_kept _ rfl]

/-- A mint gives an owner to a token that had none. -/
theorem mint_ok {paused : Bool} {target : Address} {tokenId : Uint256} {before : Erc721}
    {result : Erc721 × List Erc721Event}
    (accepted : (mint paused target tokenId before : Except (Revert Role E) _) = .ok result) :
    before.owners tokenId = Address.zero ∧
      result.1.owners = Function.update before.owners tokenId target := by
  simp only [mint, bind_eq_ok, require_eq_ok, pure_eq_ok, exists_and_left,
    exists_const] at accepted
  obtain ⟨-, updated, returned, unowned, rfl⟩ := accepted
  have wrote := update_ok returned
  exact ⟨wrote.previous_eq ▸ unowned, wrote.owners_eq⟩

theorem transfer_ok {paused : Bool} {source target : Address} {tokenId : Uint256}
    {before : Erc721} {result : Erc721 × List Erc721Event}
    (accepted : (transfer paused source target tokenId before : Except (Revert Role E) _) =
      .ok result) :
    before.owners tokenId = source ∧ source ≠ Address.zero ∧
      result.1.owners = Function.update before.owners tokenId target := by
  simp only [transfer, bind_eq_ok, require_eq_ok, pure_eq_ok, exists_and_left,
    exists_const] at accepted
  obtain ⟨-, updated, returned, owned, same, rfl⟩ := accepted
  have wrote := update_ok returned
  exact ⟨wrote.previous_eq ▸ same, same ▸ owned, wrote.owners_eq⟩

/-- `transferFrom` moves a token only for somebody who may move it. -/
theorem transferFrom_ok {paused : Bool} {sender source target : Address} {tokenId : Uint256}
    {before : Erc721} {result : Erc721 × List Erc721Event}
    (accepted : (transferFrom paused sender source target tokenId before :
      Except (Revert Role E) _) = .ok result) :
    before.owners tokenId = source ∧
      result.1.owners = Function.update before.owners tokenId target ∧
      (sender ≠ Address.zero → before.MayMove sender tokenId) := by
  simp only [transferFrom, bind_eq_ok, require_eq_ok, pure_eq_ok, exists_and_left,
    exists_const] at accepted
  obtain ⟨-, updated, returned, same, rfl⟩ := accepted
  have wrote := update_ok returned
  exact ⟨wrote.previous_eq ▸ same, wrote.owners_eq, wrote.authorized⟩

theorem approve_ok {sender target : Address} {tokenId : Uint256} {before : Erc721}
    {result : Erc721 × List Erc721Event}
    (accepted : (approve sender target tokenId before : Except (Revert Role E) _) = .ok result) :
    result.1.owners = before.owners := by
  simp only [approve, bind_eq_ok, pure_eq_ok] at accepted
  obtain ⟨_, -, _, -, rfl⟩ := accepted
  rfl

theorem setApprovalForAll_ok {sender operator : Address} {approved : Bool} {before : Erc721}
    {result : Erc721 × List Erc721Event}
    (accepted : (setApprovalForAll sender operator approved before :
      Except (Revert Role E) _) = .ok result) : result.1.owners = before.owners := by
  simp only [setApprovalForAll, bind_eq_ok, pure_eq_ok] at accepted
  obtain ⟨_, -, _, -, rfl⟩ := accepted
  rfl

/-- Nobody is approved for a token without an owner, and the zero address has no operator. -/
structure Sound (nft : Erc721) : Prop where
  unowned : ∀ tokenId, nft.owners tokenId = Address.zero →
    nft.tokenApprovals tokenId = Address.zero
  operators : ∀ operator, nft.operatorApprovals Address.zero operator = false

theorem sound_empty : Sound empty := ⟨fun _ _ => rfl, fun _ => rfl⟩

/-- A token without an owner can be moved by nobody. -/
theorem Sound.owned {nft : Erc721} (sound : nft.Sound) {spender : Address} {tokenId : Uint256}
    (authorized : nft.isAuthorized (nft.owners tokenId) spender tokenId = true) :
    nft.owners tokenId ≠ Address.zero := by
  intro none
  simp only [isAuthorized, none, sound.unowned tokenId none, sound.operators, Bool.or_false,
    Bool.and_eq_true, Bool.or_eq_true, decide_eq_true_eq] at authorized
  obtain ⟨real, same | same⟩ := authorized
  · exact real same.symm
  · exact real same.symm

/-- What an accepted `_update` to a real account leaves behind. -/
theorem update_sound {paused : Bool} {target : Address} {tokenId : Uint256} {auth : Address}
    {before : Erc721} {result : Address × Erc721 × List Erc721Event}
    (accepted : (update paused target tokenId auth before : Except (Revert Role E) _) = .ok result)
    (sound : before.Sound) (real : target ≠ Address.zero) :
    result.2.1.Sound ∧ result.2.2 = [.transfer (before.owners tokenId) target tokenId] ∧
      (auth ≠ Address.zero → before.owners tokenId ≠ Address.zero) := by
  simp only [update, bind_eq_ok, require_eq_ok, exists_and_left, exists_const] at accepted
  obtain ⟨-, rest⟩ := accepted
  have kept : ∀ cleared : Erc721, cleared = (if before.owners tokenId ≠ Address.zero then
      { before with tokenApprovals := Function.update before.tokenApprovals tokenId Address.zero }
      else before) →
      Sound { cleared with owners := Function.update cleared.owners tokenId target } := by
    intro cleared same
    have owners : cleared.owners = before.owners := by
      rw [same]
      split <;> rfl
    have operators : cleared.operatorApprovals = before.operatorApprovals := by
      rw [same]
      split <;> rfl
    have approvals : ∀ other, other ≠ tokenId →
        cleared.tokenApprovals other = before.tokenApprovals other := by
      intro other different
      rw [same]
      split
      · exact Function.update_of_ne different _ _
      · rfl
    refine ⟨?_, fun operator => operators ▸ sound.operators operator⟩
    intro other none
    have different : other ≠ tokenId := by
      rintro rfl
      exact real (none.symm.trans (Function.update_self _ _ _)).symm
    have unowned := (Function.update_of_ne different _ _).symm.trans none
    rw [owners] at unowned
    exact (approvals other different).trans (sound.unowned other unowned)
  split at rest
  · simp only [bind_eq_ok, pure_eq_ok] at rest
    obtain ⟨_, checked, rfl⟩ := rest
    exact ⟨kept _ rfl, rfl, fun _ => sound.owned (checkAuthorized_ok checked)⟩
  · rename_i unasked
    simp only [pure_eq_ok] at rest
    subst rest
    exact ⟨kept _ rfl, rfl, fun asked => absurd asked unasked⟩

/-- A token went to a real account, and that is all that the events say. -/
structure Shifted (source target : Address) (tokenId : Uint256) (before : Erc721)
    (result : Erc721 × List Erc721Event) : Prop where
  source_eq : before.owners tokenId = source
  real : target ≠ Address.zero
  owners_eq : result.1.owners = Function.update before.owners tokenId target
  sound : result.1.Sound
  events_eq : result.2 = [.transfer source target tokenId]

theorem mint_shifted {paused : Bool} {target : Address} {tokenId : Uint256} {before : Erc721}
    {result : Erc721 × List Erc721Event} (sound : before.Sound)
    (accepted : (mint paused target tokenId before : Except (Revert Role E) _) = .ok result) :
    Shifted Address.zero target tokenId before result := by
  obtain ⟨unowned, owners⟩ := mint_ok accepted
  simp only [mint, bind_eq_ok, require_eq_ok, pure_eq_ok, exists_and_left,
    exists_const] at accepted
  obtain ⟨real, updated, returned, -, rfl⟩ := accepted
  obtain ⟨sound', events, -⟩ := update_sound returned sound real
  exact ⟨unowned, real, owners, sound', unowned ▸ events⟩

theorem transfer_shifted {paused : Bool} {source target : Address} {tokenId : Uint256}
    {before : Erc721} {result : Erc721 × List Erc721Event} (sound : before.Sound)
    (accepted : (transfer paused source target tokenId before : Except (Revert Role E) _) =
      .ok result) :
    Shifted source target tokenId before result ∧ source ≠ Address.zero := by
  obtain ⟨owned, source_real, owners⟩ := transfer_ok accepted
  simp only [transfer, bind_eq_ok, require_eq_ok, pure_eq_ok, exists_and_left,
    exists_const] at accepted
  obtain ⟨real, updated, returned, -, -, rfl⟩ := accepted
  obtain ⟨sound', events, -⟩ := update_sound returned sound real
  exact ⟨⟨owned, real, owners, sound', owned ▸ events⟩, source_real⟩

theorem transferFrom_shifted {paused : Bool} {sender source target : Address}
    {tokenId : Uint256} {before : Erc721} {result : Erc721 × List Erc721Event}
    (sound : before.Sound) (caller : sender ≠ Address.zero)
    (accepted : (transferFrom paused sender source target tokenId before :
      Except (Revert Role E) _) = .ok result) :
    Shifted source target tokenId before result ∧ source ≠ Address.zero := by
  obtain ⟨owned, owners, -⟩ := transferFrom_ok accepted
  simp only [transferFrom, bind_eq_ok, require_eq_ok, pure_eq_ok, exists_and_left,
    exists_const] at accepted
  obtain ⟨real, updated, returned, -, rfl⟩ := accepted
  obtain ⟨sound', events, source_real⟩ := update_sound returned sound real
  exact ⟨⟨owned, real, owners, sound', owned ▸ events⟩, owned ▸ source_real caller⟩

theorem approve_sound {sender target : Address} {tokenId : Uint256} {before : Erc721}
    {result : Erc721 × List Erc721Event} (sound : before.Sound)
    (accepted : (approve sender target tokenId before : Except (Revert Role E) _) = .ok result) :
    result.1.Sound ∧ result.2 = [.approval (before.owners tokenId) target tokenId] := by
  simp only [approve, requireOwned, bind_eq_ok, pure_eq_ok, require_eq_ok] at accepted
  obtain ⟨owner, ⟨_, real, rfl⟩, _, -, rfl⟩ := accepted
  refine ⟨⟨?_, sound.operators⟩, rfl⟩
  intro other none
  have different : other ≠ tokenId := by
    rintro rfl
    exact real none
  exact (Function.update_of_ne different _ _).trans (sound.unowned other none)

theorem setApprovalForAll_sound {sender operator : Address} {approved : Bool} {before : Erc721}
    {result : Erc721 × List Erc721Event} (sound : before.Sound)
    (accepted : (setApprovalForAll sender operator approved before :
      Except (Revert Role E) _) = .ok result) :
    result.1.Sound ∧ result.2 = [.approvalForAll sender operator approved] := by
  simp only [setApprovalForAll, bind_eq_ok, pure_eq_ok, require_eq_ok] at accepted
  obtain ⟨_, caller, _, -, rfl⟩ := accepted
  refine ⟨⟨sound.unowned, ?_⟩, rfl⟩
  intro other
  show Function.update before.operatorApprovals sender _ Address.zero other = false
  rw [Function.update_of_ne (Ne.symm caller)]
  exact sound.operators other

end Erc721

end BigX.Evm
