import BigX.Nft.Steps

set_option autoImplicit false

/- Who gets a royalty. The default receiver is checked by the constructor and never changes,
and a token's own receiver replaces it only when there is one. -/
namespace BigX.Nft

open Evm

/-- The share of a price, in ten-thousandths, that a token's royalty takes. -/
def royaltyBps (tokenId : Uint256) (state : State) : Uint96 :=
  let own := state.tokenRoyalty tokenId
  if own.receiver = Address.zero then state.defaultRoyalty.royaltyFraction
  else own.royaltyFraction

/-- No royalty is more than the whole price. -/
structure RoyaltiesBounded (state : State) : Prop where
  default_ : state.defaultRoyalty.royaltyFraction.toNat ≤ 10000
  own : ∀ tokenId, (state.tokenRoyalty tokenId).royaltyFraction.toNat ≤ 10000

theorem RoyaltiesBounded.wrote {stretch : Stretch Transaction Rest} {before after : State}
    (held : RoyaltiesBounded before) (wrote : Wrote stretch before after) :
    RoyaltiesBounded after := by
  constructor
  · rw [wrote.defaultRoyalty]
    exact held.default_
  · intro tokenId
    rw [wrote.tokenRoyalty]
    cases set : royaltySet stretch with
    | none => exact held.own tokenId
    | some change =>
      obtain ⟨written, royalty⟩ := change
      have within := wrote.bounded _ set
      by_cases same : tokenId = written
      · rw [same, withChange_some, Function.update_self]
        exact BitVec.le_def.mp (BitVec.not_lt.mp within)
      · rw [withChange_some, Function.update_of_ne same]
        exact held.own tokenId

theorem RoyaltiesBounded.royaltyBps_le {state : State} (held : RoyaltiesBounded state)
    (tokenId : Uint256) : (royaltyBps tokenId state).toNat ≤ 10000 := by
  unfold royaltyBps
  dsimp only
  split
  · exact held.default_
  · exact held.own tokenId

/-- A royalty that is asked for is the token's share of the price, rounded down. -/
theorem royaltyInfo_of_fits {tokenId salePrice : Uint256} {state : State}
    (fits : salePrice.toNat * (royaltyBps tokenId state).toNat < 2 ^ 256) :
    ∃ receiver amount, royaltyInfo tokenId salePrice state = .ok (receiver, amount) ∧
      amount.toNat = salePrice.toNat * (royaltyBps tokenId state).toNat / 10000 := by
  let own := state.tokenRoyalty tokenId
  let royalty := if own.receiver = Address.zero then state.defaultRoyalty else own
  have bps : royalty.royaltyFraction = royaltyBps tokenId state := by
    dsimp only [royalty, royaltyBps, own]
    split <;> rfl
  have widened : (royalty.royaltyFraction.setWidth 256).toNat =
      (royaltyBps tokenId state).toNat := by
    rw [bps, BitVec.toNat_setWidth]
    exact Nat.mod_eq_of_lt (Nat.lt_trans (BitVec.isLt _) (by decide))
  rw [← widened] at fits
  obtain ⟨product, multiplied, value⟩ :=
    @checkedMul_of_fits Role Error salePrice _ fits
  refine ⟨royalty.receiver, product / feeDenominator.setWidth 256, ?_, ?_⟩
  · exact bind_of_ok _ _ product multiplied
  · rw [BitVec.toNat_udiv, value, widened]
    rfl

/-- A royalty always has somebody to go to. -/
theorem royaltyInfo_receiver {tokenId salePrice : Uint256} {state : State}
    {royalty : Address × Uint256} (asked : royaltyInfo tokenId salePrice state = .ok royalty)
    (default_ : state.defaultRoyalty.receiver ≠ Address.zero) : royalty.1 ≠ Address.zero := by
  simp only [royaltyInfo, bind_eq_ok, pure_eq_ok] at asked
  obtain ⟨_, -, rfl⟩ := asked
  dsimp only
  split
  · exact default_
  · assumption

theorem deploy_bounded {message : Message} {admin receiver : Address} {bps : Uint96}
    {deployed : State × List Event} (accepted : deploy message admin receiver bps = .ok deployed) :
    RoyaltiesBounded deployed.1 := by
  simp only [deploy, bind_eq_ok, require_eq_ok, pure_eq_ok, exists_and_left, exists_const]
    at accepted
  obtain ⟨-, within, rfl⟩ := accepted
  refine ⟨BitVec.le_def.mp (BitVec.not_lt.mp within), ?_⟩
  intro tokenId
  exact Nat.zero_le _

theorem deploy_defaultRoyalty {message : Message} {admin receiver : Address} {bps : Uint96}
    {deployed : State × List Event} (accepted : deploy message admin receiver bps = .ok deployed) :
    deployed.1.defaultRoyalty.receiver ≠ Address.zero := by
  simp only [deploy, bind_eq_ok, require_eq_ok, pure_eq_ok, exists_and_left, exists_const]
    at accepted
  obtain ⟨real, -, rfl⟩ := accepted
  exact real

end BigX.Nft
