import BigX.Evm.AccessControl

set_option autoImplicit false

/- What each capability bit means: the table of definitions, and the loop over the bits of
a mask that its readers share. -/
namespace BigX.Registry

open Evm

inductive CapabilityRole
  | defaultAdmin
  | capabilityAdmin
  | other (id : Bytes32)
  deriving DecidableEq

abbrev Uint8 := BitVec 8

structure CapabilityDef where
  name : String
  description : String
  riskTier : Uint8
  exists_ : Bool
  deriving DecidableEq

structure CapabilityRegistry where
  roles : AccessControl CapabilityRole
  capabilities : Uint256 → CapabilityDef

inductive CapabilityEvent
  | capabilityDefined (bit : Uint256) (name : String) (riskTier : Uint8)
  | roles (event : RoleEvent CapabilityRole)
  deriving DecidableEq

abbrev CapabilityFailure : Type := Revert CapabilityRole Empty

abbrev CapabilityResult : Type :=
  Except CapabilityFailure (CapabilityRegistry × List CapabilityEvent)

namespace CapabilityRegistry

/-- `_define`. A position of 256 or more shifts the bit out. -/
def define (bitPosition : Uint256) (name description : String) (riskTier : Uint8)
    (registry : CapabilityRegistry) : CapabilityRegistry × List CapabilityEvent :=
  let bit := 1#256 <<< bitPosition
  ({ registry with
     capabilities := Function.update registry.capabilities bit ⟨name, description, riskTier, true⟩ },
   [.capabilityDefined bit name riskTier])

/-- The definitions of the constructor. -/
def initial : List (Uint256 × String × String × Uint8) :=
  [(0#256, "swap", "Execute DEX swaps", 1#8),
   (1#256, "bridge", "Move assets cross-chain", 2#8),
   (2#256, "yield_farm", "Deposit/withdraw into yield protocols", 1#8),
   (3#256, "nft_trade", "Buy/sell NFTs", 1#8),
   (4#256, "lending", "Borrow/lend/leverage positions", 2#8),
   (5#256, "price_feed_read", "Read-only market data access", 0#8)]

/-- Each of a list of definitions in turn. -/
def defineAll (registry : CapabilityRegistry) :
    List (Uint256 × String × String × Uint8) → CapabilityRegistry × List CapabilityEvent
  | [] => (registry, [])
  | (bitPosition, name, description, riskTier) :: rest =>
      let first := registry.define bitPosition name description riskTier
      let after := defineAll first.1 rest
      (after.1, first.2 ++ after.2)

/-- The constructor. -/
def deploy (message : Message) (admin : Address) : CapabilityRegistry × List CapabilityEvent :=
  let first := AccessControl.empty.grant CapabilityRole.defaultAdmin admin message.sender
  let second := first.1.grant .capabilityAdmin admin message.sender
  let defined := defineAll ⟨second.1, fun _ => ⟨"", "", 0#8, false⟩⟩ initial
  (defined.1, (first.2 ++ second.2).map .roles ++ defined.2)

def defineCapability (message : Message) (bitPosition : Uint256) (name description : String)
    (riskTier : Uint8) (registry : CapabilityRegistry) : CapabilityResult := do
  onlyRole registry.roles .capabilityAdmin message
  pure (registry.define bitPosition name description riskTier)

def isDefined (capabilityBit : Uint256) (registry : CapabilityRegistry) : Bool :=
  (registry.capabilities capabilityBit).exists_

def riskTierOf (capabilityBit : Uint256) (registry : CapabilityRegistry) : Uint8 :=
  (registry.capabilities capabilityBit).riskTier

end CapabilityRegistry

/-- `for (uint256 bit = 1; bit <= mask; bit <<= 1)`, from `bit` on, for as many rounds as
the gas pays for: `none` when it runs out. -/
def overBits {α ε : Type} (mask : Uint256) (visit : Uint256 → α → Except ε α) :
    Nat → Uint256 → α → Option (Except ε α)
  | 0, _, _ => none
  | gas + 1, bit, reached =>
      if bit ≤ mask then
        match visit bit reached with
        | .ok next => overBits mask visit gas (bit <<< 1) next
        | .error reason => some (.error reason)
      else some (.ok reached)

namespace CapabilityRegistry

/-- The body of the loop of `highestRiskTier`. -/
def raiseTier (capabilityMask : Uint256) (registry : CapabilityRegistry) (bit : Uint256)
    (highest : Uint8) : Except Empty Uint8 :=
  if capabilityMask &&& bit ≠ 0#256 ∧ registry.isDefined bit = true then
    if registry.riskTierOf bit > highest then .ok (registry.riskTierOf bit) else .ok highest
  else .ok highest

/-- `highestRiskTier`, with the rounds that `gas` pays for: `none` when it runs out. -/
def highestRiskTier (gas : Nat) (capabilityMask : Uint256) (registry : CapabilityRegistry) :
    Option Uint8 :=
  match overBits capabilityMask (raiseTier capabilityMask registry) gas 1#256 0#8 with
  | some (.ok highest) => some highest
  | some (.error never) => never.elim
  | none => none

end CapabilityRegistry

end BigX.Registry
