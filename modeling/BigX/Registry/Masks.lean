import BigX.Registry.Soundness

set_option autoImplicit false

/- What the two loops over a capability mask compute, and the masks on which they never
end. -/
namespace BigX.Registry

open Evm

theorem and_bitAt_eq_zero (mask : Uint256) (position : Nat) :
    mask &&& bitAt position = 0#256 ↔ mask.getLsbD position = false := by
  constructor
  · intro empty
    by_contra set
    exact and_bitAt_ne_zero (Bool.of_not_eq_false set) empty
  · intro clear
    apply BitVec.eq_of_getLsbD_eq
    intro place _
    by_cases same : place = position
    · simp [same, clear]
    · have apart : (bitAt position).getLsbD place = false := by
        rw [Bool.eq_false_iff, ne_eq, bitAt_getLsbD]
        omega
      simp [apart]

theorem bitAt_zero_of_beyond {position : Nat} (beyond : 256 ≤ position) :
    bitAt position = 0#256 := by
  apply BitVec.eq_of_getLsbD_eq
  intro place _
  have apart : (bitAt position).getLsbD place = false := by
    rw [Bool.eq_false_iff, ne_eq, bitAt_getLsbD]
    omega
  rw [apart, BitVec.getLsbD_zero]

theorem bitAt_toNat {position : Nat} (within : position < 256) :
    (bitAt position).toNat = 2 ^ position := by
  rw [bitAt, ← BitVec.twoPow_eq, BitVec.toNat_twoPow_of_lt within]

theorem bitAt_succ (position : Nat) : bitAt position <<< 1 = bitAt (position + 1) :=
  (BitVec.shiftLeft_add 1#256 position 1).symm

/-- With the top bit set, a mask is no smaller than whatever the loop's variable becomes. -/
theorem bitAt_le_of_high {mask : Uint256} (high : 2 ^ 255 ≤ mask.toNat) (position : Nat) :
    bitAt position ≤ mask := by
  rw [BitVec.le_def]
  by_cases within : position < 256
  · rw [bitAt_toNat within]
    have below : 2 ^ position ≤ 2 ^ 255 := Nat.pow_le_pow_right Nat.two_pos (by omega)
    exact Nat.le_trans below high
  · rw [bitAt_zero_of_beyond (by omega), BitVec.toNat_ofNat]
    exact Nat.zero_le _

theorem bitAt_not_le_of_low {mask : Uint256} (low : mask.toNat < 2 ^ 255) :
    ¬ bitAt 255 ≤ mask := by
  rw [BitVec.le_def, bitAt_toNat (by omega)]
  omega

section Loop

variable {α ε : Type} {mask : Uint256} {visit : Uint256 → α → Except ε α}

/-- Where the loop can go no further. -/
def Stops (mask : Uint256) (visit : Uint256 → α → Except ε α) (position : Nat) : Prop :=
  ¬ bitAt position ≤ mask ∨ ∀ reached, ∃ reason, visit (bitAt position) reached = .error reason

theorem overBits_ends {stop : Nat} (stops : Stops mask visit stop) {gas start : Nat}
    (later : start ≤ stop) (enough : stop - start < gas) (reached : α) :
    overBits mask visit gas (bitAt start) reached ≠ none := by
  induction gas generalizing start reached with
  | zero => omega
  | succ gas ih =>
    unfold overBits
    split
    · rename_i below
      split
      · rename_i next visited
        have before : start ≠ stop := by
          intro same
          subst same
          rcases stops with beyond | fails
          · exact beyond below
          · obtain ⟨reason, failed⟩ := fails reached
            rw [failed] at visited
            cases visited
        rw [bitAt_succ]
        apply ih <;> omega
      · exact Option.some_ne_none _
    · exact Option.some_ne_none _

/-- What every visit preserves holds where the loop ends, and no set bit is left there. -/
theorem overBits_induction {holds : Nat → α → Prop}
    (preserved : ∀ position reached next, holds position reached →
      visit (bitAt position) reached = .ok next → holds (position + 1) next)
    {gas start : Nat} {reached last : α} (initially : holds start reached)
    (ended : overBits mask visit gas (bitAt start) reached = some (.ok last)) :
    ∃ stop, ¬ bitAt stop ≤ mask ∧ holds stop last := by
  induction gas generalizing start reached with
  | zero => cases ended
  | succ gas ih =>
    unfold overBits at ended
    split at ended
    · split at ended
      · rename_i next visited
        rw [bitAt_succ] at ended
        exact ih (preserved start reached next initially visited) ended
      · cases ended
    · rename_i beyond
      have same : reached = last := Except.ok.inj (Option.some.inj ended)
      exact ⟨start, beyond, same ▸ initially⟩

theorem overBits_failed {gas start : Nat} {reached : α} {reason : ε}
    (ended : overBits mask visit gas (bitAt start) reached = some (.error reason)) :
    ∃ position before, visit (bitAt position) before = .error reason := by
  induction gas generalizing start reached with
  | zero => cases ended
  | succ gas ih =>
    unfold overBits at ended
    split at ended
    · split at ended
      · rw [bitAt_succ] at ended
        exact ih ended
      · rename_i failed
        cases ended
        exact ⟨start, reached, failed⟩
    · cases ended

/-- The variable of the loop becomes zero and stays zero. -/
theorem overBits_endless (high : 2 ^ 255 ≤ mask.toNat)
    (passes : ∀ position reached, ∃ next, visit (bitAt position) reached = .ok next)
    (gas start : Nat) (reached : α) :
    overBits mask visit gas (bitAt start) reached = none := by
  induction gas generalizing start reached with
  | zero => rfl
  | succ gas ih =>
    obtain ⟨next, visited⟩ := passes start reached
    unfold overBits
    rw [if_pos (bitAt_le_of_high high start), visited, bitAt_succ]
    exact ih (start + 1) next

end Loop

/-- A tier that is the highest of the bits set in a mask that are defined, zero without any. -/
structure IsHighest (mask : Uint256) (registry : CapabilityRegistry) (tier : Uint8) : Prop where
  bounds : ∀ position, mask.getLsbD position = true →
    registry.isDefined (bitAt position) = true → registry.riskTierOf (bitAt position) ≤ tier
  attained : tier = 0#8 ∨ ∃ position, mask.getLsbD position = true ∧
    registry.isDefined (bitAt position) = true ∧ registry.riskTierOf (bitAt position) = tier

theorem IsHighest.le {mask : Uint256} {registry : CapabilityRegistry} {tier other : Uint8}
    (highest : IsHighest mask registry tier) (bounds : ∀ position,
      mask.getLsbD position = true → registry.isDefined (bitAt position) = true →
      registry.riskTierOf (bitAt position) ≤ other) : tier ≤ other := by
  rcases highest.attained with zero | ⟨position, set, defined, same⟩
  · rw [zero]
    rw [BitVec.le_def, BitVec.toNat_ofNat]
    exact Nat.zero_le _
  · rw [← same]
    exact bounds position set defined

theorem IsHighest.unique {mask : Uint256} {registry : CapabilityRegistry} {tier other : Uint8}
    (highest : IsHighest mask registry tier) (also : IsHighest mask registry other) :
    tier = other :=
  BitVec.le_antisymm (highest.le also.bounds) (also.le highest.bounds)

/-- The same for the bits below a position. -/
structure HighestBelow (mask : Uint256) (registry : CapabilityRegistry) (stop : Nat)
    (tier : Uint8) : Prop where
  bounds : ∀ position, position < stop → mask.getLsbD position = true →
    registry.isDefined (bitAt position) = true → registry.riskTierOf (bitAt position) ≤ tier
  attained : tier = 0#8 ∨ ∃ position, mask.getLsbD position = true ∧
    registry.isDefined (bitAt position) = true ∧ registry.riskTierOf (bitAt position) = tier

/-- A bit that does not count leaves the highest tier as it is. -/
theorem HighestBelow.skip {mask : Uint256} {registry : CapabilityRegistry} {stop : Nat}
    {tier : Uint8} (held : HighestBelow mask registry stop tier)
    (uncounted : mask.getLsbD stop = true → registry.isDefined (bitAt stop) = true →
      registry.riskTierOf (bitAt stop) ≤ tier) :
    HighestBelow mask registry (stop + 1) tier := by
  refine ⟨?_, held.attained⟩
  intro position below set defined
  by_cases same : position = stop
  · subst same
    exact uncounted set defined
  · exact held.bounds position (by omega) set defined

theorem HighestBelow.raise {mask : Uint256} {registry : CapabilityRegistry} {stop : Nat}
    {tier : Uint8} (held : HighestBelow mask registry stop tier)
    (set : mask.getLsbD stop = true) (defined : registry.isDefined (bitAt stop) = true)
    (above : registry.riskTierOf (bitAt stop) > tier) :
    HighestBelow mask registry (stop + 1) (registry.riskTierOf (bitAt stop)) := by
  refine ⟨?_, Or.inr ⟨stop, set, defined, rfl⟩⟩
  intro position below set' defined'
  by_cases same : position = stop
  · rw [same]
    exact BitVec.le_refl _
  · have earlier := held.bounds position (by omega) set' defined'
    rw [BitVec.le_def] at earlier ⊢
    rw [gt_iff_lt, BitVec.lt_def] at above
    omega

/-- A loop that ended has passed every set bit. -/
theorem HighestBelow.whole {mask : Uint256} {registry : CapabilityRegistry} {stop : Nat}
    {tier : Uint8} (held : HighestBelow mask registry stop tier)
    (beyond : ¬ bitAt stop ≤ mask) : IsHighest mask registry tier := by
  refine ⟨?_, held.attained⟩
  intro position set defined
  apply held.bounds position ?_ set defined
  by_contra later
  have within : position < 256 := BitVec.lt_of_getLsbD set
  have smaller : bitAt stop ≤ bitAt position := by
    rw [BitVec.le_def, bitAt_toNat within, bitAt_toNat (by omega)]
    exact Nat.pow_le_pow_right Nat.two_pos (by omega)
  exact beyond (BitVec.le_trans smaller (bitAt_le_of_getLsbD set))

theorem HighestBelow.visit {mask : Uint256} {registry : CapabilityRegistry} (position : Nat)
    (tier next : Uint8) (held : HighestBelow mask registry position tier)
    (visited : registry.raiseTier mask (bitAt position) tier = .ok next) :
    HighestBelow mask registry (position + 1) next := by
  unfold CapabilityRegistry.raiseTier at visited
  split at visited
  · rename_i counted
    obtain ⟨met, defined⟩ := counted
    have set : mask.getLsbD position = true := by
      rw [← Bool.not_eq_false, ← and_bitAt_eq_zero]
      exact met
    split at visited
    · rename_i above
      cases visited
      exact held.raise set defined above
    · rename_i within
      cases visited
      exact held.skip fun _ _ => BitVec.not_lt.mp within
  · rename_i skipped
    cases visited
    apply held.skip
    intro set defined
    exact absurd ⟨and_bitAt_ne_zero set, defined⟩ skipped

/-- What `highestRiskTier` returns is the highest tier. -/
theorem highestRiskTier_some {gas : Nat} {mask : Uint256} {registry : CapabilityRegistry}
    {tier : Uint8} (returned : registry.highestRiskTier gas mask = some tier) :
    IsHighest mask registry tier := by
  have nothing : HighestBelow mask registry 0 0#8 :=
    ⟨fun position below => absurd below (Nat.not_lt_zero position), Or.inl rfl⟩
  unfold CapabilityRegistry.highestRiskTier at returned
  split at returned
  · rename_i highest ended
    cases returned
    have ended : overBits mask (registry.raiseTier mask) gas (bitAt 0) 0#8 = _ := ended
    obtain ⟨stop, beyond, held⟩ := overBits_induction HighestBelow.visit nothing ended
    exact held.whole beyond
  · rename_i never _
    exact never.elim
  · cases returned

theorem raiseTier_ok (mask : Uint256) (registry : CapabilityRegistry) (bit : Uint256)
    (tier : Uint8) : ∃ next, registry.raiseTier mask bit tier = .ok next := by
  unfold CapabilityRegistry.raiseTier
  split
  · split
    · exact ⟨_, rfl⟩
    · exact ⟨_, rfl⟩
  · exact ⟨_, rfl⟩

theorem highestRiskTier_ends {gas : Nat} {mask : Uint256} (registry : CapabilityRegistry)
    (low : mask.toNat < 2 ^ 255) (enough : 256 ≤ gas) :
    ∃ tier, registry.highestRiskTier gas mask = some tier := by
  have ends : overBits mask (registry.raiseTier mask) gas (bitAt 0) 0#8 ≠ none :=
    overBits_ends (Or.inl (bitAt_not_le_of_low low)) (Nat.zero_le 255) enough 0#8
  unfold CapabilityRegistry.highestRiskTier
  split
  · exact ⟨_, rfl⟩
  · rename_i never _
    exact never.elim
  · rename_i exhausted
    exact absurd exhausted ends

theorem highestRiskTier_endless {mask : Uint256} (registry : CapabilityRegistry)
    (high : 2 ^ 255 ≤ mask.toNat) (gas : Nat) : registry.highestRiskTier gas mask = none := by
  have endless := overBits_endless high
    (fun position => raiseTier_ok mask registry (bitAt position)) gas 0 0#8
  unfold CapabilityRegistry.highestRiskTier
  rw [show (1#256 : Uint256) = bitAt 0 from rfl, endless]

/-- What `highestRiskTier` is to do on a mask: end, whatever gas there is above some amount,
with the highest tier. -/
def TierRight (mask : Uint256) (registry : CapabilityRegistry) : Prop :=
  ∃ tier, IsHighest mask registry tier ∧
    ∃ enough, ∀ gas, enough ≤ gas → registry.highestRiskTier gas mask = some tier

theorem tierRight_iff (mask : Uint256) (registry : CapabilityRegistry) :
    TierRight mask registry ↔ mask.toNat < 2 ^ 255 := by
  constructor
  · rintro ⟨tier, -, enough, returns⟩
    by_contra high
    have returned := returns enough (Nat.le_refl enough)
    rw [highestRiskTier_endless registry (Nat.le_of_not_lt high)] at returned
    cases returned
  · intro low
    obtain ⟨tier, returned⟩ := highestRiskTier_ends registry low (Nat.le_refl 256)
    have highest := highestRiskTier_some returned
    refine ⟨tier, highest, 256, ?_⟩
    intro gas enough
    obtain ⟨other, returns⟩ := highestRiskTier_ends registry low enough
    rw [returns, highest.unique (highestRiskTier_some returns)]

/-- The bits of a mask that no definition backs. -/
def Unbacked (mask : Uint256) (registry : CapabilityRegistry) (position : Nat) : Prop :=
  mask.getLsbD position = true ∧ registry.isDefined (bitAt position) = false

/-- What `_validateCapabilities` is to do on a mask: end, whatever gas there is above some
amount, and accept it exactly if all its bits are defined. -/
def ValidationRight (mask : Uint256) (state : State) : Prop :=
  ∃ enough, ∀ gas, enough ≤ gas →
    validateCapabilities gas mask state ≠ .error (.custom .outOfGas) ∧
    (validateCapabilities gas mask state = .ok () ↔
      ∀ position, ¬ Unbacked mask state.capabilityRegistry position)

/-- The body of the loop of `_validateCapabilities`. -/
def checkBit (mask : Uint256) (state : State) (bit : Uint256) (_ : Unit) : Except Failure Unit :=
  require (mask &&& bit = 0#256 ∨ state.capabilityRegistry.isDefined bit = true)
    (.custom .capabilityNotDefined)

theorem checkBit_unbacked {mask : Uint256} {state : State} {position : Nat}
    (unbacked : Unbacked mask state.capabilityRegistry position) :
    checkBit mask state (bitAt position) () = .error (.custom .capabilityNotDefined) := by
  unfold checkBit
  obtain ⟨set, undefined⟩ := unbacked
  rw [require, if_neg]
  rw [and_bitAt_eq_zero, set, undefined]
  simp

theorem checkBit_backed {mask : Uint256} {state : State} {position : Nat}
    (backed : ¬ Unbacked mask state.capabilityRegistry position) :
    checkBit mask state (bitAt position) () = .ok () := by
  unfold checkBit
  rw [require_eq_ok, and_bitAt_eq_zero]
  by_contra neither
  rw [not_or, Bool.not_eq_false, Bool.not_eq_true] at neither
  exact backed neither

theorem validateCapabilities_ends {gas stop : Nat} {mask : Uint256} {state : State}
    (stops : Stops mask (checkBit mask state) stop) (enough : stop < gas) :
    ∃ outcome, overBits mask (checkBit mask state) gas (bitAt 0) () = some outcome ∧
      validateCapabilities gas mask state = outcome := by
  obtain ⟨outcome, ended⟩ := Option.ne_none_iff_exists'.mp
    (overBits_ends stops (Nat.zero_le stop) (by omega) ())
  refine ⟨outcome, ended, ?_⟩
  unfold validateCapabilities
  dsimp only
  split
  · rename_i other found
    exact Option.some.inj (found.symm.trans ended)
  · rename_i found
    cases found.symm.trans ended

theorem validateCapabilities_endless {mask : Uint256} {state : State}
    (high : 2 ^ 255 ≤ mask.toNat)
    (backed : ∀ position, ¬ Unbacked mask state.capabilityRegistry position) (gas : Nat) :
    validateCapabilities gas mask state = .error (.custom .outOfGas) := by
  have endless : overBits mask (checkBit mask state) gas (bitAt 0) () = none :=
    overBits_endless high (fun position _ => ⟨(), checkBit_backed (backed position)⟩) gas 0 ()
  unfold validateCapabilities
  dsimp only
  split
  · rename_i outcome found
    cases found.symm.trans endless
  · rfl

/-- A loop that ends accepts the masks it should. -/
theorem validateCapabilities_right {gas : Nat} {mask : Uint256} {state : State}
    {outcome : Except Failure Unit}
    (ended : overBits mask (checkBit mask state) gas (bitAt 0) () = some outcome) :
    outcome ≠ .error (.custom .outOfGas) ∧
      (outcome = .ok () ↔ ∀ position, ¬ Unbacked mask state.capabilityRegistry position) := by
  cases outcome with
  | ok =>
    refine ⟨by simp, iff_of_true rfl ?_⟩
    intro position unbacked
    have visited := overBits_visited ended (Nat.zero_le position) unbacked.1
    rw [checkBit_unbacked unbacked] at visited
    cases visited
  | error reason =>
    obtain ⟨position, _, failed⟩ := overBits_failed ended
    have unbacked : Unbacked mask state.capabilityRegistry position := by
      by_contra backed
      rw [checkBit_backed backed] at failed
      cases failed
    rw [checkBit_unbacked unbacked] at failed
    cases failed
    refine ⟨by decide, iff_of_false (by simp) ?_⟩
    intro backed
    exact backed position unbacked

theorem validationRight_iff (mask : Uint256) (state : State) :
    ValidationRight mask state ↔
      mask.toNat < 2 ^ 255 ∨ ∃ position, Unbacked mask state.capabilityRegistry position := by
  constructor
  · rintro ⟨enough, right⟩
    by_contra neither
    rw [not_or, not_exists, Nat.not_lt] at neither
    exact (right enough (Nat.le_refl enough)).1
      (validateCapabilities_endless neither.1 neither.2 enough)
  · intro ends
    have stops : ∃ stop, Stops mask (checkBit mask state) stop := by
      rcases ends with low | ⟨position, unbacked⟩
      · exact ⟨255, Or.inl (bitAt_not_le_of_low low)⟩
      · exact ⟨position, Or.inr fun _ => ⟨_, checkBit_unbacked unbacked⟩⟩
    obtain ⟨stop, stops⟩ := stops
    refine ⟨stop + 1, ?_⟩
    intro gas enough
    obtain ⟨outcome, ended, same⟩ := validateCapabilities_ends stops enough
    rw [same]
    exact validateCapabilities_right ended

/-- What both loops are to do on a mask, over a table that some calls of the capability
registry reach, whatever else the agent registry holds. -/
def LoopsRight (defining : Message) (definer : Address)
    (transactions : List CapabilityTransaction) (state : State) (mask : Uint256) : Prop :=
  let registry := CapabilityRegistry.reached defining definer transactions
  TierRight mask registry ∧ ValidationRight mask { state with capabilityRegistry := registry }

/-- The loops are right exactly on the masks below `2 ^ 255`. -/
theorem loopsRight_iff (defining : Message) (definer : Address)
    (transactions : List CapabilityTransaction) (state : State) (mask : Uint256) :
    LoopsRight defining definer transactions state mask ↔ mask.toNat < 2 ^ 255 := by
  constructor
  · intro right
    exact (tierRight_iff _ _).mp right.1
  · intro low
    exact ⟨(tierRight_iff _ _).mpr low, (validationRight_iff _ _).mpr (Or.inl low)⟩

/-- Position 255 can be defined, and then neither loop ends on its bit. -/
theorem highest_bit_endless :
    let admin : Address := 1#160
    let message : Message := ⟨admin, 0#256⟩
    let transactions : List CapabilityTransaction :=
      [⟨message, .defineCapability 255#256 "all" "" 3#8⟩]
    let registry := CapabilityRegistry.reached message admin transactions
    let state := (deploy message admin registry).1
    (∀ gas, registry.highestRiskTier gas (bitAt 255) = none) ∧
      (∀ gas, validateCapabilities gas (bitAt 255) state = .error (.custom .outOfGas)) ∧
      ¬ LoopsRight message admin transactions state (bitAt 255) := by
  intro admin message transactions registry state
  have high : 2 ^ 255 ≤ (bitAt 255).toNat := by decide +kernel
  have defined : registry.isDefined (bitAt 255) = true := by decide +kernel
  refine ⟨highestRiskTier_endless registry high, ?_, ?_⟩
  · apply validateCapabilities_endless high
    rintro position ⟨set, undefined⟩
    rw [((bitAt_getLsbD 255 position).mp set).1] at undefined
    exact absurd (undefined.symm.trans defined) Bool.false_ne_true
  · intro right
    exact absurd ((tierRight_iff _ _).mp right.1) (Nat.not_lt.mpr high)

end BigX.Registry
