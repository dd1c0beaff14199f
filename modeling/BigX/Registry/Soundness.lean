import BigX.Registry.Steps

set_option autoImplicit false

/- Which capabilities an agent can have: every bit of its mask is one that the capability
registry defines, by whichever of the two ways the bit came in. -/
namespace BigX.Registry

open Evm

/-- A call of the capability registry on its own. -/
inductive CapabilityCall
  | defineCapability (bitPosition : Uint256) (name description : String) (riskTier : Uint8)
  | grantRole (role : CapabilityRole) (account : Address)
  | revokeRole (role : CapabilityRole) (account : Address)
  | renounceRole (role : CapabilityRole) (callerConfirmation : Address)
  deriving DecidableEq

structure CapabilityTransaction where
  message : Message
  call : CapabilityCall
  deriving DecidableEq

def CapabilityRegistry.transact (transaction : CapabilityTransaction)
    (registry : CapabilityRegistry) : CapabilityResult :=
  let message := transaction.message
  match transaction.call with
  | .defineCapability bitPosition name description riskTier =>
      registry.defineCapability message bitPosition name description riskTier
  | .grantRole role account => withCapabilityRoles registry
      (registry.roles.grantRole .defaultAdmin message role account)
  | .revokeRole role account => withCapabilityRoles registry
      (registry.roles.revokeRole .defaultAdmin message role account)
  | .renounceRole role callerConfirmation => withCapabilityRoles registry
      (registry.roles.renounceRole message role callerConfirmation)

/-- A capability registry after any calls from its deployment on. -/
def CapabilityRegistry.reached (message : Message) (admin : Address)
    (transactions : List CapabilityTransaction) : CapabilityRegistry :=
  (Run.run CapabilityRegistry.transact (CapabilityRegistry.deploy message admin).1
    transactions).now

/-- The capability bit at a position, none from position 256 on. -/
abbrev bitAt (position : Nat) : Uint256 := 1#256 <<< position

theorem bitAt_getLsbD (position place : Nat) :
    (bitAt position).getLsbD place = true ↔ place = position ∧ position < 256 := by
  simp only [bitAt, BitVec.getLsbD_shiftLeft, BitVec.getLsbD_one, Bool.and_eq_true,
    decide_eq_true_eq, Bool.not_eq_true', decide_eq_false_iff_not]
  omega

/-- A mask is no smaller than any of its bits. -/
theorem bitAt_le_of_getLsbD {mask : Uint256} {position : Nat}
    (set : mask.getLsbD position = true) : bitAt position ≤ mask := by
  have within : position < 256 := BitVec.lt_of_getLsbD set
  have bound : 2 ^ position ≤ mask.toNat := Nat.ge_two_pow_of_testBit set
  have value : (bitAt position).toNat = 2 ^ position := by
    rw [bitAt, ← BitVec.twoPow_eq, BitVec.toNat_twoPow_of_lt within]
  rw [BitVec.le_def, value]
  exact bound

theorem and_bitAt_ne_zero {mask : Uint256} {position : Nat}
    (set : mask.getLsbD position = true) : mask &&& bitAt position ≠ 0#256 := by
  intro empty
  have within : position < 256 := BitVec.lt_of_getLsbD set
  have bit := congrArg (fun word : Uint256 => word.getLsbD position) empty
  have own : (bitAt position).getLsbD position = true := (bitAt_getLsbD _ _).mpr ⟨rfl, within⟩
  simp [BitVec.getLsbD_and, set, own] at bit

/-- A loop over the bits of a mask that ends has visited every set bit from its start on. -/
theorem overBits_visited {mask : Uint256} {ε : Type} {visit : Uint256 → Unit → Except ε Unit}
    {gas start : Nat} (ended : overBits mask visit gas (bitAt start) () = some (.ok ()))
    {position : Nat} (later : start ≤ position) (set : mask.getLsbD position = true) :
    visit (bitAt position) () = .ok () := by
  induction gas generalizing start with
  | zero => cases ended
  | succ gas ih =>
    unfold overBits at ended
    split at ended
    · split at ended
      · rename_i visited
        by_cases same : start = position
        · rw [← same]
          exact visited
        · have next : bitAt start <<< 1 = bitAt (start + 1) := (BitVec.shiftLeft_add 1#256 start 1).symm
          rw [next] at ended
          exact ih ended (by omega)
      · cases ended
    · rename_i beyond
      have within : position < 256 := BitVec.lt_of_getLsbD set
      have reached := bitAt_le_of_getLsbD set
      have smaller : bitAt start ≤ bitAt position := by
        rw [BitVec.le_def, bitAt, bitAt, ← BitVec.twoPow_eq, ← BitVec.twoPow_eq,
          BitVec.toNat_twoPow_of_lt within, BitVec.toNat_twoPow_of_lt (by omega)]
        exact Nat.pow_le_pow_right Nat.two_pos later
      exact absurd (BitVec.le_trans smaller reached) beyond

/-- Every bit of a mask that passes the check is defined. -/
theorem validateCapabilities_ok {gas : Nat} {capabilities : Uint256} {state : State}
    (valid : validateCapabilities gas capabilities state = .ok ()) {position : Nat}
    (set : capabilities.getLsbD position = true) :
    state.capabilityRegistry.isDefined (bitAt position) = true := by
  dsimp only [validateCapabilities] at valid
  split at valid
  · rename_i outcome ended
    subst valid
    have visited := overBits_visited (show overBits capabilities _ gas (bitAt 0) () = _ from ended)
      (Nat.zero_le position) set
    rw [require_eq_ok] at visited
    exact visited.resolve_left (and_bitAt_ne_zero set)
  · cases valid

/-- Definitions are keyed by the bit at some position. -/
def BitKeyed (registry : CapabilityRegistry) : Prop :=
  ∀ key, registry.isDefined key = true → ∃ position, key = bitAt position

theorem define_isDefined (registry : CapabilityRegistry) (bitPosition : Uint256)
    (name description : String) (riskTier : Uint8) (key : Uint256) :
    (registry.define bitPosition name description riskTier).1.isDefined key = true ↔
      key = bitAt bitPosition.toNat ∨ registry.isDefined key = true := by
  simp only [CapabilityRegistry.define, CapabilityRegistry.isDefined]
  by_cases same : key = 1#256 <<< bitPosition
  · rw [same, Function.update_self]
    exact iff_of_true rfl (Or.inl (BitVec.shiftLeft_eq' ..))
  · rw [Function.update_of_ne same]
    exact (or_iff_right same).symm

theorem BitKeyed.define {registry : CapabilityRegistry} (held : BitKeyed registry)
    (bitPosition : Uint256) (name description : String) (riskTier : Uint8) :
    BitKeyed (registry.define bitPosition name description riskTier).1 := by
  intro key listed
  rcases (define_isDefined _ _ _ _ _ key).mp listed with own | earlier
  · exact ⟨bitPosition.toNat, own⟩
  · exact held key earlier

theorem BitKeyed.defineAll {registry : CapabilityRegistry} (held : BitKeyed registry)
    (definitions : List (Uint256 × String × String × Uint8)) :
    BitKeyed (registry.defineAll definitions).1 := by
  induction definitions generalizing registry with
  | nil => exact held
  | cons first rest ih => exact ih (held.define first.1 first.2.1 first.2.2.1 first.2.2.2)

/-- Role changes leave the definitions alone. -/
theorem withCapabilityRoles_ok {registry after : CapabilityRegistry}
    {events : List CapabilityEvent}
    {attempt : Except CapabilityFailure
      (AccessControl CapabilityRole × List (RoleEvent CapabilityRole))}
    (accepted : withCapabilityRoles registry attempt = .ok (after, events)) :
    after.capabilities = registry.capabilities := by
  simp only [withCapabilityRoles, bind_eq_ok, pure_eq_ok] at accepted
  obtain ⟨changed, -, same⟩ := accepted
  cases same
  rfl

theorem BitKeyed.of_same {before after : CapabilityRegistry} (held : BitKeyed before)
    (same : after.capabilities = before.capabilities) : BitKeyed after := by
  intro key listed
  apply held key
  simpa only [CapabilityRegistry.isDefined, same] using listed

theorem bitKeyed_reached (message : Message) (admin : Address)
    (transactions : List CapabilityTransaction) :
    BitKeyed (CapabilityRegistry.reached message admin transactions) := by
  apply Run.run_induction CapabilityRegistry.transact (CapabilityRegistry.deploy message admin).1
    (fun _ now => BitKeyed now)
  · apply BitKeyed.defineAll
    intro key listed
    cases listed
  · intro _ now transaction after events held accepted
    obtain ⟨sent, call⟩ := transaction
    cases call with
    | defineCapability bitPosition name description riskTier =>
      simp only [CapabilityRegistry.transact, CapabilityRegistry.defineCapability, bind_eq_ok,
        pure_eq_ok] at accepted
      obtain ⟨_, -, same⟩ := accepted
      have next := held.define bitPosition name description riskTier
      rw [same] at next
      exact next
    | grantRole role account => exact held.of_same (withCapabilityRoles_ok accepted)
    | revokeRole role account => exact held.of_same (withCapabilityRoles_ok accepted)
    | renounceRole role callerConfirmation => exact held.of_same (withCapabilityRoles_ok accepted)

/-- Every bit of an agent's mask is defined, and only bits are. -/
structure Sound (state : State) : Prop where
  keyed : BitKeyed state.capabilityRegistry
  defined : ∀ nftId position, (state.records nftId).capabilities.getLsbD position = true →
    state.capabilityRegistry.isDefined (bitAt position) = true

/-- A written record keeps soundness when each of its bits is defined. -/
theorem Sound.setRecord {state : State} (held : Sound state) (written : Uint256)
    (record : AgentRecord) (listed : ∀ position, record.capabilities.getLsbD position = true →
      state.capabilityRegistry.isDefined (bitAt position) = true) :
    Sound (state.setRecord written record) := by
  refine ⟨held.keyed, ?_⟩
  intro nftId position set
  by_cases same : nftId = written
  · apply listed position
    simpa only [State.setRecord, same, Function.update_self] using set
  · apply held.defined nftId position
    simpa only [State.setRecord, Function.update_of_ne same] using set

theorem Sound.step {before after : State} {stretch : Stretch Transaction Rest}
    (held : Sound before) (step : Step before after stretch) : Sound after := by
  cases step with
  | registered message gas written owner name persona capabilities modelVersion metadataURI
      endpoint identity record fresh valid mask created unprovisioned after_eq =>
    subst after_eq
    refine ⟨held.keyed, ?_⟩
    intro nftId position set
    by_cases same : nftId = written
    · apply validateCapabilities_ok valid
      simpa only [State.enroll, same, Function.update_self, mask] using set
    · apply held.defined nftId position
      simpa only [State.enroll, Function.update_of_ne same] using set
  | provisioning message nftId account known created same =>
    rw [same]
    exact held
  | provisioned nftId account after_eq =>
    rw [after_eq]
    exact held.setRecord nftId _ (held.defined nftId)
  | moved message call nftId target other known edge provided after_eq =>
    rw [after_eq]
    exact held.setRecord nftId _ (held.defined nftId)
  | granted message nftId capability known listed authorized after_eq =>
    rw [after_eq]
    apply held.setRecord nftId
    intro position set
    rw [BitVec.getLsbD_or, Bool.or_eq_true] at set
    rcases set with had | new
    · exact held.defined nftId position had
    · obtain ⟨place, rfl⟩ := held.keyed capability listed
      rw [((bitAt_getLsbD place position).mp new).1]
      exact listed
  | revoked message nftId capability known after_eq =>
    rw [after_eq]
    apply held.setRecord nftId
    intro position set
    rw [BitVec.getLsbD_and, Bool.and_eq_true] at set
    exact held.defined nftId position set.1
  | attested message nftId verifierType verifierContract attestationHash attestation known
      after_eq =>
    rw [after_eq]
    exact ⟨held.keyed, held.defined⟩
  | rewritten message call nftId owner endpoint other known after_eq =>
    rw [after_eq]
    exact held.setRecord nftId _ (held.defined nftId)
  | defined message bitPosition name description riskTier after_eq =>
    rw [after_eq]
    refine ⟨held.keyed.define bitPosition name description riskTier, ?_⟩
    intro nftId position set
    exact (define_isDefined _ _ _ _ _ _).mpr (Or.inr (held.defined nftId position set))
  | aside _ other same =>
    refine ⟨held.keyed.of_same same.capabilities, ?_⟩
    intro nftId position set
    rw [same.records] at set
    simpa only [CapabilityRegistry.isDefined, same.capabilities]
      using held.defined nftId position set

/-- A registry that was deployed for some reached capability registry has no agent yet. -/
theorem sound_deploy (deployment : Message) (admin : Address) {registry : CapabilityRegistry}
    (keyed : BitKeyed registry) : Sound (deploy deployment admin registry).1 := by
  refine ⟨keyed, ?_⟩
  intro nftId position set
  simp [deploy] at set

/-- In every state that the registry and its capability registry reach, calls back from the
ERC-6551 registry included, every bit of every agent's mask is defined. -/
theorem capabilities_defined (defining : Message) (definer : Address)
    (transactions : List CapabilityTransaction) (deployment : Message) (admin : Address)
    (moves : List (Move Transaction)) :
    Sound (Run.run machine.step ⟨(deploy deployment admin
      (CapabilityRegistry.reached defining definer transactions)).1, []⟩ moves).now.state := by
  apply journal_induction machine (deploy deployment admin
      (CapabilityRegistry.reached defining definer transactions)).1 (fun _ now => Sound now)
  · exact sound_deploy deployment admin (bitKeyed_reached defining definer transactions)
  · intro _ now stretch progress held accepted
    exact held.step (advance_step accepted)

end BigX.Registry
