import BigX.Registry.Soundness

set_option autoImplicit false

/- Capabilities of the higher risk tiers, and who hands them out. -/
namespace BigX.Registry

open Evm

/-- The stretches of a run of the registry that were not undone. -/
abbrev Entry : Type := Run.Entry State (Stretch Transaction Rest) (List Event)

/-- A bit of the elevated tiers that an agent gains comes from a caller with the admin role. -/
def Elevated (entry : Entry) : Prop :=
  ∀ nftId position, (entry.before.records nftId).capabilities.getLsbD position = false →
    (entry.after.records nftId).capabilities.getLsbD position = true →
    2#8 ≤ entry.before.capabilityRegistry.riskTierOf (bitAt position) →
    ∃ transaction, entry.input = .start transaction ∧
      entry.before.roles.hasRole .defaultAdmin transaction.message.sender = true

/-- A registration is made by an admin, or with bits of the lower tiers only. -/
def AdminOrLowRisk (state : State) : Stretch Transaction Rest → Prop
  | .start ⟨message, .registerAgent _ _ _ _ _ capabilities _ _ _⟩ =>
      state.roles.hasRole .defaultAdmin message.sender = true ∨
        ∀ position < 256, capabilities.getLsbD position = true →
          state.capabilityRegistry.riskTierOf (bitAt position) < 2#8
  | _ => True

/-- An agent that is not registered has no capability. -/
def FreshEmpty (state : State) : Prop :=
  ∀ nftId, state.isRegistered nftId = false → (state.records nftId).capabilities = 0#256

theorem FreshEmpty.setRecord {state : State} (held : FreshEmpty state) (written : Uint256)
    (record : AgentRecord)
    (kept : state.isRegistered written = true ∨
      record.capabilities = (state.records written).capabilities) :
    FreshEmpty (state.setRecord written record) := by
  intro nftId fresh
  by_cases same : nftId = written
  · subst same
    rcases kept with known | kept
    · exact absurd fresh (by simp [State.setRecord, known])
    · simp only [State.setRecord, Function.update_self, kept]
      exact held nftId fresh
  · simp only [State.setRecord, Function.update_of_ne same]
    exact held nftId fresh

theorem FreshEmpty.step {before after : State} {stretch : Stretch Transaction Rest}
    (held : FreshEmpty before) (step : Step before after stretch) : FreshEmpty after := by
  cases step with
  | registered message gas written owner name persona capabilities modelVersion metadataURI
      endpoint identity record fresh valid mask created unprovisioned after_eq =>
    subst after_eq
    intro nftId unset
    by_cases same : nftId = written
    · simp [State.enroll, same] at unset
    · simp only [State.enroll, Function.update_of_ne same] at unset ⊢
      exact held nftId unset
  | provisioning message nftId account known created same =>
    rw [same]
    exact held
  | provisioned nftId account after_eq =>
    rw [after_eq]
    exact held.setRecord nftId _ (Or.inr rfl)
  | moved message call nftId target other known edge provided after_eq =>
    rw [after_eq]
    exact held.setRecord nftId _ (Or.inl known)
  | granted message nftId capability known listed authorized after_eq =>
    rw [after_eq]
    exact held.setRecord nftId _ (Or.inl known)
  | revoked message nftId capability known after_eq =>
    rw [after_eq]
    exact held.setRecord nftId _ (Or.inl known)
  | attested message nftId verifierType verifierContract attestationHash attestation known
      after_eq =>
    rw [after_eq]
    exact held
  | rewritten message call nftId owner endpoint other known after_eq =>
    rw [after_eq]
    exact held.setRecord nftId _ (Or.inl known)
  | defined message bitPosition name description riskTier after_eq =>
    rw [after_eq]
    exact held
  | aside _ other same =>
    intro nftId unset
    rw [same.isRegistered] at unset
    rw [same.records]
    exact held nftId unset

/-- The bits an agent has after a record was written, it had before or has from the record. -/
theorem gained_of_setRecord {state : State} {written nftId : Uint256} {record : AgentRecord}
    {position : Nat}
    (lacked : (state.records nftId).capabilities.getLsbD position = false)
    (has : ((state.setRecord written record).records nftId).capabilities.getLsbD position = true) :
    nftId = written ∧ record.capabilities.getLsbD position = true := by
  by_cases same : nftId = written
  · subst same
    simp only [State.setRecord, Function.update_self] at has
    exact ⟨rfl, has⟩
  · simp only [State.setRecord, Function.update_of_ne same] at has
    rw [lacked] at has
    cases has

/-- A stretch whose written record has no new bit gives no agent a bit. -/
theorem elevated_setRecord {before : State} {stretch : Stretch Transaction Rest}
    {output : List Event} {written : Uint256} {record : AgentRecord}
    (kept : ∀ position, record.capabilities.getLsbD position = true →
      (before.records written).capabilities.getLsbD position = true) :
    Elevated ⟨before, stretch, output, before.setRecord written record⟩ := by
  intro nftId position lacked has
  obtain ⟨rfl, own⟩ := gained_of_setRecord lacked has
  rw [kept position own] at lacked
  cases lacked

theorem elevated_same {before after : State} {stretch : Stretch Transaction Rest}
    {output : List Event} (same : after.records = before.records) :
    Elevated ⟨before, stretch, output, after⟩ := by
  intro nftId position lacked has
  rw [same, lacked] at has
  cases has

/-- A grant asks for the role that the tier of the bit wants. -/
theorem elevated_granted {before : State} {message : Message} {nftId capability : Uint256}
    {output : List Event} (keyed : BitKeyed before.capabilityRegistry)
    (listed : before.capabilityRegistry.isDefined capability = true)
    (authorized : before.roles.hasRole
      (if 2#8 ≤ before.capabilityRegistry.riskTierOf capability then .defaultAdmin
        else .registrar) message.sender = true) :
    Elevated ⟨before, .start ⟨message, .grantCapability nftId capability⟩, output,
      before.setRecord nftId { before.records nftId with
        capabilities := (before.records nftId).capabilities ||| capability }⟩ := by
  intro other position lacked has elevated
  obtain ⟨rfl, own⟩ := gained_of_setRecord lacked has
  rw [BitVec.getLsbD_or, lacked, Bool.false_or] at own
  obtain ⟨place, rfl⟩ := keyed capability listed
  rw [((bitAt_getLsbD place position).mp own).1] at elevated
  rw [if_pos elevated] at authorized
  exact ⟨_, rfl, authorized⟩

/-- A registration gives the fresh agent every bit of its mask. -/
theorem elevated_registered_iff {before : State} {message : Message} {gas : Nat}
    {nftId : Uint256} {owner : Address} {name persona : String} {capabilities : Uint256}
    {modelVersion metadataURI endpoint : String} {identity : AgentIdentity}
    {record : AgentRecord} {output : List Event}
    (empty : (before.records nftId).capabilities = 0#256)
    (mask : record.capabilities = capabilities) :
    Elevated ⟨before, .start ⟨message, .registerAgent gas nftId owner name persona capabilities
        modelVersion metadataURI endpoint⟩, output, before.enroll nftId identity record⟩ ↔
      AdminOrLowRisk before (.start ⟨message, .registerAgent gas nftId owner name persona
        capabilities modelVersion metadataURI endpoint⟩) := by
  constructor
  · intro elevated
    by_cases admin : before.roles.hasRole .defaultAdmin message.sender = true
    · exact Or.inl admin
    · refine Or.inr ?_
      intro position _ set
      by_contra high
      have lacked : (before.records nftId).capabilities.getLsbD position = false := by
        rw [empty]
        exact BitVec.getLsbD_zero
      have has : ((before.enroll nftId identity record).records nftId).capabilities.getLsbD
          position = true := by
        simpa only [State.enroll, Function.update_self, mask] using set
      obtain ⟨transaction, same, held⟩ :=
        elevated nftId position lacked has (BitVec.not_lt.mp high)
      cases same
      exact admin held
  · intro condition other position lacked has high
    rcases condition with admin | low
    · exact ⟨_, rfl, admin⟩
    · by_cases same : other = nftId
      · subst same
        simp only [State.enroll, Function.update_self, mask] at has
        exact absurd (low position (BitVec.lt_of_getLsbD has) has) (BitVec.not_lt.mpr high)
      · simp only [State.enroll, Function.update_of_ne same] at has
        rw [lacked] at has
        cases has

theorem Step.elevates_iff {before after : State} {stretch : Stretch Transaction Rest}
    {output : List Event} (sound : Sound before) (empty : FreshEmpty before)
    (step : Step before after stretch) :
    Elevated ⟨before, stretch, output, after⟩ ↔ AdminOrLowRisk before stretch := by
  -- only registrations are asked for anything
  have asked : registers stretch = none → AdminOrLowRisk before stretch := by
    intro other
    unfold AdminOrLowRisk
    split
    · cases other
    · trivial
  cases step with
  | registered message gas nftId owner name persona capabilities modelVersion metadataURI
      endpoint identity record fresh valid mask created unprovisioned after_eq =>
    subst after_eq
    exact elevated_registered_iff (empty nftId fresh) mask
  | provisioning message nftId account known created same =>
    exact iff_of_true (elevated_same (by rw [same])) (asked rfl)
  | provisioned nftId account after_eq =>
    subst after_eq
    exact iff_of_true (elevated_setRecord fun _ set => set) (asked rfl)
  | moved message call nftId target other known edge provided after_eq =>
    subst after_eq
    exact iff_of_true (elevated_setRecord fun _ set => set) (asked other)
  | granted message nftId capability known listed authorized after_eq =>
    subst after_eq
    exact iff_of_true (elevated_granted sound.keyed listed authorized) (asked rfl)
  | revoked message nftId capability known after_eq =>
    subst after_eq
    refine iff_of_true (elevated_setRecord ?_) (asked rfl)
    intro position set
    rw [BitVec.getLsbD_and, Bool.and_eq_true] at set
    exact set.1
  | attested message nftId verifierType verifierContract attestationHash attestation known
      after_eq =>
    exact iff_of_true (elevated_same (by rw [after_eq])) (asked rfl)
  | rewritten message call nftId owner endpoint other known after_eq =>
    subst after_eq
    exact iff_of_true (elevated_setRecord fun _ set => set) (asked other)
  | defined message bitPosition name description riskTier after_eq =>
    exact iff_of_true (elevated_same (by rw [after_eq])) (asked rfl)
  | aside _ other same => exact iff_of_true (elevated_same same.records) (asked other)

/-- The stretches that count of a run from deployment on. -/
abbrev journal (defining : Message) (definer : Address)
    (transactions : List CapabilityTransaction) (deployment : Message) (admin : Address)
    (moves : List (Move Transaction)) : List Entry :=
  machine.journal (deploy deployment admin
    (CapabilityRegistry.reached defining definer transactions)).1 moves

/-- In every run the bits of the elevated tiers come from admins exactly if every accepted
registration is by an admin or has bits of the lower tiers only. -/
theorem elevated_iff (defining : Message) (definer : Address)
    (transactions : List CapabilityTransaction) (deployment : Message) (admin : Address)
    (moves : List (Move Transaction)) :
    (∀ entry ∈ journal defining definer transactions deployment admin moves, Elevated entry) ↔
      ∀ entry ∈ journal defining definer transactions deployment admin moves,
        AdminOrLowRisk entry.before entry.input := by
  have keyed := bitKeyed_reached defining definer transactions
  have each := journal_induction machine (deploy deployment admin
      (CapabilityRegistry.reached defining definer transactions)).1
    (fun past now => (Sound now ∧ FreshEmpty now) ∧
      ∀ entry ∈ past, (Elevated entry ↔ AdminOrLowRisk entry.before entry.input))
    ⟨⟨sound_deploy deployment admin keyed, fun _ _ => rfl⟩, ?_⟩ ?_ moves
  · exact forall₂_congr each.2
  · intro entry member
    cases member
  · rintro past now stretch progress ⟨⟨sound, empty⟩, held⟩ accepted
    have step := advance_step accepted
    refine ⟨⟨sound.step step, empty.step step⟩, ?_⟩
    intro entry member
    rcases List.mem_append.mp member with earlier | final
    · exact held entry earlier
    · rw [List.mem_singleton.mp final]
      exact step.elevates_iff sound empty

/-- A registrar who is no admin registers an agent that may bridge assets. -/
def bridgingMoves : List (Move Transaction) :=
  [.call ⟨⟨1#160, 0#256⟩, .grantRole .registrar 2#160⟩,
   .call ⟨⟨2#160, 0#256⟩,
     .registerAgent 4 7#256 5#160 "agent" "" 2#256 "v1" "ipfs://agent" "https://agent"⟩]

theorem elevated_iff_bridging :
    ¬ ∀ entry ∈ journal ⟨1#160, 0#256⟩ 1#160 [] ⟨1#160, 0#256⟩ 1#160 bridgingMoves,
      Elevated entry := by
  intro elevated
  obtain ⟨transaction, same, held⟩ := elevated _
    (@List.getElem_mem _ (journal ⟨1#160, 0#256⟩ 1#160 [] ⟨1#160, 0#256⟩ 1#160 bridgingMoves) 1
      (by decide)) 7#256 1 (by decide) (by decide) (by decide)
  cases same
  revert held
  decide

end BigX.Registry
