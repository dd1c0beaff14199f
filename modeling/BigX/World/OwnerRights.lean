import BigX.Registry.OnRecord
import BigX.Revenue.OnRecord
import BigX.Run.Latest
import BigX.World.Contract

set_option autoImplicit false

/- What only an owner may do, and whom the registry and the tracker take for the owner. A
transfer or a sale of a token reaches neither of them. -/
namespace BigX.World

open Evm Run

/-- The contracts that keep an owner of their own. -/
inductive Keeper
  | registry
  | revenue
  deriving DecidableEq

def State.onRecord (keeper : Keeper) (nftId : Uint256) (state : State) : Address :=
  match keeper with
  | .registry => (state.registry.records nftId).owner
  | .revenue => state.revenue.agentOwnerCache nftId

/-- The owner by the token contract; the zero address when the token does not exist. -/
def State.ownerOf (nftId : Uint256) (state : State) : Address :=
  state.exchange.nft.nft.owners nftId

/-- The owner that a stretch puts on record for `nftId`. -/
def names (keeper : Keeper) (nftId : Uint256) (entry : Entry) : Option Address :=
  match keeper, entry.input with
  | .registry, .start ⟨_, .registry call, _⟩ => call.names nftId
  | .revenue, .start ⟨_, .revenue call, _⟩ => call.names nftId
  | _, _ => none

/-- A call of `actor` that only the owner of `nftId` may make. -/
def OwnerCall (nftId : Uint256) (actor : Address) (keeper : Keeper) (entry : Entry) : Prop :=
  ∃ message real, message.sender = actor ∧
    match keeper with
    | .registry =>
        (∃ endpoint,
          entry.input = .start ⟨message, .registry (.updateEndpoint nftId endpoint), real⟩) ∨
        (entry.input = .start ⟨message, .registry (.suspend nftId), real⟩ ∧
          entry.before.registry.roles.hasRole .registrar actor = false)
    | .revenue => entry.input = .start ⟨message, .revenue (.withdraw nftId), real⟩

/-- Such a call is made by the owner of the token at that moment. -/
def FollowsToken (entry : Entry) : Prop :=
  ∀ keeper nftId actor, OwnerCall nftId actor keeper entry → entry.before.ownerOf nftId = actor

/-- Such a call is made by whom the contract was last told, who is the owner of the token
when the owner was told and the token has not changed hands since. -/
def FollowsRecord (earlier : List Entry) (entry : Entry) : Prop :=
  ∀ keeper nftId actor, OwnerCall nftId actor keeper entry →
    ∃ record, latest (fun entry => (names keeper nftId entry).isSome) earlier = some record ∧
      names keeper nftId record = some actor ∧
      (record.after.ownerOf nftId = actor →
        (∀ passed ∈ since (fun entry => (names keeper nftId entry).isSome) earlier,
          passed.after.ownerOf nftId = passed.before.ownerOf nftId) →
        entry.before.ownerOf nftId = actor)

theorem liftExchange_onRecord {state : State} {attempt : Market.ExchangeResult}
    {progress : Progress State Rest (List Event)}
    (accepted : liftExchange state attempt = .ok progress) (keeper : Keeper) (nftId : Uint256) :
    progress.state.onRecord keeper nftId = state.onRecord keeper nftId := by
  obtain ⟨inner, -, rfl⟩ := lift_ok accepted
  rw [map_state]
  cases keeper <;> rfl

theorem liftRegistry_ok {state : State} {attempt : Registry.Result}
    {progress : Progress State Rest (List Event)}
    (accepted : liftRegistry state attempt = .ok progress) :
    ∃ inner, attempt = .ok inner ∧ progress.state = { state with registry := inner.state } := by
  obtain ⟨inner, returned, rfl⟩ := lift_ok accepted
  exact ⟨inner, returned, map_state _ _ _ inner⟩

theorem liftRevenue_ok {state : State} {attempt : Revenue.Result}
    {progress : Progress State Rest (List Event)}
    (accepted : liftRevenue state attempt = .ok progress) :
    ∃ inner, attempt = .ok inner ∧ progress.state = { state with revenue := inner.state } := by
  obtain ⟨inner, returned, rfl⟩ := lift_ok accepted
  exact ⟨inner, returned, map_state _ _ _ inner⟩

/-- The owner on record changes to whom a stretch names, and only then. -/
theorem advance_onRecord {market : Address} {stretch : Stretch Transaction Rest} {now : State}
    {progress : Progress State Rest (List Event)}
    (accepted : (machine market).advance stretch now = .ok progress) (keeper : Keeper)
    (nftId : Uint256) :
    progress.state.onRecord keeper nftId =
      (names keeper nftId ⟨now, stretch, progress.output, progress.state⟩).getD
        (now.onRecord keeper nftId) := by
  cases stretch with
  | start transaction =>
    obtain ⟨message, call, real⟩ := transaction
    cases call with
    | exchange call =>
      have kept := liftExchange_onRecord accepted keeper nftId
      cases keeper <;> exact kept
    | registry call =>
      obtain ⟨inner, entered, wrote⟩ := liftRegistry_ok accepted
      rw [wrote]
      cases keeper with
      | registry => exact Registry.enter_owner entered nftId
      | revenue => rfl
    | revenue call =>
      obtain ⟨inner, entered, wrote⟩ := liftRevenue_ok accepted
      rw [wrote]
      cases keeper with
      | registry => rfl
      | revenue => exact Revenue.enter_owner entered nftId
  | rest pending =>
    cases pending with
    | exchange rest =>
      have kept := liftExchange_onRecord accepted keeper nftId
      cases keeper <;> exact kept
    | registry rest =>
      have lifted : liftRegistry now (Registry.resume rest now.registry) = .ok progress := accepted
      obtain ⟨inner, resumed, wrote⟩ := liftRegistry_ok lifted
      rw [wrote]
      cases keeper with
      | registry => exact Registry.resume_owner resumed nftId
      | revenue => rfl
    | revenue rest =>
      obtain ⟨inner, resumed, wrote⟩ := liftRevenue_ok accepted
      rw [wrote]
      cases keeper with
      | registry => rfl
      | revenue => exact Revenue.resume_owner resumed nftId

/-- An owner's call that is accepted comes from the owner on record. -/
theorem ownerCall_ok {market : Address} {stretch : Stretch Transaction Rest} {now : State}
    {progress : Progress State Rest (List Event)}
    (accepted : (machine market).advance stretch now = .ok progress) {keeper : Keeper}
    {nftId : Uint256} {actor : Address}
    (called : OwnerCall nftId actor keeper ⟨now, stretch, progress.output, progress.state⟩) :
    now.onRecord keeper nftId = actor ∧ actor ≠ Address.zero := by
  obtain ⟨message, real, rfl, called⟩ := called
  refine ⟨?_, real⟩
  cases keeper with
  | registry =>
    rcases called with ⟨endpoint, same⟩ | ⟨same, stranger⟩
    · cases same
      obtain ⟨inner, updated, -⟩ := liftRegistry_ok accepted
      exact Registry.updateEndpoint_ok updated
    · cases same
      obtain ⟨inner, suspended, -⟩ := liftRegistry_ok accepted
      rcases Registry.suspend_ok suspended with registrar | owned
      · rw [stranger] at registrar
        cases registrar
      · exact owned
  | revenue =>
    cases called
    obtain ⟨inner, withdrawn, -⟩ := liftRevenue_ok accepted
    exact Revenue.withdraw_ok withdrawn

/-- What the two contracts hold on record, by the run so far. -/
def OnRecord (past : List Entry) (now : State) : Prop :=
  ∀ keeper nftId,
    LastWritten (names keeper nftId) (State.onRecord keeper nftId) Address.zero past now ∧
    KeptSince (fun entry => (names keeper nftId entry).isSome) (State.ownerOf nftId) past now

theorem OnRecord.follows {past : List Entry} {now : State} (held : OnRecord past now)
    {market : Address} {stretch : Stretch Transaction Rest}
    {progress : Progress State Rest (List Event)}
    (accepted : (machine market).advance stretch now = .ok progress) :
    FollowsRecord past ⟨now, stretch, progress.output, progress.state⟩ := by
  intro keeper nftId actor called
  obtain ⟨owned, real⟩ := ownerCall_ok accepted called
  obtain ⟨written, kept⟩ := held keeper nftId
  unfold LastWritten at written
  split at written
  · rename_i record recorded
    rw [owned] at written
    refine ⟨record, recorded, written, ?_⟩
    intro told unmoved
    rw [← told]
    exact kept record recorded unmoved
  · rw [owned] at written
    exact absurd written real

/-- In the runs of a deployed registry and a deployed tracker beside any token contract and
marketplace, an owner's call comes from whom its contract was last told. -/
theorem rights_follow_record (market : Address) (exchange : Market.Exchange)
    (registrar tracker : Message) (admin treasurer : Address)
    (capabilityRegistry : Registry.CapabilityRegistry) (balance : Nat)
    (moves : List (Move Transaction)) :
    Throughout FollowsRecord ((machine market).journal
      { exchange := exchange
        registry := (Registry.deploy registrar admin capabilityRegistry).1
        revenue := (Revenue.deploy tracker treasurer balance).1 } moves) := by
  suffices both : ∀ start, start = State.mk exchange
      (Registry.deploy registrar admin capabilityRegistry).1
      (Revenue.deploy tracker treasurer balance).1 →
      Throughout FollowsRecord ((machine market).journal start moves) ∧
        OnRecord ((machine market).journal start moves)
          (run (machine market).step ⟨start, []⟩ moves).now.state from (both _ rfl).1
  rintro start rfl
  apply journal_induction (machine market) _
    (fun past now => Throughout FollowsRecord past ∧ OnRecord past now)
  · refine ⟨throughout_nil _, ?_⟩
    intro keeper nftId
    refine ⟨?_, ?_⟩
    · cases keeper <;> rfl
    · intro record recorded
      cases recorded
  · rintro past now stretch progress ⟨followed, held⟩ accepted
    rw [throughout_snoc]
    refine ⟨⟨followed, held.follows accepted⟩, ?_⟩
    intro keeper nftId
    obtain ⟨written, kept⟩ := held keeper nftId
    exact ⟨LastWritten.snoc ⟨now, stretch, progress.output, progress.state⟩ written
      (advance_onRecord accepted keeper nftId), KeptSince.snoc _ kept⟩

/-- A call from outside, without value. -/
def sent (sender : Address) (call : Call) (real : sender ≠ Address.zero) : Move Transaction :=
  .call ⟨⟨sender, 0#256⟩, call, real⟩

/-- Account 5 is registered as the owner of token 0 and sells it to account 9, then sets the
agent's endpoint. -/
def soldMoves : List (Move Transaction) :=
  [sent 1#160 (.exchange (.nft (.mintAgent ⟨5#160, "ipfs://agent", 7#256⟩))) (by decide),
   .returned,
   sent 1#160 (.registry (.registerAgent 1 0#256 5#160 "agent" "trader" 0#256 "v1"
     "ipfs://agent" "https://agent")) (by decide),
   sent 5#160 (.exchange (.nft (.setApprovalForAll 20#160 true))) (by decide),
   sent 5#160 (.exchange (.market (.list 0#256 100#256))) (by decide),
   sent 9#160 (.exchange (.market (.buy 100#256 0#256))) (by decide),
   .returned, .returned, .returned, .returned,
   sent 5#160 (.registry (.updateEndpoint 0#256 "https://seller")) (by decide)]

/-- The seller's call goes through, and the token is the buyer's. -/
theorem rights_follow_record_sold :
    ∃ (nft : Nft.State) (events : List Nft.Event),
      Nft.deploy ⟨1#160, 0#256⟩ 1#160 2#160 500#96 = .ok (nft, events) ∧
      ¬ ∀ entry ∈ (machine 20#160).journal
          { exchange := ⟨nft, (Market.deploy ⟨1#160, 0#256⟩ 1#160 3#160 0).1⟩
            registry := (Registry.deploy ⟨1#160, 0#256⟩ 1#160
              (Registry.CapabilityRegistry.deploy ⟨1#160, 0#256⟩ 1#160).1).1
            revenue := (Revenue.deploy ⟨1#160, 0#256⟩ 1#160 0).1 } soldMoves,
          FollowsToken entry := by
  refine ⟨_, _, rfl, fun follows => ?_⟩
  have seller := follows _ (@List.getElem_mem _ _ 10 (by decide))
  have owner := seller .registry 0#256 5#160 ⟨_, _, rfl, Or.inl ⟨_, rfl⟩⟩
  exact absurd owner (by decide)

end BigX.World
