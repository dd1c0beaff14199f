import BigX.Links.Acyclic
import BigX.Market.Steps
import BigX.Nft.Steps
import BigX.Registry.Steps
import BigX.World.OwnerRights

set_option autoImplicit false

/- Which agents own which. Whoever owns a token controls the account of its agent, and nothing
keeps a token away from an account that it controls. -/
namespace BigX.World

open Evm Run Relation

/-- The token-bound account that the registry has for an agent, zero before there is one. -/
def State.accountOf (nftId : Uint256) (state : State) : Address :=
  (state.registry.records nftId).tokenBoundAccount

/-- The token is owned by the account of the agent `holder`. -/
def State.OwnedBy (state : State) (nftId holder : Uint256) : Prop :=
  state.accountOf holder ≠ Address.zero ∧ state.ownerOf nftId = state.accountOf holder

/-- The token that a stretch gives to somebody, and to whom. -/
def gives (stretch : Stretch Transaction Rest) (state : State) : Option (Uint256 × Address) :=
  match stretch with
  | .start ⟨message, .exchange (.nft call), real⟩ =>
      Nft.gives (.start ⟨message, call, real⟩) state.exchange.nft
  | .start ⟨message, .exchange (.market (.buy _ nftId)), _⟩ => some (nftId, message.sender)
  | .rest (.exchange (.nft rest)) => Nft.gives (.rest rest) state.exchange.nft
  | _ => none

/-- The agent for which a stretch records an account, and which. A registration records
none. -/
def binds (stretch : Stretch Transaction Rest) : Option (Uint256 × Address) :=
  match stretch with
  | .start ⟨_, .registry (.registerAgent _ nftId _ _ _ _ _ _ _), _⟩ => some (nftId, Address.zero)
  | .rest (.registry (.provisioning nftId account)) => some (nftId, account)
  | _ => none

/-- No token is given to an account that it controls itself, directly or through other
agents, and no account is recorded for an agent that controls a token the account owns. -/
def opens (state : State) (stretch : Stretch Transaction Rest) : Prop :=
  (∀ tokenId target, gives stretch state = some (tokenId, target) →
    ∀ holder, state.accountOf holder ≠ Address.zero → target = state.accountOf holder →
      ¬ ReflTransGen state.OwnedBy holder tokenId) ∧
  ∀ nftId account, binds stretch = some (nftId, account) → account ≠ Address.zero →
    ∀ tokenId, state.ownerOf tokenId = account → ¬ ReflTransGen state.OwnedBy nftId tokenId

theorem liftMarket_owners {exchange : Market.Exchange} {attempt : Market.Result}
    {progress : Progress Market.Exchange Market.ExchangeRest (List Market.ExchangeEvent)}
    (accepted : Market.liftMarket exchange attempt = .ok progress) :
    progress.state.nft = exchange.nft := by
  obtain ⟨inner, -, rfl⟩ := Market.liftMarket_ok accepted
  rw [map_state]

theorem liftNft_owners {exchange : Market.Exchange} {attempt : Nft.Result}
    {progress : Progress Market.Exchange Market.ExchangeRest (List Market.ExchangeEvent)}
    (accepted : Market.liftNft exchange attempt = .ok progress)
    {change : Option (Uint256 × Address)} (wrote : ∀ inner, attempt = .ok inner →
      inner.state.nft.owners = withChange change exchange.nft.nft.owners) :
    progress.state.nft.nft.owners = withChange change exchange.nft.nft.owners := by
  obtain ⟨inner, returned, rfl⟩ := Market.liftNft_ok accepted
  rw [map_state]
  exact wrote inner returned

theorem liftExchange_ok {state : State} {attempt : Market.ExchangeResult}
    {progress : Progress State Rest (List Event)}
    (accepted : liftExchange state attempt = .ok progress) :
    ∃ inner, attempt = .ok inner ∧ progress.state = { state with exchange := inner.state } := by
  obtain ⟨inner, returned, rfl⟩ := lift_ok accepted
  exact ⟨inner, returned, map_state _ _ _ inner⟩

/-- A stretch changes the owner of the token it gives, and no other. -/
theorem advance_owners {market : Address} {stretch : Stretch Transaction Rest} {now : State}
    {progress : Progress State Rest (List Event)}
    (accepted : (machine market).advance stretch now = .ok progress) :
    progress.state.exchange.nft.nft.owners =
      withChange (gives stretch now) now.exchange.nft.nft.owners := by
  cases stretch with
  | start transaction =>
    obtain ⟨message, call, real⟩ := transaction
    cases call with
    | exchange call =>
      obtain ⟨inner, entered, wrote⟩ := liftExchange_ok accepted
      rw [wrote]
      cases call with
      | nft call => exact liftNft_owners entered fun _ returned => (Nft.enter_wrote returned).owners
      | elsewhere =>
        cases entered
        rfl
      | market call =>
        cases call with
        | buy value nftId =>
          obtain ⟨sale, bought⟩ := Market.buy_ok
            (show Market.buy market message value nftId now.exchange = .ok inner from entered)
          exact bought.owners
        | forced amount =>
          cases entered
          rfl
        | list | cancelListing | setProtocolFee | grantRole | revokeRole | renounceRole =>
          exact congrArg (fun nft => nft.nft.owners) (liftMarket_owners entered)
    | registry call =>
      obtain ⟨inner, -, wrote⟩ := liftRegistry_ok accepted
      rw [wrote]
      rfl
    | revenue call =>
      obtain ⟨inner, -, wrote⟩ := liftRevenue_ok accepted
      rw [wrote]
      rfl
  | rest pending =>
    cases pending with
    | exchange rest =>
      obtain ⟨inner, resumed, wrote⟩ := liftExchange_ok accepted
      rw [wrote]
      cases rest with
      | nft rest => exact liftNft_owners resumed fun _ returned => (Nft.resume_wrote returned).owners
      | market rest => exact congrArg (fun nft => nft.nft.owners) (liftMarket_owners resumed)
      | elsewhere =>
        cases resumed
        rfl
    | registry rest =>
      obtain ⟨inner, -, wrote⟩ := liftRegistry_ok
        (show liftRegistry now (Registry.resume rest now.registry) = .ok progress from accepted)
      rw [wrote]
      rfl
    | revenue rest =>
      obtain ⟨inner, -, wrote⟩ := liftRevenue_ok accepted
      rw [wrote]
      rfl

/-- What the registry's part of a stretch does to the accounts. -/
theorem registry_accounts {message : Message} {call : Registry.Call} {now : Registry.State}
    {progress : Progress Registry.State Registry.Rest (List Registry.Event)}
    {real : message.sender ≠ Address.zero}
    (entered : Registry.enter message call now = .ok progress) (nftId : Uint256) :
    (progress.state.records nftId).tokenBoundAccount =
      withChange (binds (.start ⟨message, .registry call, real⟩))
        (fun nftId => (now.records nftId).tokenBoundAccount) nftId := by
  have written : ∀ (changed : Uint256) (record : Registry.AgentRecord),
      record.tokenBoundAccount = (now.records changed).tokenBoundAccount →
      ((now.setRecord changed record).records nftId).tokenBoundAccount =
        (now.records nftId).tokenBoundAccount := by
    intro changed record same
    by_cases own : nftId = changed
    · rw [own, Registry.State.setRecord]
      dsimp only
      rw [Function.update_self, same]
    · rw [Registry.State.setRecord]
      dsimp only
      rw [Function.update_of_ne own]
  have unbound : Registry.registers (.start ⟨message, call⟩) = none →
      binds (.start ⟨message, .registry call, real⟩) = none := by
    intro other
    cases call <;> first | rfl | cases other
  have step := Registry.enter_step entered
  generalize progress.state = after at step ⊢
  cases step with
  | registered _ gas changed owner name persona capabilities modelVersion metadataURI endpoint
      identity record fresh valid mask created unprovisioned after_eq =>
    rw [after_eq, Registry.State.enroll]
    by_cases own : nftId = changed
    · simp only [own, binds, withChange_some, Function.update_self, unprovisioned]
    · simp only [binds, withChange_some, Function.update_of_ne own]
  | provisioning _ changed account known created same => rw [same]; rfl
  | moved _ _ changed target other known edge provided after_eq =>
    rw [after_eq, unbound other]
    exact written changed _ rfl
  | granted _ changed capability known listed authorized after_eq =>
    rw [after_eq]
    exact written changed _ rfl
  | revoked _ changed capability known after_eq =>
    rw [after_eq]
    exact written changed _ rfl
  | attested _ changed verifierType verifierContract attestationHash attestation known after_eq =>
    rw [after_eq]
    rfl
  | rewritten _ _ changed owner endpoint other known after_eq =>
    rw [after_eq, unbound other]
    exact written changed _ rfl
  | defined _ bitPosition name description riskTier after_eq =>
    rw [after_eq]
    rfl
  | aside _ other same =>
    rw [same.records, unbound other]
    rfl

/-- A stretch changes the account of the agent it binds, and no other. -/
theorem advance_accounts {market : Address} {stretch : Stretch Transaction Rest} {now : State}
    {progress : Progress State Rest (List Event)}
    (accepted : (machine market).advance stretch now = .ok progress) (nftId : Uint256) :
    progress.state.accountOf nftId =
      withChange (binds stretch) (fun nftId => now.accountOf nftId) nftId := by
  cases stretch with
  | start transaction =>
    obtain ⟨message, call, real⟩ := transaction
    cases call with
    | exchange call =>
      obtain ⟨inner, -, wrote⟩ := liftExchange_ok accepted
      rw [wrote]
      rfl
    | registry call =>
      obtain ⟨inner, entered, wrote⟩ := liftRegistry_ok accepted
      rw [wrote]
      exact registry_accounts entered nftId
    | revenue call =>
      obtain ⟨inner, -, wrote⟩ := liftRevenue_ok accepted
      rw [wrote]
      rfl
  | rest pending =>
    cases pending with
    | exchange rest =>
      obtain ⟨inner, -, wrote⟩ := liftExchange_ok accepted
      rw [wrote]
      rfl
    | registry rest =>
      obtain ⟨changed, account⟩ := rest
      obtain ⟨inner, resumed, wrote⟩ := liftRegistry_ok
        (show liftRegistry now (Registry.resume (.provisioning changed account) now.registry) =
          .ok progress from accepted)
      cases resumed
      rw [wrote]
      by_cases own : nftId = changed
      · subst own
        simp [State.accountOf, binds, Progress.state, Registry.transitionState,
          Registry.State.setRecord]
      · simp [State.accountOf, binds, Progress.state, Registry.transitionState,
          Registry.State.setRecord, Function.update_of_ne own]
    | revenue rest =>
      obtain ⟨inner, -, wrote⟩ := liftRevenue_ok accepted
      rw [wrote]
      rfl

/-- A stretch that gives a token binds no account. -/
theorem binds_of_gives {stretch : Stretch Transaction Rest} {now : State}
    {given : Uint256 × Address} (gave : gives stretch now = some given) : binds stretch = none := by
  cases stretch with
  | start transaction =>
    obtain ⟨message, call, real⟩ := transaction
    cases call with
    | exchange call => rfl
    | registry call => cases gave
    | revenue call => rfl
  | rest pending =>
    cases pending with
    | exchange rest => rfl
    | registry rest => cases gave
    | revenue rest => rfl

/-- A stretch keeps the agents free of cycles exactly if it opens none up. -/
theorem acyclic_step_iff {market : Address} {stretch : Stretch Transaction Rest} {now : State}
    {progress : Progress State Rest (List Event)} (acyclic : Links.Acyclic now.OwnedBy)
    (accepted : (machine market).advance stretch now = .ok progress) :
    Links.Acyclic progress.state.OwnedBy ↔ opens now stretch := by
  have owners := advance_owners accepted
  have accounts := advance_accounts accepted
  unfold opens
  cases gave : gives stretch now with
  | some given =>
    obtain ⟨tokenId, target⟩ := given
    rw [gave, withChange_some] at owners
    rw [binds_of_gives gave] at accounts ⊢
    have owned : ∀ nftId holder, progress.state.OwnedBy nftId holder ↔
        now.accountOf holder ≠ Address.zero ∧
          Function.update now.exchange.nft.nft.owners tokenId target nftId =
            now.accountOf holder := by
      intro nftId holder
      rw [State.OwnedBy, State.ownerOf, accounts holder, owners]
      rfl
    rw [Links.acyclic_redirected_iff tokenId ?_ acyclic]
    · simp only [owned, Function.update_self, Option.some.injEq, Prod.mk.injEq, and_imp,
        reduceCtorEq, false_implies, implies_true, and_true]
      constructor
      · rintro open_ _ _ rfl rfl holder real same
        exact open_ holder real same
      · intro open_ holder real same
        exact open_ _ _ rfl rfl holder real same
    · intro nftId holder other
      rw [owned, Function.update_of_ne other]
      rfl
  | none =>
    rw [gave, withChange_none] at owners
    cases bound : binds stretch with
    | some binding =>
      obtain ⟨changed, account⟩ := binding
      rw [bound] at accounts
      have owned : ∀ nftId holder, progress.state.OwnedBy nftId holder ↔
          Function.update (fun nftId => now.accountOf nftId) changed account holder ≠
              Address.zero ∧ now.ownerOf nftId =
            Function.update (fun nftId => now.accountOf nftId) changed account holder := by
        intro nftId holder
        rw [State.OwnedBy, State.ownerOf, accounts holder, owners]
        rfl
      rw [Links.acyclic_readmitted_iff changed ?_ acyclic]
      · simp only [owned, Function.update_self, Option.some.injEq, Prod.mk.injEq, and_imp,
          reduceCtorEq, false_implies, implies_true, true_and]
        constructor
        · rintro open_ _ _ rfl rfl real tokenId same
          exact open_ tokenId real same
        · intro open_ tokenId real same
          exact open_ _ _ rfl rfl real tokenId same
      · intro nftId holder other
        rw [owned, Function.update_of_ne other]
        rfl
    | none =>
      have same : progress.state.OwnedBy = now.OwnedBy := by
        funext nftId holder
        rw [State.OwnedBy, State.ownerOf, accounts holder, owners, bound]
        rfl
      rw [same]
      exact iff_of_true acyclic (by simp)

/-- The token's chain of owners ends with somebody who is not an agent's account. -/
def Rooted (state : State) (nftId : Uint256) : Prop :=
  ∃ root, ReflTransGen state.OwnedBy nftId root ∧
    ∀ holder, state.accountOf holder ≠ Address.zero →
      state.ownerOf root ≠ state.accountOf holder

theorem rooted_of_acyclic {state : State} (acyclic : Links.Acyclic state.OwnedBy)
    (nftId : Uint256) : Rooted state nftId := by
  obtain ⟨root, chain, last⟩ := acyclic.exists_end nftId
  exact ⟨root, chain, fun holder real owned => last holder ⟨real, owned⟩⟩

/-- In every run from the deployment of a registry on, beside any token contract, marketplace
and tracker, the agents stay free of cycles exactly if no step opens one up, and then every
chain of owners ends outside the agents' accounts. -/
theorem ownership_acyclic_iff (market : Address) (exchange : Market.Exchange)
    (registrar : Message) (admin : Address) (capabilityRegistry : Registry.CapabilityRegistry)
    (revenue : Revenue.State) (moves : List (Move Transaction)) :
    let start : State := ⟨exchange, (Registry.deploy registrar admin capabilityRegistry).1, revenue⟩
    let journal := (machine market).journal start moves
    let now := (run (machine market).step ⟨start, []⟩ moves).now.state
    ((∀ entry ∈ journal, Links.Acyclic entry.after.OwnedBy) ↔ Meets opens journal) ∧
      (Meets opens journal → Links.Acyclic now.OwnedBy ∧ ∀ nftId, Rooted now nftId) := by
  intro start journal now
  have unowned : Links.Acyclic start.OwnedBy := by
    intro nftId cycle
    obtain ⟨holder, owned, -⟩ := TransGen.head'_iff.mp cycle
    exact owned.1 rfl
  obtain ⟨whole, last⟩ := journal_always_iff (machine market) start
    (fun state => Links.Acyclic state.OwnedBy) opens unowned
    (fun _ _ _ => acyclic_step_iff) moves
  refine ⟨whole, ?_⟩
  intro meets
  exact ⟨last meets, rooted_of_acyclic (last meets)⟩

theorem minter_real : (1#160 : Address) ≠ Address.zero := by decide

theorem owner_real : (5#160 : Address) ≠ Address.zero := by decide

/-- Token 0 is minted to account 5, registered, and given the account 200. -/
def provisionedMoves : List (Move Transaction) :=
  [sent 1#160 (.exchange (.nft (.mintAgent ⟨5#160, "ipfs://agent", 7#256⟩))) minter_real,
   .returned,
   sent 1#160 (.registry (.registerAgent 1 0#256 5#160 "agent" "trader" 0#256 "v1"
     "ipfs://agent" "https://agent")) minter_real,
   sent 5#160 (.registry (.provisionAccount 0#256 200#160)) owner_real,
   .returned]

/-- Account 5 then transfers the token to that account. -/
def cyclicMoves : List (Move Transaction) :=
  provisionedMoves ++
    [sent 5#160 (.exchange (.nft (.transferFrom 5#160 200#160 0#256))) owner_real]

/-- A deployed world with a token contract in it. -/
def deployedWorld (nft : Nft.State) : State :=
  { exchange := ⟨nft, (Market.deploy ⟨1#160, 0#256⟩ 1#160 3#160 0).1⟩
    registry := (Registry.deploy ⟨1#160, 0#256⟩ 1#160
      (Registry.CapabilityRegistry.deploy ⟨1#160, 0#256⟩ 1#160).1).1
    revenue := (Revenue.deploy ⟨1#160, 0#256⟩ 1#160 0).1 }

/-- A stretch that gives no token and records no account opens nothing up. -/
theorem opens_of_neither {state : State} {stretch : Stretch Transaction Rest}
    (ungiven : gives stretch state = none)
    (unbound : ∀ binding, binds stretch = some binding → binding.2 = Address.zero) :
    opens state stretch := by
  constructor
  · intro tokenId target given
    rw [ungiven] at given
    cases given
  · intro nftId account bound real
    exact absurd (unbound _ bound) real

/-- Up to that account being given, token 0 has an owner who is no agent. -/
theorem ownership_acyclic_provisioned :
    ∃ deployed, Nft.deploy ⟨1#160, 0#256⟩ 1#160 2#160 500#96 = .ok deployed ∧
      Rooted (run (machine 20#160).step ⟨deployedWorld deployed.1, []⟩
        provisionedMoves).now.state 0#256 := by
  refine ⟨_, rfl, ?_⟩
  refine ((ownership_acyclic_iff 20#160 _ ⟨1#160, 0#256⟩ 1#160 _ _ provisionedMoves).2 ?_).2 0#256
  rintro entry (_ | ⟨_, _ | ⟨_, _ | ⟨_, _ | ⟨_, _ | ⟨_, last⟩⟩⟩⟩⟩)
  · refine ⟨?_, fun _ _ found => by cases found⟩
    intro tokenId target _ holder real
    exact absurd rfl real
  · exact opens_of_neither rfl (fun _ found => by cases found)
  · exact opens_of_neither rfl (fun _ found => by cases found; rfl)
  · exact opens_of_neither rfl (fun _ found => by cases found)
  · refine ⟨fun _ _ found => (by cases found), ?_⟩
    intro nftId account bound real tokenId owned
    cases bound
    change Function.update (fun _ => Address.zero) 0#256 5#160 tokenId = 200#160 at owned
    rw [Function.update_apply] at owned
    split at owned
    · exact absurd owned (by decide)
    · exact absurd owned (by decide)
  · cases last

/-- The transfer goes through, and the token owns itself. -/
theorem agent_owns_itself :
    ∃ deployed, Nft.deploy ⟨1#160, 0#256⟩ 1#160 2#160 500#96 = .ok deployed ∧
      ¬ Links.Acyclic (run (machine 20#160).step ⟨deployedWorld deployed.1, []⟩
        cyclicMoves).now.state.OwnedBy := by
  refine ⟨_, rfl, ?_⟩
  intro acyclic
  apply acyclic 0#256
  apply TransGen.single
  exact ⟨by decide +kernel, by decide +kernel⟩

end BigX.World
