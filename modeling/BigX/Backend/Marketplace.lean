import BigX.Gateway.SaleRace

set_option autoImplicit false

/- The two tables of the marketplace under all that writes them: the backend's listing,
cancelling and buying, and the gateway's buying. What is read and what is committed are steps
of their own, and other requests go on in between. -/
namespace BigX.Backend.Marketplace

open Run
open Gateway.Purchase (Agent Listing ListingStatus)

/-- `uuid` reads an id for the database, `none` where it refuses; `eth` is the format of a
price. -/
structure Env where
  uuid : String → Option String
  eth : Rat → String

/-- What a request of the backend does with the listing it has read. -/
inductive Aim
  | cancelling (listingId : String)
  | buying
  deriving DecidableEq

/-- A request of the backend that waits for its commit. -/
structure Task where
  userId : String
  listing : Listing
  aim : Aim
  deriving DecidableEq

structure State where
  gateway : Gateway.Purchase.State
  tasks : List Task

inductive Response
  | transaction (status contract message : String)
  | bought (status message : String)
  | gateway (response : Gateway.Purchase.Response)
  | error (status : Nat) (detail : String)
  | pending

/-- What the handler of unexpected exceptions answers. -/
def unexpected : Response :=
  .error 500 "An unexpected error occurred. Reference this error_id if reporting the issue."

def State.wait (task : Task) (state : State) : State :=
  { state with tasks := state.tasks ++ [task] }

/-- `list_agent`, with the id that is drawn for the new row. The table of agents has to hold
the agent's id. -/
def listAgent (env : Env) (id agentId : String) (priceEth : Rat) (userId : String)
    (state : State) : State × Response :=
  match env.uuid agentId with
  | none => (state, unexpected)
  | some agentUuid =>
      if state.gateway.agents.any fun agent => agent.id = agentUuid then
        ({ state with gateway := { state.gateway with
            listings := state.gateway.listings ++
              [⟨id, agentUuid, userId, priceEth, .active, none, none⟩] } },
          .transaction "pending" "Marketplace"
            (s!"Agent {agentId} listed for " ++ env.eth priceEth ++ " ETH."))
      else (state, unexpected)

/-- `cancel_listing` up to its commit. -/
def cancelListing (env : Env) (listingId userId : String) (state : State) : State × Response :=
  match env.uuid listingId with
  | none => (state, unexpected)
  | some id =>
      match state.gateway.listings.find? fun row => row.id = id ∧ row.sellerId = userId with
      | none => (state, .error 404 "Listing not found")
      | some listing => (state.wait ⟨userId, listing, .cancelling listingId⟩, .pending)

/-- `buy_agent` of the backend up to its commit. -/
def buyAgent (env : Env) (agentId userId : String) (state : State) : State × Response :=
  match env.uuid agentId with
  | none => (state, unexpected)
  | some id =>
      match state.gateway.listings.find? fun row => row.id = id ∧ row.status = .active with
      | none => (state, .error 404 "Listing not found or already sold")
      | some listing => (state.wait ⟨userId, listing, .buying⟩, .pending)

/-- `UPDATE orders_listings` of a commit. A status that the request has read already is not
written. -/
def Task.update (task : Task) (row : Listing) : Listing :=
  if row.id = task.listing.id then
    match task.aim with
    | .cancelling _ =>
        { row with status := if task.listing.status = .cancelled then row.status else .cancelled }
    | .buying => { row with status := .sold, buyerId := some task.userId }
  else row

/-- The commit, and what the request is answered. -/
def State.commit (task : Task) (state : State) : State × Response :=
  ({ state with gateway := { state.gateway with
      listings := state.gateway.listings.map task.update } },
    match task.aim with
    | .cancelling listingId =>
        .transaction "cancelled" "Marketplace" s!"Listing {listingId} cancelled."
    | .buying =>
        .bought "pending_on_chain"
          "Purchase recorded. Complete payment to transfer ownership.")

/-- A request of the backend arrives, commits or fails to; or the gateway goes on with its
purchases. -/
inductive Move
  | listAgent (id agentId : String) (priceEth : Rat) (userId : String)
  | cancelListing (listingId userId : String)
  | buyAgent (agentId userId : String)
  | committed (index : Nat)
  | failed (index : Nat)
  | gateway (move : Gateway.Purchase.Move)

inductive Impossible
  | impossible

/-- The gateway's purchases; it lists nothing itself. -/
def gatewayStep (env : Env) (move : Gateway.Purchase.Move) (state : State) :
    Except Impossible (State × Response) :=
  match move with
  | .listed _ _ _ _ => .error .impossible
  | move =>
      match Gateway.Purchase.step env.uuid move state.gateway with
      | .ok (gateway, response) => .ok ({ state with gateway := gateway }, .gateway response)
      | .error _ => .error .impossible

def step (env : Env) (move : Move) (state : State) : Except Impossible (State × Response) :=
  match move with
  | .listAgent id agentId priceEth userId =>
      if state.gateway.listings.any fun row => row.id = id then .error .impossible
      else .ok (listAgent env id agentId priceEth userId state)
  | .cancelListing listingId userId => .ok (cancelListing env listingId userId state)
  | .buyAgent agentId userId => .ok (buyAgent env agentId userId state)
  | .committed index =>
      match takeOut index state.tasks with
      | some (task, tasks) => .ok ({ state with tasks := tasks }.commit task)
      | none => .error .impossible
  | .failed index =>
      match takeOut index state.tasks with
      | some (_, tasks) => .ok ({ state with tasks := tasks }, unexpected)
      | none => .error .impossible
  | .gateway move => gatewayStep env move state

/-- Every agent has one active listing at most, and its seller owns the agent. -/
structure Consistent (listings : List Listing) (agents : List Agent) : Prop where
  once : ∀ agentId,
    (listings.countP fun row => row.agentId = agentId ∧ row.status = .active) ≤ 1
  there : ∀ row ∈ listings, ∃ agent ∈ agents, agent.id = row.agentId
  owned : ∀ row ∈ listings, row.status = .active → ∀ agent ∈ agents,
    agent.id = row.agentId → agent.ownerId = row.sellerId

/-- A listing that was sold or cancelled keeps its status. -/
def Final (before after : List Listing) : Prop :=
  ∀ (index : Nat) (row : Listing), before[index]? = some row → row.status ≠ .active →
    ∃ later : Listing, after[index]? = some later ∧ later.id = row.id ∧
      later.status = row.status

/-- Tables to begin with. -/
structure Tables where
  listings : List Listing
  agents : List Agent
  consistent : Consistent listings agents

def State.begin_ (tables : Tables) : State := ⟨.begin_ tables.listings tables.agents, []⟩

abbrev history (env : Env) (tables : Tables) (moves : List Move) : Trace State Move Response :=
  run (step env) (.begin_ tables) moves

/-- What a commit of the backend must not find: one that cancels a sold listing, one that buys
a cancelled one. -/
def Task.Fits (task : Task) (row : Listing) : Prop :=
  match task.aim with
  | .cancelling _ => task.listing.status ≠ .cancelled → row.status ≠ .sold
  | .buying => row.status ≠ .cancelled

/-- The gateway's commit sells a listing that was not cancelled, and the agent has no other
active listing but of the buyer. -/
def SaleFits (listings : List Listing) (listing : Listing) (agent : Agent) (buyerId : String) :
    Prop :=
  (∀ row ∈ listings, row.id = listing.id → row.status ≠ .cancelled) ∧
    ∀ row ∈ listings, row.id ≠ listing.id → row.status = .active → row.agentId = agent.id →
      row.sellerId = buyerId

/-- Only the owner lists an agent, and one that is not listed; a commit fits the row it
updates. -/
def Fits (env : Env) (state : State) : Move → Prop
  | .listAgent _ agentId _ userId => ∀ agent ∈ state.gateway.agents,
      env.uuid agentId = some agent.id → agent.ownerId = userId ∧
        ∀ row ∈ state.gateway.listings, row.agentId = agent.id → row.status ≠ .active
  | .committed index => ∀ task, state.tasks[index]? = some task →
      ∀ row ∈ state.gateway.listings, row.id = task.listing.id → task.Fits row
  | .gateway (.returned index _) => ∀ task, state.gateway.tasks[index]? = some task →
      ∀ listing agent txHash paid, task.point = .committing listing agent txHash paid →
        SaleFits state.gateway.listings listing agent task.user.userId
  | _ => True

theorem final_append (before more : List Listing) : Final before (before ++ more) := by
  intro index row found _
  have bound := (List.getElem?_eq_some_iff.mp found).1
  exact ⟨row, by rw [List.getElem?_append_left bound, found], rfl, rfl⟩

theorem final_map {update : Listing → Listing} (ids : ∀ row, (update row).id = row.id)
    (listings : List Listing) :
    Final listings (listings.map update) ↔
      ∀ row ∈ listings, row.status ≠ .active → (update row).status = row.status := by
  constructor
  · intro final row member closed
    obtain ⟨index, found⟩ := List.mem_iff_getElem?.mp member
    obtain ⟨later, present, _, same⟩ := final index row found closed
    rw [List.getElem?_map, found, Option.map_some] at present
    cases present
    exact same
  · intro kept index row found closed
    have member := List.mem_of_getElem? found
    refine ⟨update row, by rw [List.getElem?_map, found, Option.map_some], ids row, ?_⟩
    exact kept row member closed

/-- An update that opens no listing and leaves its agent and seller. -/
structure Closes (update : Listing → Listing) : Prop where
  id : ∀ row, (update row).id = row.id
  agentId : ∀ row, (update row).agentId = row.agentId
  sellerId : ∀ row, (update row).sellerId = row.sellerId
  status : ∀ row, (update row).status = .active → row.status = .active

theorem Closes.count_le {update : Listing → Listing} (closes : Closes update)
    (listings : List Listing) (agentId : String) :
    ((listings.map update).countP fun row => row.agentId = agentId ∧ row.status = .active) ≤
      listings.countP fun row => row.agentId = agentId ∧ row.status = .active := by
  rw [List.countP_map]
  apply List.countP_mono_left
  intro row _ held
  simp only [Function.comp_apply, decide_eq_true_eq, closes.agentId] at held ⊢
  exact ⟨held.1, closes.status row held.2⟩

theorem Closes.consistent {update : Listing → Listing} (closes : Closes update)
    {listings : List Listing} {agents : List Agent} (consistent : Consistent listings agents) :
    Consistent (listings.map update) agents := by
  refine ⟨?_, ?_, ?_⟩
  · intro agentId
    exact (closes.count_le listings agentId).trans (consistent.once agentId)
  · intro row member
    obtain ⟨old, place, rfl⟩ := List.mem_map.mp member
    rw [closes.agentId]
    exact consistent.there old place
  · intro row member active agent row_agent same
    obtain ⟨old, place, rfl⟩ := List.mem_map.mp member
    rw [closes.agentId] at same
    rw [closes.sellerId]
    exact consistent.owned old place (closes.status old active) agent row_agent same

theorem update_status {task : Task} {row : Listing} (active : (task.update row).status = .active) :
    row.status = .active := by
  unfold Task.update at active
  split at active
  · split at active
    · dsimp only at active
      split at active
      · exact active
      · cases active
    · cases active
  · exact active

theorem update_closes (task : Task) : Closes task.update := by
  refine ⟨?_, ?_, ?_, fun _ => update_status⟩
  all_goals
    intro row
    unfold Task.update
    split
    · split
      · rfl
      · rfl
    · rfl

theorem sell_closes (listing : Listing) (userId : String) (txHash : Option String) :
    Closes (listing.sell userId txHash) := by
  refine ⟨?_, ?_, ?_, ?_⟩
  all_goals
    intro row
    unfold Listing.sell
    split
    · simp
    · simp

/-- A commit of the backend is final exactly if it fits the row it updates. -/
theorem update_final (task : Task) (listings : List Listing) :
    Final listings (listings.map task.update) ↔
      ∀ row ∈ listings, row.id = task.listing.id → task.Fits row := by
  rw [final_map (update_closes task).id]
  apply forall₂_congr
  intro row _
  unfold Task.update Task.Fits
  by_cases same : row.id = task.listing.id
  · simp only [same, if_true, forall_true_left]
    split
    · cases row.status <;> simp
    · cases row.status <;> simp
  · simp [same]

/-- A new listing keeps the tables consistent exactly if the owner lists the agent, and it is
not listed. -/
theorem list_consistent {listings : List Listing} {agents : List Agent}
    (consistent : Consistent listings agents) {agent : Agent} (present : agent ∈ agents)
    (id userId : String) (price : Rat) :
    Consistent (listings ++ [⟨id, agent.id, userId, price, .active, none, none⟩]) agents ↔
      ∀ other ∈ agents, agent.id = other.id → other.ownerId = userId ∧
        ∀ row ∈ listings, row.agentId = other.id → row.status ≠ .active := by
  constructor
  · intro after other member same
    refine ⟨?_, ?_⟩
    · exact after.owned _ (List.mem_append_right _ List.mem_cons_self) rfl other member same.symm
    · intro row place listed active
      have once := after.once agent.id
      have positive : 0 < listings.countP fun row => row.agentId = agent.id ∧
          row.status = .active := by
        apply List.countP_pos_iff.mpr
        exact ⟨row, place, by simp [listed, same, active]⟩
      simp only [List.countP_append, List.countP_singleton, and_self, decide_true,
        if_true] at once
      omega
  · intro fits
    obtain ⟨_, unlisted⟩ := fits agent present rfl
    refine ⟨?_, ?_, ?_⟩
    · intro agentId
      rw [List.countP_append, List.countP_singleton]
      by_cases same : agent.id = agentId
      · subst same
        have none_listed : (listings.countP fun row => row.agentId = agent.id ∧
            row.status = .active) = 0 := by
          apply List.countP_eq_zero.mpr
          intro row member
          simpa using unlisted row member
        rw [none_listed]
        simp
      · simpa [same] using consistent.once agentId
    · intro row member
      rcases List.mem_append.mp member with earlier | last
      · exact consistent.there row earlier
      · rw [List.mem_singleton.mp last]
        exact ⟨agent, present, rfl⟩
    · intro row member active other place same
      rcases List.mem_append.mp member with earlier | last
      · exact consistent.owned row earlier active other place same
      · rw [List.mem_singleton.mp last] at same ⊢
        exact (fits other place same.symm).1

open Gateway.Purchase (sell_same sell_other transfer_same transfer_other transfer_id)

theorem sell_final (listing : Listing) (userId : String) (txHash : Option String)
    (listings : List Listing) :
    Final listings (listings.map (listing.sell userId txHash)) ↔
      ∀ row ∈ listings, row.id = listing.id → row.status ≠ .cancelled := by
  rw [final_map (sell_closes listing userId txHash).id]
  apply forall₂_congr
  intro row _
  by_cases same : row.id = listing.id
  · rw [(sell_same same userId txHash).1]
    simp only [same, forall_true_left]
    cases row.status <;> simp
  · rw [sell_other same]
    simp [same]

/-- The gateway's commit keeps the tables consistent exactly if every other active listing of
the agent is the buyer's. -/
theorem sale_consistent {listings : List Listing} {agents : List Agent}
    (consistent : Consistent listings agents) (listing : Listing) (agent : Agent)
    (buyerId : String) (txHash : Option String) :
    Consistent (listings.map (listing.sell buyerId txHash))
        (agents.map (Agent.transfer agent.id buyerId)) ↔
      ∀ row ∈ listings, row.id ≠ listing.id → row.status = .active → row.agentId = agent.id →
        row.sellerId = buyerId := by
  constructor
  · intro after row member other active listed
    obtain ⟨owner, place, same⟩ := consistent.there row member
    have kept : row ∈ listings.map (listing.sell buyerId txHash) :=
      List.mem_map.mpr ⟨row, member, sell_other other buyerId txHash⟩
    have owned := after.owned row kept active _ (List.mem_map_of_mem place)
      (by rw [transfer_id, same])
    rw [transfer_same (same.trans listed)] at owned
    exact owned.symm
  · intro fits
    have closed := (sell_closes listing buyerId txHash).consistent consistent
    refine ⟨closed.once, ?_, ?_⟩
    · intro row member
      obtain ⟨owner, place, same⟩ := closed.there row member
      exact ⟨_, List.mem_map_of_mem place, by rw [transfer_id, same]⟩
    · intro row member active owner place same
      obtain ⟨earlier, held, rfl⟩ := List.mem_map.mp place
      rw [transfer_id] at same
      by_cases sold : earlier.id = agent.id
      · rw [transfer_same sold]
        obtain ⟨old, before, rfl⟩ := List.mem_map.mp member
        by_cases this : old.id = listing.id
        · rw [(sell_same this buyerId txHash).1] at active
          cases active
        · rw [sell_other this] at active same ⊢
          exact (fits old before this active (same.symm.trans sold)).symm
      · rw [transfer_other sold]
        exact closed.owned row member active earlier held same

/-- The tables as they are after a step, beside those before it. -/
def Kept (before after : State) : Prop :=
  Consistent after.gateway.listings after.gateway.agents ∧
    Final before.gateway.listings after.gateway.listings

theorem kept_of_same {before after : State}
    (consistent : Consistent before.gateway.listings before.gateway.agents)
    (listings : after.gateway.listings = before.gateway.listings)
    (agents : after.gateway.agents = before.gateway.agents) : Kept before after := by
  refine ⟨by rw [listings, agents]; exact consistent, ?_⟩
  intro index row found _
  exact ⟨row, by rw [listings]; exact found, rfl, rfl⟩

theorem listAgent_exact {env : Env} {before : State}
    (consistent : Consistent before.gateway.listings before.gateway.agents)
    (id agentId userId : String) (priceEth : Rat) :
    Kept before (listAgent env id agentId priceEth userId before).1 ↔
      Fits env before (.listAgent id agentId priceEth userId) := by
  simp only [Fits]
  unfold listAgent
  cases read : env.uuid agentId with
  | none =>
    simp only [reduceCtorEq, false_imp_iff, implies_true, iff_true]
    exact kept_of_same consistent rfl rfl
  | some agentUuid =>
    dsimp only
    split
    · rename_i present
      obtain ⟨agent, member, same⟩ := List.any_eq_true.mp present
      have named : agent.id = agentUuid := of_decide_eq_true same
      subst named
      simp only [Kept, Option.some.injEq]
      rw [list_consistent consistent member]
      exact and_iff_left (final_append _ _)
    · rename_i absent
      constructor
      · intro _ agent member same
        cases same
        exact absurd (List.any_eq_true.mpr ⟨agent, member, by simp⟩) absent
      · intro _
        exact kept_of_same consistent rfl rfl

open Gateway.Purchase (Commits committing_commits step_stepped)

/-- The purchase that a move of the gateway is about to commit. -/
def Commit (state : State) (move : Gateway.Purchase.Move) (task : Gateway.Purchase.Task)
    (listing : Listing) (agent : Agent) : Prop :=
  ∃ index answer rest txHash paid, move = .returned index answer ∧
    takeOut index state.gateway.tasks = some (task, rest) ∧
    task.point = .committing listing agent txHash paid

theorem gateway_fits {env : Env} {state : State} {move : Gateway.Purchase.Move} :
    Fits env state (.gateway move) ↔ ∀ task listing agent, Commit state move task listing agent →
      SaleFits state.gateway.listings listing agent task.user.userId := by
  constructor
  · rintro fits task listing agent ⟨index, answer, rest, txHash, paid, rfl, taken, point⟩
    exact fits task (takeOut_get taken) listing agent txHash paid point
  · intro fits
    cases move with
    | returned index answer =>
      intro task found listing agent txHash paid point
      apply fits task listing agent
      exact ⟨index, answer, state.gateway.tasks.eraseIdx index, txHash, paid, rfl,
        by rw [takeOut, found, Option.map_some], point⟩
    | buyAgent payload user => trivial
    | raised index detail => trivial
    | listed id agentId sellerId price => trivial

theorem commit_kept {before after : State} {sale : Gateway.Purchase.Sale}
    (consistent : Consistent before.gateway.listings before.gateway.agents)
    (commits : Commits before.gateway after.gateway sale) :
    Kept before after ↔
      SaleFits before.gateway.listings sale.listing sale.agent sale.user.userId := by
  unfold Kept SaleFits
  rw [commits.listings, commits.agents, sale_consistent consistent, sell_final]
  exact and_comm

/-- A move of the gateway's purchases changes the rows by a commit alone. -/
theorem gateway_exact {env : Env} {move : Gateway.Purchase.Move} {before after : State}
    {response : Response}
    (consistent : Consistent before.gateway.listings before.gateway.agents)
    (accepted : gatewayStep env move before = .ok (after, response)) :
    Kept before after ↔ Fits env before (.gateway move) := by
  obtain ⟨gateway, answer, stepped, rfl, unlisted⟩ :
      ∃ gateway answer, Gateway.Purchase.step env.uuid move before.gateway =
        .ok (gateway, answer) ∧ { before with gateway := gateway } = after ∧
          ∀ id agentId sellerId price, move ≠ .listed id agentId sellerId price := by
    unfold gatewayStep at accepted
    split at accepted
    · cases accepted
    · rename_i other
      split at accepted
      · rename_i gateway answer stepped
        cases accepted
        exact ⟨gateway, answer, stepped, rfl, other⟩
      · cases accepted
  rw [gateway_fits]
  by_cases commit : ∃ task listing agent, Commit before move task listing agent
  · obtain ⟨task, listing, agent, index, back, rest, txHash, paid, rfl, taken, point⟩ := commit
    have commits := committing_commits taken point stepped
    rw [commit_kept consistent commits]
    constructor
    · rintro fits other listing' agent' ⟨index', back', rest', txHash', paid', same, taken', point'⟩
      cases same
      rw [taken] at taken'
      cases taken'
      rw [point] at point'
      cases point'
      exact fits
    · intro fits
      exact fits task listing agent ⟨index, back, rest, txHash, paid, rfl, taken, point⟩
  · have kept : Kept before { before with gateway := gateway } := by
      cases step_stepped stepped with
      | arrived _ _ _ _ rows => exact kept_of_same consistent (by rw [rows]) (by rw [rows])
      | refused _ same => exact kept_of_same consistent (by rw [same]) (by rw [same])
      | ended _ _ _ _ rows => exact kept_of_same consistent (by rw [rows]) (by rw [rows])
      | waited _ _ _ _ _ _ _ rows _ =>
        exact kept_of_same consistent (by rw [rows]) (by rw [rows])
      | committed index back task listing agent txHash paid taken point _ =>
        exact absurd ⟨task, listing, agent, index, back, _, txHash, paid, rfl, taken, point⟩ commit
      | listed id agentId sellerId price _ _ => exact absurd rfl (unlisted id agentId sellerId price)
    constructor
    · intro _ task listing agent held
      exact absurd ⟨task, listing, agent, held⟩ commit
    · intro _
      exact kept

theorem step_exact {env : Env} {move : Move} {before after : State} {response : Response}
    (consistent : Consistent before.gateway.listings before.gateway.agents)
    (accepted : step env move before = .ok (after, response)) :
    Kept before after ↔ Fits env before move := by
  cases move with
  | listAgent id agentId priceEth userId =>
    simp only [step] at accepted
    split at accepted
    · cases accepted
    · have listed : (listAgent env id agentId priceEth userId before).1 = after :=
        congrArg Prod.fst (Except.ok.inj accepted)
      rw [← listed]
      exact listAgent_exact consistent id agentId userId priceEth
  | cancelListing listingId userId =>
    have kept : Kept before (cancelListing env listingId userId before).1 := by
      unfold cancelListing
      split
      · exact kept_of_same consistent rfl rfl
      · split
        · exact kept_of_same consistent rfl rfl
        · exact kept_of_same consistent rfl rfl
    rw [Except.ok.inj accepted] at kept
    exact iff_of_true kept trivial
  | buyAgent agentId userId =>
    have kept : Kept before (buyAgent env agentId userId before).1 := by
      unfold buyAgent
      split
      · exact kept_of_same consistent rfl rfl
      · split
        · exact kept_of_same consistent rfl rfl
        · exact kept_of_same consistent rfl rfl
    rw [Except.ok.inj accepted] at kept
    exact iff_of_true kept trivial
  | committed index =>
    simp only [step] at accepted
    split at accepted
    · rename_i task tasks taken
      cases accepted
      simp only [Fits, takeOut_get taken, Option.some.injEq, forall_eq']
      rw [← update_final]
      exact and_iff_right ((update_closes task).consistent consistent)
    · cases accepted
  | failed index =>
    simp only [step] at accepted
    split at accepted
    · cases accepted
      exact iff_of_true (kept_of_same consistent rfl rfl) trivial
    · cases accepted
  | gateway move => exact gateway_exact consistent accepted

/-- What a run keeps holds at its end. -/
theorem consistent_now {env : Env} {tables : Tables} {moves : List Move}
    (kept : ∀ entry ∈ (history env tables moves).past, Kept entry.before entry.after) :
    Consistent (history env tables moves).now.gateway.listings
      (history env tables moves).now.gateway.agents := by
  revert kept
  apply run_induction (step env) (.begin_ tables) (fun past now =>
    (∀ entry ∈ past, Kept entry.before entry.after) →
      Consistent now.gateway.listings now.gateway.agents)
  · intro _
    exact tables.consistent
  · intro past now move after response _ _ kept
    exact (kept _ (List.mem_append_right _ List.mem_cons_self)).1

theorem empty_consistent (agents : List Agent) : Consistent [] agents :=
  ⟨fun _ => Nat.zero_le 1, by simp, by simp⟩

/-- One agent, which `alice` owns, and no listings. -/
def oneAgent : Tables := ⟨[], [⟨"agent", 7, "alice"⟩], empty_consistent _⟩

def plain : Env := ⟨some, fun _ => "1.0"⟩

def listedTwice : List Move :=
  [.listAgent "first" "agent" 1 "alice", .listAgent "second" "agent" 1 "alice"]

def listedByAnother : List Move := [.listAgent "first" "agent" 1 "bob"]

/-- The seller cancels a listing that was bought. -/
def cancelledLate : List Move :=
  [.listAgent "first" "agent" 1 "alice", .buyAgent "first" "bob", .committed 0,
    .cancelListing "first" "alice", .committed 0]

theorem cancelledLate_length : 4 < (history plain oneAgent cancelledLate).past.length := by
  decide +kernel

end BigX.Backend.Marketplace
