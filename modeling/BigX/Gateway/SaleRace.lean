import BigX.Gateway.Purchase

set_option autoImplicit false

/- Several purchases of one agent at a time. No purchase locks the rows it reads, so one may
commit over a listing that another has sold meanwhile. -/
namespace BigX.Gateway.Purchase

open Run

/-- No listing is sold twice, and the rows name the last buyer. -/
structure SoldOnce (state : State) : Prop where
  once : (state.sales.map fun sale => sale.listing.id).Nodup
  buyer : ∀ sale ∈ state.sales, (∃ row ∈ state.listings, row.id = sale.listing.id) ∧
    ∀ row ∈ state.listings, row.id = sale.listing.id →
      row.status = .sold ∧ row.buyerId = some sale.user.userId
  owner : ∀ earlier sale later, state.sales = earlier ++ sale :: later →
    (∀ other ∈ later, other.agent.id ≠ sale.agent.id) →
      (∃ row ∈ state.agents, row.id = sale.agent.id) ∧
        ∀ row ∈ state.agents, row.id = sale.agent.id → row.ownerId = sale.user.userId

/-- A purchase that is about to be committed has read its listing as it is now. -/
def CommitsListed (state : State) (move : Move) : Prop :=
  ∀ index answer task rest listing agent txHash paid, move = .returned index answer →
    takeOut index state.tasks = some (task, rest) →
    task.point = .committing listing agent txHash paid → listing ∈ state.listings

@[simp] theorem sell_id (listing row : Listing) (userId : String) (txHash : Option String) :
    (listing.sell userId txHash row).id = row.id := by
  unfold Listing.sell
  split
  · rfl
  · rfl

@[simp] theorem transfer_id (id userId : String) (row : Agent) :
    (Agent.transfer id userId row).id = row.id := by
  unfold Agent.transfer
  split
  · rfl
  · rfl

theorem sell_same {listing row : Listing} (same : row.id = listing.id) (userId : String)
    (txHash : Option String) : (listing.sell userId txHash row).status = .sold ∧
      (listing.sell userId txHash row).buyerId = some userId := by
  unfold Listing.sell
  rw [if_pos same]
  exact ⟨rfl, rfl⟩

theorem sell_other {listing row : Listing} (other : row.id ≠ listing.id) (userId : String)
    (txHash : Option String) : listing.sell userId txHash row = row :=
  if_neg other

theorem transfer_same {id : String} {row : Agent} (same : row.id = id) (userId : String) :
    (Agent.transfer id userId row).ownerId = userId := by
  unfold Agent.transfer
  rw [if_pos same]

theorem transfer_other {id : String} {row : Agent} (other : row.id ≠ id) (userId : String) :
    Agent.transfer id userId row = row :=
  if_neg other

theorem listed_of_sell {listing row : Listing} {rows : List Listing} {userId : String}
    {txHash : Option String} (member : row ∈ rows.map (listing.sell userId txHash)) :
    ∃ old ∈ rows, old.id = row.id ∧ listing.sell userId txHash old = row := by
  obtain ⟨old, place, rfl⟩ := List.mem_map.mp member
  exact ⟨old, place, (sell_id listing old userId txHash).symm, rfl⟩

theorem sell_there {rows : List Listing} {id : String} (there : ∃ row ∈ rows, row.id = id)
    (listing : Listing) (userId : String) (txHash : Option String) :
    ∃ row ∈ rows.map (listing.sell userId txHash), row.id = id := by
  obtain ⟨row, member, rfl⟩ := there
  exact ⟨_, List.mem_map_of_mem member, sell_id listing row userId txHash⟩

theorem owned_of_transfer {row : Agent} {rows : List Agent} {id userId : String}
    (member : row ∈ rows.map (Agent.transfer id userId)) :
    ∃ old ∈ rows, old.id = row.id ∧ Agent.transfer id userId old = row := by
  obtain ⟨old, place, rfl⟩ := List.mem_map.mp member
  exact ⟨old, place, (transfer_id id userId old).symm, rfl⟩

theorem transfer_there {rows : List Agent} {id : String} (there : ∃ row ∈ rows, row.id = id)
    (agentId userId : String) : ∃ row ∈ rows.map (Agent.transfer agentId userId), row.id = id := by
  obtain ⟨row, member, rfl⟩ := there
  exact ⟨_, List.mem_map_of_mem member, transfer_id agentId userId row⟩

/-- A listing that was read was for sale; it still is, or has been sold since. -/
def State.HasRead (state : State) (listing : Listing) : Prop :=
  listing.status = .active ∧
    (listing ∈ state.listings ∨ ∃ sale ∈ state.sales, sale.listing.id = listing.id)

/-- What a purchase has read. -/
def Task.Reads (state : State) (task : Task) : Prop :=
  match task.point with
  | .selecting _ => True
  | .gettingAgent _ listing => state.HasRead listing
  | .paying listing agent _ | .committing listing agent _ _ =>
      state.HasRead listing ∧ ∃ row ∈ state.agents, row.id = agent.id

theorem Task.Next.reads {state : State} {task : Task} {point : Point}
    (next : task.Next state point) (held : task.Reads state) :
    Task.Reads state { task with point := point } := by
  unfold Task.Reads at held
  cases next with
  | selected agentUuid listing before row active => exact ⟨active, Or.inl row⟩
  | gotCrypto agentUuid listing agent before row _ =>
    rw [before] at held
    exact ⟨held, agent, row, rfl⟩
  | gotFiat agentUuid listing agent txHash before row _ =>
    rw [before] at held
    exact ⟨held, agent, row, rfl⟩
  | paid listing agent asked txHash before =>
    rw [before] at held
    exact held

/-- Sales stay, and so do the rows but for the listings that are sold. -/
structure Keeps (before after : State) : Prop where
  listings : ∀ listing ∈ before.listings, listing ∈ after.listings ∨
    ∃ sale ∈ after.sales, sale.listing.id = listing.id
  sales : ∃ more, after.sales = before.sales ++ more
  agents : ∀ id, (∃ row ∈ before.agents, row.id = id) → ∃ row ∈ after.agents, row.id = id

theorem Keeps.of_same {before after : State} (listings : before.listings ⊆ after.listings)
    (agents : after.agents = before.agents) (sales : after.sales = before.sales) :
    Keeps before after := by
  refine ⟨fun listing row => Or.inl (listings row), ⟨[], ?_⟩, ?_⟩
  · rw [sales, List.append_nil]
  · intro id there
    rw [agents]
    exact there

theorem Commits.keeps {before after : State} {sale : Sale} (commits : Commits before after sale) :
    Keeps before after := by
  refine ⟨?_, ⟨[sale], commits.sales⟩, ?_⟩
  · intro listing row
    by_cases same : listing.id = sale.listing.id
    · refine Or.inr ⟨sale, ?_, same.symm⟩
      rw [commits.sales]
      exact List.mem_append_right _ List.mem_cons_self
    · refine Or.inl ?_
      rw [commits.listings]
      exact List.mem_map.mpr ⟨listing, row, sell_other same _ _⟩
  · intro id there
    rw [commits.agents]
    exact transfer_there there _ _

theorem Stepped.keeps {before after : State} {move : Move} (stepped : Stepped before after move) :
    Keeps before after := by
  cases stepped with
  | arrived _ _ _ _ rows =>
    exact .of_same (by rw [rows]; exact fun _ row => row) (by rw [rows]) (by rw [rows])
  | refused _ same =>
    exact .of_same (by rw [same]; exact fun _ row => row) (by rw [same]) (by rw [same])
  | ended _ _ _ _ rows =>
    exact .of_same (by rw [rows]; exact fun _ row => row) (by rw [rows]) (by rw [rows])
  | waited _ _ _ _ _ _ _ rows _ =>
    exact .of_same (by rw [rows]; exact fun _ row => row) (by rw [rows]) (by rw [rows])
  | committed _ _ _ _ _ _ _ _ _ commits => exact commits.keeps
  | listed _ _ _ _ _ rows =>
    exact .of_same (by rw [rows]; exact fun _ => List.mem_append_left _) (by rw [rows])
      (by rw [rows])

theorem Keeps.hasRead {before after : State} {listing : Listing} (keeps : Keeps before after)
    (held : before.HasRead listing) : after.HasRead listing := by
  refine ⟨held.1, ?_⟩
  rcases held.2 with row | ⟨sale, member, same⟩
  · exact keeps.listings listing row
  · obtain ⟨more, sales⟩ := keeps.sales
    refine Or.inr ⟨sale, ?_, same⟩
    rw [sales]
    exact List.mem_append_left _ member

theorem Keeps.reads {before after : State} {task : Task} (keeps : Keeps before after)
    (held : task.Reads before) : task.Reads after := by
  unfold Task.Reads at held ⊢
  split
  · trivial
  · rename_i point
    rw [point] at held
    exact keeps.hasRead held
  · rename_i agent _ point
    rw [point] at held
    exact ⟨keeps.hasRead held.1, keeps.agents agent.id held.2⟩
  · rename_i agent _ _ point
    rw [point] at held
    exact ⟨keeps.hasRead held.1, keeps.agents agent.id held.2⟩

theorem step_reads {uuid : String → Option String} {move : Move} {before after : State}
    {response : Response} (held : ∀ task ∈ before.tasks, task.Reads before)
    (accepted : step uuid move before = .ok (after, response)) :
    ∀ task ∈ after.tasks, task.Reads after := by
  have stepped := step_stepped accepted
  have early : ∀ task ∈ after.tasks, task.Reads before := by
    apply stepped.each_task held
    · intro _ _ _
      trivial
    · intro task point next reads
      exact next.reads reads
  intro task member
  exact stepped.keeps.reads (early task member)

/-- A new listing is none of those that were sold. -/
theorem SoldOnce.of_rows {before after : State} (held : SoldOnce before)
    (kept : before.listings ⊆ after.listings)
    (fresh : ∀ row ∈ after.listings, row ∈ before.listings ∨
      ∀ other ∈ before.listings, other.id ≠ row.id)
    (agents : after.agents = before.agents) (sales : after.sales = before.sales) :
    SoldOnce after := by
  refine ⟨?_, ?_, ?_⟩
  · rw [sales]
    exact held.once
  · intro sale member
    rw [sales] at member
    obtain ⟨⟨sold, there, id⟩, all⟩ := held.buyer sale member
    refine ⟨⟨sold, kept there, id⟩, ?_⟩
    intro row new same
    rcases fresh row new with old | other
    · exact all row old same
    · exact absurd (id.trans same.symm) (other sold there)
  · rw [sales, agents]
    exact held.owner

theorem SoldOnce.not_sold {state : State} (held : SoldOnce state) {listing : Listing}
    (row : listing ∈ state.listings) (active : listing.status = .active) :
    ∀ sale ∈ state.sales, sale.listing.id ≠ listing.id := by
  intro sale member same
  have sold := ((held.buyer sale member).2 listing row same.symm).1
  rw [active] at sold
  cases sold

/-- The rows of a listing name its buyer after the commit of a sale too. -/
theorem SoldOnce.commit_buyer {before after : State} {sale : Sale} (held : SoldOnce before)
    (commits : Commits before after sale) (row : sale.listing ∈ before.listings)
    (active : sale.listing.status = .active) :
    ∀ sold ∈ after.sales, (∃ row ∈ after.listings, row.id = sold.listing.id) ∧
      ∀ row ∈ after.listings, row.id = sold.listing.id →
        row.status = .sold ∧ row.buyerId = some sold.user.userId := by
  intro sold member
  rw [commits.listings]
  rw [commits.sales] at member
  rcases List.mem_append.mp member with earlier | last
  · obtain ⟨there, all⟩ := held.buyer sold earlier
    refine ⟨sell_there there _ _ _, ?_⟩
    intro new changed same
    obtain ⟨old, place, id, rfl⟩ := listed_of_sell changed
    have other : old.id ≠ sale.listing.id := by
      intro equal
      exact held.not_sold row active sold earlier (same.symm.trans (id.symm.trans equal))
    rw [sell_other other]
    exact all old place (id.trans same)
  · rw [List.mem_singleton.mp last]
    refine ⟨sell_there ⟨_, row, rfl⟩ _ _ _, ?_⟩
    intro new changed same
    obtain ⟨old, _, id, rfl⟩ := listed_of_sell changed
    exact sell_same (id.trans same) _ _

/-- The agent's row names the last buyer after the commit of a sale too. -/
theorem SoldOnce.commit_owner {before after : State} {sale : Sale} (held : SoldOnce before)
    (commits : Commits before after sale) (there : ∃ row ∈ before.agents, row.id = sale.agent.id)
    (earlier later : List Sale) (sold : Sale) (split : after.sales = earlier ++ sold :: later)
    (unsold : ∀ other ∈ later, other.agent.id ≠ sold.agent.id) :
    (∃ row ∈ after.agents, row.id = sold.agent.id) ∧
      ∀ row ∈ after.agents, row.id = sold.agent.id → row.ownerId = sold.user.userId := by
  rw [commits.agents]
  rw [commits.sales] at split
  induction later using List.reverseRecOn with
  | nil =>
    obtain ⟨_, last⟩ := List.append_inj' split rfl
    cases List.singleton_inj.mp last
    refine ⟨transfer_there there _ _, ?_⟩
    intro new changed same
    obtain ⟨old, _, id, rfl⟩ := owned_of_transfer changed
    exact transfer_same (id.trans same) _
  | append_singleton later final _ =>
    have shorter : before.sales ++ [sale] = (earlier ++ sold :: later) ++ [final] := by
      simpa using split
    obtain ⟨earlierSales, last⟩ := List.append_inj' shorter rfl
    have different := unsold sale
      (List.mem_append_right _ (List.singleton_inj.mp last ▸ List.mem_cons_self))
    obtain ⟨found, all⟩ := held.owner earlier sold later earlierSales
      fun other member => unsold other (List.mem_append_left _ member)
    refine ⟨transfer_there found _ _, ?_⟩
    intro new changed same
    obtain ⟨old, place, id, rfl⟩ := owned_of_transfer changed
    have other : old.id ≠ sale.agent.id := by
      intro equal
      exact different (equal.symm.trans (id.trans same))
    rw [transfer_other other]
    exact all old place (id.trans same)

theorem SoldOnce.commit {before after : State} {sale : Sale} (held : SoldOnce before)
    (commits : Commits before after sale) (row : sale.listing ∈ before.listings)
    (active : sale.listing.status = .active)
    (there : ∃ row ∈ before.agents, row.id = sale.agent.id) : SoldOnce after := by
  refine ⟨?_, held.commit_buyer commits row active, ?_⟩
  · rw [commits.sales, List.map_append, List.nodup_append]
    refine ⟨held.once, by simp, ?_⟩
    intro id earlier other last same
    obtain ⟨sold, member, rfl⟩ := List.mem_map.mp earlier
    rw [List.map_singleton, List.mem_singleton] at last
    exact held.not_sold row active sold member (same.trans last)
  · intro earlier sold later split unsold
    exact held.commit_owner commits there earlier later sold split unsold

theorem step_soldOnce {uuid : String → Option String} {move : Move} {before after : State}
    {response : Response} (reads : ∀ task ∈ before.tasks, task.Reads before)
    (listed : CommitsListed before move) (held : SoldOnce before)
    (accepted : step uuid move before = .ok (after, response)) : SoldOnce after := by
  have unchanged (rows : after = { before with tasks := after.tasks }) : SoldOnce after := by
    refine held.of_rows ?_ ?_ (by rw [rows]) (by rw [rows])
    · rw [rows]
      exact fun _ row => row
    · rw [rows]
      exact fun _ row => Or.inl row
  cases step_stepped accepted with
  | arrived _ _ _ _ rows => exact unchanged rows
  | refused _ same => exact same ▸ held
  | ended _ _ _ _ rows => exact unchanged rows
  | waited _ _ _ _ _ _ _ rows _ => exact unchanged rows
  | listed id agentId sellerId price fresh rows =>
    refine held.of_rows ?_ ?_ (by rw [rows]) (by rw [rows])
    · rw [rows]
      exact fun _ => List.mem_append_left _
    · rw [rows]
      intro row member
      rcases List.mem_append.mp member with old | new
      · exact Or.inl old
      · rw [List.mem_singleton.mp new]
        refine Or.inr fun other place same => ?_
        have none := List.any_eq_false.mp fresh other place
        exact none (decide_eq_true same)
  | committed index answer task listing agent txHash paid taken point commits =>
    have read := reads task (takeOut_mem taken)
    unfold Task.Reads at read
    rw [point] at read
    exact held.commit commits (listed index answer task _ listing agent txHash paid rfl taken point)
      read.1.1 read.2

theorem step_commitsListed {uuid : String → Option String} {move : Move} {before after : State}
    {response : Response} (reads : ∀ task ∈ before.tasks, task.Reads before)
    (once : (after.sales.map fun sale => sale.listing.id).Nodup)
    (accepted : step uuid move before = .ok (after, response)) : CommitsListed before move := by
  rintro index answer task rest listing agent txHash paid rfl taken point
  have read := reads task (takeOut_mem taken)
  unfold Task.Reads at read
  rw [point] at read
  rcases read.1.2 with row | ⟨sale, member, same⟩
  · exact row
  · have commits := committing_commits taken point accepted
    rw [commits.sales, List.map_append, List.nodup_append] at once
    exact absurd same (once.2.2 sale.listing.id (List.mem_map_of_mem member) listing.id
      List.mem_cons_self)

end BigX.Gateway.Purchase
