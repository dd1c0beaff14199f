import BigX.Run.Trace
import BigX.Run.Pool
import Mathlib.Data.Int.Log
import Mathlib.Data.Rat.Floor
import Mathlib.Algebra.Order.Ring.Rat

set_option autoImplicit false

/- Buying an agent at the gateway. A purchase reads the listing and the agent, asks the
contract service, and writes both rows by their ids in one commit; between these steps other
purchases go on, and the listing may be listed anew. -/
namespace BigX.Gateway.Purchase

open Run

/-- A Python float; zeros are not told apart. -/
inductive PyFloat
  | finite (value : Rat)
  | infinite (negative : Bool)
  | nan
  deriving DecidableEq

/-- `bool(amount)` -/
def PyFloat.truthy : PyFloat → Bool
  | .finite value => value ≠ 0
  | _ => true

def PyFloat.atLeast (price : Rat) : PyFloat → Bool
  | .finite value => price ≤ value
  | .infinite negative => !negative
  | .nan => false

/-- To the nearest integer, ties to even. -/
def roundEven (value : Rat) : Int :=
  let below := ⌊value⌋
  let rest := value - below
  if rest < 1 / 2 then below
  else if 1 / 2 < rest then below + 1
  else below + below % 2

/-- `float` of a `Decimal` within the normal range: 53 significant bits. -/
def pyFloat (value : Rat) : Rat :=
  if value = 0 then 0
  else
    let unit : Rat := 2 ^ (Int.log 2 |value| - 52)
    roundEven (value / unit) * unit

inductive ListingStatus
  | active
  | sold
  | cancelled
  deriving DecidableEq

structure Listing where
  id : String
  agentId : String
  sellerId : String
  price : Rat
  status : ListingStatus
  buyerId : Option String
  txHash : Option String
  deriving DecidableEq

structure Agent where
  id : String
  nftId : Int
  ownerId : String
  deriving DecidableEq

inductive TransactionStatus
  | pending
  | confirmed
  deriving DecidableEq

/-- The row of an `NFT_TRADE` on chain 8453. -/
structure Transaction where
  agentId : String
  txHash : Option String
  status : TransactionStatus
  fromAddress : String
  toAddress : String
  amount : Rat
  amountUsd : Rat
  deriving DecidableEq

structure BuyRequest where
  agentId : String
  paymentMethod : String
  amount : Option PyFloat
  deriving DecidableEq

structure SessionUser where
  userId : String
  walletAddress : Option String
  deriving DecidableEq

/-- The body of the request to `/contracts/buy`. -/
structure ContractBuy where
  nftId : Int
  buyer : String
  price : PyFloat
  deriving DecidableEq

/-- What a purchase waits for; `paid` is what the contract service was asked, if it was. -/
inductive Point
  | selecting (agentUuid : String)
  | gettingAgent (agentUuid : String) (listing : Listing)
  | paying (listing : Listing) (agent : Agent) (asked : ContractBuy)
  | committing (listing : Listing) (agent : Agent) (txHash : Option String)
      (paid : Option ContractBuy)

structure Task where
  payload : BuyRequest
  user : SessionUser
  point : Point

/-- A purchase that succeeded: the request, the rows it read, and what it was paid with. -/
structure Sale where
  payload : BuyRequest
  user : SessionUser
  listing : Listing
  agent : Agent
  paid : Option ContractBuy
  transaction : Transaction

/-- The rows, the purchases under way, and those that succeeded. -/
structure State where
  listings : List Listing
  agents : List Agent
  transactions : List Transaction
  tasks : List Task
  sales : List Sale

def State.begin_ (listings : List Listing) (agents : List Agent) : State :=
  ⟨listings, agents, [], [], []⟩

inductive Response
  | success (txHash : Option String) (agentId : String)
  | error (status : Nat) (detail : String)
  | pending

/-- `payload.amount or float(listing.price)` -/
def chargedPrice (payload : BuyRequest) (listing : Listing) : PyFloat :=
  match payload.amount with
  | some amount => if amount.truthy then amount else .finite (pyFloat listing.price)
  | none => .finite (pyFloat listing.price)

/-- The `Transaction` of a purchase. -/
def Task.transaction (task : Task) (listing : Listing) (agent : Agent) (txHash : Option String) :
    Transaction :=
  { agentId := agent.id
    txHash := txHash
    status := if task.payload.paymentMethod = "crypto" then .confirmed else .pending
    fromAddress := listing.sellerId
    toAddress := task.user.walletAddress.getD ""
    amount := pyFloat listing.price
    amountUsd := pyFloat listing.price }

/-- `UPDATE orders_listings` of the row that was read as `listing`. The user's id is a string
and always counts as a change; a transaction hash that was there already does not. -/
def Listing.sell (listing : Listing) (userId : String) (txHash : Option String) (row : Listing) :
    Listing :=
  if row.id = listing.id then
    { row with
      status := .sold
      buyerId := some userId
      txHash := if listing.txHash = txHash then row.txHash else txHash }
  else row

/-- `UPDATE agents` -/
def Agent.transfer (id userId : String) (row : Agent) : Agent :=
  if row.id = id then { row with ownerId := userId } else row

/-- The commit of a purchase. -/
def State.commit (task : Task) (listing : Listing) (agent : Agent) (txHash : Option String)
    (paid : Option ContractBuy) (state : State) : State :=
  let transaction := task.transaction listing agent txHash
  { state with
    listings := state.listings.map (listing.sell task.user.userId txHash)
    agents := state.agents.map (Agent.transfer agent.id task.user.userId)
    transactions := state.transactions ++ [transaction]
    sales := state.sales ++
      [⟨task.payload, task.user, listing, agent, paid, transaction⟩] }

def State.wait (task : Task) (point : Point) (state : State) : State :=
  { state with tasks := state.tasks ++ [{ task with point := point }] }

/-- `buy_agent` up to its first `await`; `uuid` is `uuid.UUID`, `none` where it raises. -/
def buyAgent (uuid : String → Option String) (payload : BuyRequest) (user : SessionUser)
    (state : State) : State × Response :=
  match uuid payload.agentId with
  | none => (state, .error 502 "badly formed hexadecimal UUID string")
  | some agentUuid =>
      (state.wait ⟨payload, user, .selecting agentUuid⟩ (.selecting agentUuid), .pending)

/-- `buy_agent` after an `await` has returned, up to the next. `answer` is the transaction of
the contract service, or the hex digits that are drawn for a purchase in fiat. -/
def State.resume (answer : Option String) (task : Task) (state : State) : State × Response :=
  match task.point with
  | .selecting agentUuid =>
      match state.listings.filter fun row => row.agentId = agentUuid ∧ row.status = .active with
      | [] => (state, .error 404 "Agent not listed for sale")
      | [listing] => (state.wait task (.gettingAgent agentUuid listing), .pending)
      | _ => (state, .error 502 "Multiple rows were found when one or none was required")
  | .gettingAgent agentUuid listing =>
      match state.agents.find? fun row => row.id = agentUuid with
      | none => (state, .error 404 "Agent not found")
      | some agent =>
          if task.payload.paymentMethod = "crypto" then
            (state.wait task (.paying listing agent
              ⟨agent.nftId, task.user.walletAddress.getD "", chargedPrice task.payload listing⟩),
              .pending)
          else
            (state.wait task (.committing listing agent (some ("fiat-" ++ answer.getD "")) none),
              .pending)
  | .paying listing agent asked =>
      (state.wait task (.committing listing agent answer (some asked)), .pending)
  | .committing listing agent txHash paid =>
      (state.commit task listing agent txHash paid, .success txHash task.payload.agentId)

/-- A purchase begins, what it awaits returns or raises, or an agent is listed. -/
inductive Move
  | buyAgent (payload : BuyRequest) (user : SessionUser)
  | returned (index : Nat) (answer : Option String)
  | raised (index : Nat) (detail : String)
  | listed (id agentId sellerId : String) (price : Rat)

inductive Impossible
  | impossible

def step (uuid : String → Option String) (move : Move) (state : State) :
    Except Impossible (State × Response) :=
  match move with
  | .buyAgent payload user => .ok (buyAgent uuid payload user state)
  | .returned index answer =>
      match takeOut index state.tasks with
      | some (task, tasks) => .ok ({ state with tasks := tasks }.resume answer task)
      | none => .error .impossible
  | .raised index detail =>
      match takeOut index state.tasks with
      | some (_, tasks) => .ok ({ state with tasks := tasks }, .error 502 detail)
      | none => .error .impossible
  | .listed id agentId sellerId price =>
      if state.listings.any fun row => row.id = id then .error .impossible
      else .ok ({ state with
        listings := state.listings ++ [⟨id, agentId, sellerId, price, .active, none, none⟩] },
        .pending)

abbrev history (uuid : String → Option String) (listings : List Listing) (agents : List Agent)
    (moves : List Move) : Trace State Move Response :=
  run (step uuid) (.begin_ listings agents) moves

/-- The contract service was asked to take at least the price from the buyer, and the purchase
is on record as confirmed. -/
def Sale.Paid (sale : Sale) : Prop :=
  sale.transaction.status = .confirmed ∧ ∃ asked, sale.paid = some asked ∧
    asked.nftId = sale.agent.nftId ∧ asked.buyer = sale.user.walletAddress.getD "" ∧
      asked.price.atLeast sale.listing.price = true

instance (sale : Sale) : Decidable sale.Paid :=
  inferInstanceAs (Decidable (sale.transaction.status = .confirmed ∧ ∃ asked, asked ∈ sale.paid ∧
    asked.nftId = sale.agent.nftId ∧ asked.buyer = sale.user.walletAddress.getD "" ∧
      asked.price.atLeast sale.listing.price = true))

/-- The purchase is in crypto, and the amount covers the price; without an amount, the price is
no less as a float. -/
def PaysInFull (payload : BuyRequest) (listing : Listing) : Prop :=
  payload.paymentMethod = "crypto" ∧
    match payload.amount with
    | some amount =>
        if amount.truthy then amount.atLeast listing.price = true
        else listing.price ≤ pyFloat listing.price
    | none => listing.price ≤ pyFloat listing.price

theorem chargedPrice_atLeast (payload : BuyRequest) (listing : Listing) :
    PaysInFull payload listing ↔ payload.paymentMethod = "crypto" ∧
      (chargedPrice payload listing).atLeast listing.price = true := by
  unfold PaysInFull chargedPrice
  apply and_congr_right
  intro _
  split
  · split
    · exact Iff.rfl
    · simp only [PyFloat.atLeast, decide_eq_true_eq]
  · simp only [PyFloat.atLeast, decide_eq_true_eq]

/-- A purchase in crypto asks the contract service for the charged price, one in fiat asks for
nothing. -/
def Task.Charged (task : Task) : Prop :=
  match task.point with
  | .paying listing agent asked => task.payload.paymentMethod = "crypto" ∧
      asked = ⟨agent.nftId, task.user.walletAddress.getD "", chargedPrice task.payload listing⟩
  | .committing listing agent _ paid =>
      if task.payload.paymentMethod = "crypto" then
        paid = some
          ⟨agent.nftId, task.user.walletAddress.getD "", chargedPrice task.payload listing⟩
      else paid = none
  | _ => True

/-- The point a purchase goes to from the point it has reached, and the rows it reads. -/
inductive Task.Next (state : State) (task : Task) : Point → Prop
  | selected (agentUuid : String) (listing : Listing) (point : task.point = .selecting agentUuid)
      (row : listing ∈ state.listings) (active : listing.status = .active) :
      Task.Next state task (.gettingAgent agentUuid listing)
  | gotCrypto (agentUuid : String) (listing : Listing) (agent : Agent)
      (point : task.point = .gettingAgent agentUuid listing) (row : agent ∈ state.agents)
      (crypto : task.payload.paymentMethod = "crypto") :
      Task.Next state task (.paying listing agent
        ⟨agent.nftId, task.user.walletAddress.getD "", chargedPrice task.payload listing⟩)
  | gotFiat (agentUuid : String) (listing : Listing) (agent : Agent) (txHash : Option String)
      (point : task.point = .gettingAgent agentUuid listing) (row : agent ∈ state.agents)
      (fiat : task.payload.paymentMethod ≠ "crypto") :
      Task.Next state task (.committing listing agent txHash none)
  | paid (listing : Listing) (agent : Agent) (asked : ContractBuy) (txHash : Option String)
      (point : task.point = .paying listing agent asked) :
      Task.Next state task (.committing listing agent txHash (some asked))

/-- The step commits a purchase, and only by that sets an owner. -/
structure Commits (before after : State) (sale : Sale) : Prop where
  sales : after.sales = before.sales ++ [sale]
  agents : after.agents = before.agents.map (Agent.transfer sale.agent.id sale.user.userId)
  listings : after.listings = before.listings.map
    (sale.listing.sell sale.user.userId sale.transaction.txHash)
  transactions : after.transactions = before.transactions ++ [sale.transaction]

/-- What a step does: it commits a purchase, adds a listing, or leaves the rows alone; the
purchases under way after it are those before it, or one of them a step further. -/
inductive Stepped (before after : State) : Move → Prop
  | arrived (payload : BuyRequest) (user : SessionUser) (agentUuid : String)
      (tasks : after.tasks = before.tasks ++ [⟨payload, user, .selecting agentUuid⟩])
      (rows : after = { before with tasks := after.tasks }) :
      Stepped before after (.buyAgent payload user)
  | refused (move : Move) (same : after = before) : Stepped before after move
  | ended (move : Move) (index : Nat) (task : Task)
      (taken : takeOut index before.tasks = some (task, after.tasks))
      (rows : after = { before with tasks := after.tasks }) : Stepped before after move
  | waited (index : Nat) (answer : Option String) (task : Task) (point : Point) (rest : List Task)
      (taken : takeOut index before.tasks = some (task, rest))
      (tasks : after.tasks = rest ++ [{ task with point := point }])
      (rows : after = { before with tasks := after.tasks })
      (next : task.Next before point) : Stepped before after (.returned index answer)
  | committed (index : Nat) (answer : Option String) (task : Task) (listing : Listing)
      (agent : Agent) (txHash : Option String) (paid : Option ContractBuy)
      (taken : takeOut index before.tasks = some (task, after.tasks))
      (point : task.point = .committing listing agent txHash paid)
      (commits : Commits before after
        ⟨task.payload, task.user, listing, agent, paid, task.transaction listing agent txHash⟩) :
      Stepped before after (.returned index answer)
  | listed (id agentId sellerId : String) (price : Rat)
      (fresh : before.listings.any (fun row => row.id = id) = false)
      (rows : after = { before with
        listings := before.listings ++ [⟨id, agentId, sellerId, price, .active, none, none⟩] }) :
      Stepped before after (.listed id agentId sellerId price)

/-- A purchase that goes on ends, waits at the next point or is committed. -/
theorem resume_stepped {before : State} {index : Nat} (answer : Option String) {task : Task}
    {tasks : List Task} (taken : takeOut index before.tasks = some (task, tasks)) :
    Stepped before (State.resume answer task { before with tasks := tasks }).1
      (.returned index answer) := by
  obtain ⟨payload, user, point⟩ := task
  unfold State.resume
  cases point with
  | selecting agentUuid =>
    dsimp only
    split
    · exact .ended _ index _ taken rfl
    · rename_i listing rows
      have member : listing ∈ before.listings.filter fun row =>
          row.agentId = agentUuid ∧ row.status = .active := by
        rw [rows]
        exact List.mem_cons_self
      obtain ⟨row, found⟩ := List.mem_filter.mp member
      exact .waited index answer _ _ _ taken rfl rfl
        (.selected agentUuid listing rfl row (of_decide_eq_true found).2)
    · exact .ended _ index _ taken rfl
  | gettingAgent agentUuid listing =>
    dsimp only
    split
    · exact .ended _ index _ taken rfl
    · rename_i agent found
      have row := List.mem_of_find?_eq_some found
      split
      · rename_i crypto
        exact .waited index answer _ _ _ taken rfl rfl
          (.gotCrypto agentUuid listing agent rfl row crypto)
      · rename_i fiat
        exact .waited index answer _ _ _ taken rfl rfl
          (.gotFiat agentUuid listing agent _ rfl row fiat)
  | paying listing agent asked =>
    exact .waited index answer _ _ _ taken rfl rfl (.paid listing agent asked answer rfl)
  | committing listing agent txHash paid =>
    exact .committed index answer _ listing agent txHash paid taken rfl ⟨rfl, rfl, rfl, rfl⟩

theorem step_stepped {uuid : String → Option String} {move : Move} {before after : State}
    {response : Response} (accepted : step uuid move before = .ok (after, response)) :
    Stepped before after move := by
  cases move with
  | buyAgent payload user =>
    simp only [step, buyAgent] at accepted
    split at accepted
    · cases accepted
      exact .refused _ rfl
    · rename_i agentUuid _
      cases accepted
      exact .arrived payload user agentUuid rfl rfl
  | listed id agentId sellerId price =>
    simp only [step] at accepted
    split at accepted
    · cases accepted
    · rename_i fresh
      cases accepted
      exact .listed id agentId sellerId price (by simpa using fresh) rfl
  | raised index detail =>
    simp only [step] at accepted
    split at accepted
    · rename_i task tasks taken
      cases accepted
      exact .ended _ index task taken rfl
    · cases accepted
  | returned index answer =>
    simp only [step] at accepted
    split at accepted
    · rename_i task tasks taken
      have resumed := resume_stepped answer taken
      rw [Except.ok.inj accepted] at resumed
      exact resumed
    · cases accepted

theorem Task.Next.charged {state : State} {task : Task} {point : Point}
    (next : task.Next state point) (held : task.Charged) :
    Task.Charged { task with point := point } := by
  cases next with
  | selected agentUuid listing _ _ _ => trivial
  | gotCrypto agentUuid listing agent _ _ crypto => exact ⟨crypto, rfl⟩
  | gotFiat agentUuid listing agent txHash _ _ fiat => simp only [Task.Charged, if_neg fiat]
  | paid listing agent asked txHash before =>
    unfold Task.Charged at held
    rw [before] at held
    obtain ⟨crypto, same⟩ := held
    simp only [Task.Charged, if_pos crypto]
    exact congrArg some same

/-- What a purchase has when it begins and keeps on its way, each has after the step. -/
theorem Stepped.each_task {before after : State} {move : Move} {property : Task → Prop}
    (stepped : Stepped before after move) (held : ∀ task ∈ before.tasks, property task)
    (fresh : ∀ payload user agentUuid, property ⟨payload, user, .selecting agentUuid⟩)
    (next : ∀ task point, task.Next before point → property task →
      property { task with point := point }) : ∀ task ∈ after.tasks, property task := by
  intro other member
  cases stepped with
  | arrived payload user agentUuid tasks _ =>
    rw [tasks] at member
    rcases List.mem_append.mp member with earlier | last
    · exact held other earlier
    · rw [List.mem_singleton.mp last]
      exact fresh payload user agentUuid
  | refused _ same => exact held other (same ▸ member)
  | ended _ index task taken _ =>
    exact held other (mem_of_takeOut taken member)
  | waited index answer task point rest taken tasks _ goes =>
    rw [tasks] at member
    rcases List.mem_append.mp member with earlier | last
    · exact held other (mem_of_takeOut taken earlier)
    · rw [List.mem_singleton.mp last]
      exact next task point goes (held task (takeOut_mem taken))
  | committed index answer task listing agent txHash paid taken _ _ =>
    exact held other (mem_of_takeOut taken member)
  | listed id agentId sellerId price _ rows =>
    rw [rows] at member
    exact held other member

theorem step_charged {uuid : String → Option String} {move : Move} {before after : State}
    {response : Response} (held : ∀ task ∈ before.tasks, task.Charged)
    (accepted : step uuid move before = .ok (after, response)) :
    ∀ task ∈ after.tasks, task.Charged := by
  apply (step_stepped accepted).each_task held
  · intro _ _ _
    trivial
  · intro task point next charged
    exact next.charged charged

theorem paid_iff {task : Task} {listing : Listing} {agent : Agent} {txHash : Option String}
    {paid : Option ContractBuy} (point : task.point = .committing listing agent txHash paid)
    (charged : task.Charged) :
    Sale.Paid ⟨task.payload, task.user, listing, agent, paid,
        task.transaction listing agent txHash⟩ ↔ PaysInFull task.payload listing := by
  rw [chargedPrice_atLeast]
  unfold Task.Charged at charged
  rw [point] at charged
  dsimp only at charged
  unfold Sale.Paid Task.transaction
  by_cases crypto : task.payload.paymentMethod = "crypto"
  · rw [if_pos crypto] at charged
    subst charged
    simp [crypto]
  · simp [crypto]

/-- A step sets no owner, or it commits a purchase that is paid for. -/
def OwnershipPaid (entry : Entry State Move Response) : Prop :=
  (entry.after.agents = entry.before.agents ∧ entry.after.sales = entry.before.sales) ∨
    ∃ sale, Commits entry.before entry.after sale ∧ sale.Paid

/-- A purchase that is about to be committed pays in full. -/
def CommitsInFull (state : State) (move : Move) : Prop :=
  ∀ index answer task rest listing agent txHash paid, move = .returned index answer →
    takeOut index state.tasks = some (task, rest) →
    task.point = .committing listing agent txHash paid → PaysInFull task.payload listing

theorem commits_paid {before after : State} {sale : Sale} (commits : Commits before after sale)
    (paid : (after.agents = before.agents ∧ after.sales = before.sales) ∨
      ∃ sale, Commits before after sale ∧ sale.Paid) : sale.Paid := by
  rcases paid with ⟨_, same⟩ | ⟨found, also, paid⟩
  · have longer := commits.sales
    rw [same] at longer
    simp at longer
  · have equal := commits.sales.symm.trans also.sales
    rw [List.append_right_inj, List.singleton_inj] at equal
    exact equal ▸ paid

theorem committing_commits {uuid : String → Option String} {before after : State}
    {response : Response} {index : Nat} {answer : Option String} {task : Task} {rest : List Task}
    {listing : Listing} {agent : Agent} {txHash : Option String} {paid : Option ContractBuy}
    (taken : takeOut index before.tasks = some (task, rest))
    (point : task.point = .committing listing agent txHash paid)
    (accepted : step uuid (.returned index answer) before = .ok (after, response)) :
    Commits before after
      ⟨task.payload, task.user, listing, agent, paid, task.transaction listing agent txHash⟩ := by
  simp only [step, taken, State.resume, point] at accepted
  cases accepted
  exact ⟨rfl, rfl, rfl, rfl⟩

theorem step_paid_iff {uuid : String → Option String} {move : Move} {before after : State}
    {response : Response} (charged : ∀ task ∈ before.tasks, task.Charged)
    (accepted : step uuid move before = .ok (after, response)) :
    OwnershipPaid ⟨before, move, response, after⟩ ↔ CommitsInFull before move := by
  unfold OwnershipPaid
  dsimp only
  constructor
  · rintro paid index answer task rest listing agent txHash hash rfl taken point
    have member := takeOut_mem taken
    apply (paid_iff point (charged task member)).mp
    exact commits_paid (committing_commits taken point accepted) paid
  · intro full
    cases step_stepped accepted with
    | arrived _ _ _ _ rows => exact Or.inl ⟨by rw [rows], by rw [rows]⟩
    | refused _ same => exact Or.inl ⟨by rw [same], by rw [same]⟩
    | ended _ _ _ _ rows => exact Or.inl ⟨by rw [rows], by rw [rows]⟩
    | waited _ _ _ _ _ _ _ rows _ =>
      exact Or.inl ⟨by rw [rows], by rw [rows]⟩
    | listed _ _ _ _ _ rows => exact Or.inl ⟨by rw [rows], by rw [rows]⟩
    | committed index answer task listing agent txHash paid taken point commits =>
      refine Or.inr ⟨_, commits, ?_⟩
      have member := takeOut_mem taken
      exact (paid_iff point (charged task member)).mpr
        (full index answer task _ listing agent txHash paid rfl taken point)

/-- One purchase alone that runs to its end, the contract service answering `txHash`. -/
def buyAlone (payload : BuyRequest) (txHash : Option String) : List Move :=
  [.buyAgent payload ⟨"buyer", some "0xb"⟩, .returned 0 none, .returned 0 none,
    .returned 0 txHash, .returned 0 none]

def offered : Listing := ⟨"listing", "agent", "seller", 5 / 2, .active, none, none⟩

def traded : Agent := ⟨"agent", 7, "seller"⟩

/-- All sales of a run that sets owners for what has been paid only are paid. -/
theorem sales_paid (uuid : String → Option String) (listings : List Listing)
    (agents : List Agent) (moves : List Move)
    (paid : ∀ entry ∈ (history uuid listings agents moves).past, OwnershipPaid entry) :
    ∀ sale ∈ (history uuid listings agents moves).now.sales, sale.Paid := by
  revert paid
  apply run_induction (step uuid) (.begin_ listings agents)
    (fun past now => (∀ entry ∈ past, OwnershipPaid entry) → ∀ sale ∈ now.sales, sale.Paid)
  · intro _ sale member
    cases member
  · intro past now move after response held accepted paid sale member
    have earlier := held fun entry earlier => paid entry (List.mem_append_left _ earlier)
    have last : OwnershipPaid ⟨now, move, response, after⟩ :=
      paid _ (List.mem_append_right _ List.mem_cons_self)
    rcases last with ⟨_, same⟩ | ⟨sold, commits, sold_paid⟩
    · exact earlier sale (same ▸ member)
    · rcases List.mem_append.mp (commits.sales ▸ member) with before | new
      · exact earlier sale before
      · rw [List.mem_singleton.mp new]
        exact sold_paid

end BigX.Gateway.Purchase
