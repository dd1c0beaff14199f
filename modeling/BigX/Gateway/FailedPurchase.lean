import BigX.Gateway.Purchase

set_option autoImplicit false

/- One purchase at the gateway with everything that can fail on its way. The contract service is
asked before anything is written, and what it has done stays done when the rest fails. -/
namespace BigX.Gateway.FailedPurchase

open Purchase (Agent BuyRequest Listing Response SessionUser Task Transaction)

structure Tables where
  listings : List Listing
  agents : List Agent
  transactions : List Transaction
  deriving DecidableEq

/-- What `response.json()` gives: it raises, or the reply is an object with a `tx_hash` or without
one, or no object, on which `.get` raises. -/
inductive Body
  | invalid (error : String)
  | object (txHash : Option String)
  | other (error : String)
  deriving DecidableEq

/-- How the request to the contract service ends at the client: it raises, or there is a response,
with what `raise_for_status` says of it. -/
inductive HttpAnswer
  | raised (error : String)
  | response (status : Nat) (error : String) (body : Body)
  deriving DecidableEq

/-- Whether the contract service carries the purchase out, and what the gateway hears of it. -/
structure ContractService where
  purchases : Bool
  answer : HttpAnswer

/-- A commit that raises, in the flush or after it, may have been applied. -/
inductive Commit
  | returned
  | raised (error : String) (applied : Bool)
  deriving DecidableEq

/-- How the steps of one request end: the two queries, the attributes that the request to the
contract service is made of, that request, the attributes that are set after it, the
transaction's construction, and the commit. -/
structure Faults where
  execute : Option String
  get : Option String
  read : Option String
  contract : ContractService
  assign : Option String
  construct : Option String
  commit : Commit

/-- What is in the tables, what the client is answered, and whether the contract service carried
out the purchase. -/
structure Result where
  tables : Tables
  response : Response
  purchased : Bool

/-- The two queries. -/
def findSale (uuid : String → Option String) (faults : Faults) (payload : BuyRequest)
    (tables : Tables) : Except (Nat × String) (Listing × Agent) :=
  match uuid payload.agentId, faults.execute with
  | none, _ => .error (502, "badly formed hexadecimal UUID string")
  | some _, some error => .error (502, error)
  | some agentUuid, none =>
      match tables.listings.filter fun row => row.agentId = agentUuid ∧ row.status = .active with
      | [] => .error (404, "Agent not listed for sale")
      | [listing] =>
          match faults.get, tables.agents.find? fun row => row.id = agentUuid with
          | some error, _ => .error (502, error)
          | none, none => .error (404, "Agent not found")
          | none, some agent => .ok (listing, agent)
      | _ => .error (502, "Multiple rows were found when one or none was required")

/-- `proxy_request`, and whether the purchase was carried out. -/
def proxyRequest (smartContractUrl : String) (contract : ContractService) :
    Except String Body × Bool :=
  if smartContractUrl = "" then (.error "Unknown service: smart-contract-integration", false)
  else
    match contract.answer with
    | .raised error => (.error error, contract.purchases)
    | .response status error body =>
        if status < 200 ∨ 300 ≤ status then (.error error, contract.purchases)
        else
          match body with
          | .invalid error => (.error error, contract.purchases)
          | body => (.ok body, contract.purchases)

/-- The transaction hash, from the contract service or drawn, and whether the purchase was carried
out. -/
def txHash (smartContractUrl hex : String) (faults : Faults) (payload : BuyRequest) :
    Except String (Option String) × Bool :=
  if payload.paymentMethod = "crypto" then
    match faults.read with
    | some error => (.error error, false)
    | none =>
        match proxyRequest smartContractUrl faults.contract with
        | (.error error, purchased) => (.error error, purchased)
        | (.ok (.object txHash), purchased) => (.ok txHash, purchased)
        | (.ok (.other error), purchased) => (.error error, purchased)
        | (.ok (.invalid error), purchased) => (.error error, purchased)
  else (.ok (some ("fiat-" ++ hex)), false)

/-- What the commit writes. -/
def Tables.sell (task : Task) (listing : Listing) (agent : Agent) (txHash : Option String)
    (tables : Tables) : Tables :=
  { listings := tables.listings.map (listing.sell task.user.userId txHash)
    agents := tables.agents.map (Agent.transfer agent.id task.user.userId)
    transactions := tables.transactions ++ [task.transaction listing agent txHash] }

/-- `buy_agent` in its session, which rolls back what is not committed. -/
def buyAgent (uuid : String → Option String) (smartContractUrl hex : String) (faults : Faults)
    (payload : BuyRequest) (user : SessionUser) (tables : Tables) : Result :=
  match findSale uuid faults payload tables with
  | .error (status, error) => ⟨tables, .error status error, false⟩
  | .ok (listing, agent) =>
      match txHash smartContractUrl hex faults payload with
      | (.error error, purchased) => ⟨tables, .error 502 error, purchased⟩
      | (.ok txHash, purchased) =>
          match faults.assign, faults.construct with
          | some error, _ => ⟨tables, .error 502 error, purchased⟩
          | none, some error => ⟨tables, .error 502 error, purchased⟩
          | none, none =>
              let sold := tables.sell ⟨payload, user, .gettingAgent agent.id listing⟩ listing agent
                txHash
              match faults.commit with
              | .returned => ⟨sold, .success txHash payload.agentId, purchased⟩
              | .raised error applied =>
                  ⟨if applied then sold else tables, .error 502 error, purchased⟩

/-- An error answer means that nothing was bought and nothing was written. -/
def Untouched (tables : Tables) (result : Result) : Prop :=
  ∀ status error, result.response = .error status error →
    result.purchased = false ∧ result.tables = tables

/-- The contract service is asked, and carries the purchase out. -/
def Purchases (smartContractUrl : String) (faults : Faults) (payload : BuyRequest) : Prop :=
  payload.paymentMethod = "crypto" ∧ faults.read = none ∧ smartContractUrl ≠ "" ∧
    faults.contract.purchases = true

/-- The reply is a success, and an object. -/
def Replies (contract : ContractService) : Prop :=
  ∃ status error txHash, contract.answer = .response status error (.object txHash) ∧
    200 ≤ status ∧ status < 300

/-- There is a transaction hash. -/
def Hashed (smartContractUrl : String) (faults : Faults) (payload : BuyRequest) : Prop :=
  payload.paymentMethod = "crypto" →
    faults.read = none ∧ smartContractUrl ≠ "" ∧ Replies faults.contract

/-- Nothing fails once the purchase was carried out, and no commit raises that was applied. -/
structure FailsEarly (smartContractUrl : String) (faults : Faults) (payload : BuyRequest) :
    Prop where
  afterwards : Purchases smartContractUrl faults payload → Replies faults.contract ∧
    faults.assign = none ∧ faults.construct = none ∧ faults.commit = .returned
  applied : Hashed smartContractUrl faults payload → faults.assign = none →
    faults.construct = none → ∀ error, faults.commit ≠ .raised error true

section

variable (smartContractUrl hex : String) (faults : Faults) (payload : BuyRequest)

theorem proxyRequest_purchased (contract : ContractService) :
    (proxyRequest smartContractUrl contract).2 = true ↔
      smartContractUrl ≠ "" ∧ contract.purchases = true := by
  unfold proxyRequest
  split
  · rename_i none_
    exact iff_of_false Bool.false_ne_true fun asked => asked.1 none_
  · rename_i set_
    rw [and_iff_right set_]
    split
    · exact Iff.rfl
    · split
      · exact Iff.rfl
      · split <;> exact Iff.rfl

theorem proxyRequest_object (contract : ContractService) :
    (∃ txHash, (proxyRequest smartContractUrl contract).1 = .ok (.object txHash)) ↔
      smartContractUrl ≠ "" ∧ Replies contract := by
  unfold proxyRequest Replies
  split
  · rename_i none_
    exact iff_of_false (fun ⟨_, same⟩ => nomatch same) fun asked => asked.1 none_
  · rename_i set_
    rw [and_iff_right set_]
    cases contract.answer with
    | raised error =>
      exact iff_of_false (fun ⟨_, same⟩ => nomatch same) fun ⟨_, _, _, same, _⟩ => nomatch same
    | response status error body =>
      dsimp only
      split
      · rename_i failed
        refine iff_of_false (fun ⟨_, same⟩ => nomatch same) ?_
        rintro ⟨_, _, _, same, lower, upper⟩
        cases same
        omega
      · rename_i succeeded
        cases body with
        | invalid error =>
          exact iff_of_false (fun ⟨_, same⟩ => nomatch same) fun ⟨_, _, _, same, _⟩ => nomatch same
        | object txHash =>
          exact iff_of_true ⟨txHash, rfl⟩ ⟨status, error, txHash, rfl, by omega, by omega⟩
        | other error =>
          exact iff_of_false (fun ⟨_, same⟩ => nomatch same) fun ⟨_, _, _, same, _⟩ => nomatch same

theorem txHash_purchased :
    (txHash smartContractUrl hex faults payload).2 = true ↔
      Purchases smartContractUrl faults payload := by
  unfold txHash Purchases
  split
  · rename_i crypto
    rw [and_iff_right crypto]
    split
    · rename_i error fails
      exact iff_of_false Bool.false_ne_true fun asked => nomatch fails.symm.trans asked.1
    · rename_i reads
      rw [and_iff_right reads, ← proxyRequest_purchased smartContractUrl faults.contract]
      generalize proxyRequest smartContractUrl faults.contract = reply
      split <;> exact Iff.rfl
  · rename_i fiat
    exact iff_of_false Bool.false_ne_true fun asked => fiat asked.1

theorem txHash_ok :
    (∃ hash, (txHash smartContractUrl hex faults payload).1 = .ok hash) ↔
      Hashed smartContractUrl faults payload := by
  unfold txHash Hashed
  split
  · rename_i crypto
    rw [forall_prop_of_true crypto]
    split
    · rename_i error fails
      exact iff_of_false (fun ⟨_, same⟩ => nomatch same)
        fun asked => nomatch fails.symm.trans asked.1
    · rename_i reads
      rw [and_iff_right reads, ← proxyRequest_object smartContractUrl faults.contract]
      generalize proxyRequest smartContractUrl faults.contract = reply
      split <;> simp
  · rename_i fiat
    exact iff_of_true ⟨_, rfl⟩ fun crypto => absurd crypto fiat

end

theorem sell_ne (task : Task) (listing : Listing) (agent : Agent) (txHash : Option String)
    (tables : Tables) : tables.sell task listing agent txHash ≠ tables := by
  intro same
  have lengths := congrArg (fun written : Tables => written.transactions.length) same
  simp [Tables.sell] at lengths

/-- An answer 502 without a write leaves all untouched where nothing was bought. -/
theorem untouched_iff_of_failed (tables : Tables) (error : String) (purchased : Bool) :
    Untouched tables ⟨tables, .error 502 error, purchased⟩ ↔ purchased = false := by
  constructor
  · intro untouched
    exact (untouched 502 error rfl).1
  · rintro rfl _ _ _
    exact ⟨rfl, rfl⟩

/-- Where the rest fails, all depends on whether the purchase was carried out. -/
theorem failsEarly_iff_of_failed {smartContractUrl : String} {faults : Faults}
    {payload : BuyRequest}
    (failed : ¬ (Hashed smartContractUrl faults payload ∧ faults.assign = none ∧
      faults.construct = none)) :
    FailsEarly smartContractUrl faults payload ↔ ¬ Purchases smartContractUrl faults payload := by
  constructor
  · rintro early purchases
    obtain ⟨replies, assign, construct, -⟩ := early.afterwards purchases
    exact failed ⟨fun _ => ⟨purchases.2.1, purchases.2.2.1, replies⟩, assign, construct⟩
  · intro not_bought
    refine ⟨fun purchases => absurd purchases not_bought, ?_⟩
    intro hashed assign construct
    exact absurd ⟨hashed, assign, construct⟩ failed

theorem untouched_iff_of_fails {smartContractUrl : String} {faults : Faults} {payload : BuyRequest}
    {purchased : Bool} (bought : purchased = true ↔ Purchases smartContractUrl faults payload)
    (failed : ¬ (Hashed smartContractUrl faults payload ∧ faults.assign = none ∧
      faults.construct = none)) (tables : Tables) (error : String) :
    Untouched tables ⟨tables, .error 502 error, purchased⟩ ↔
      FailsEarly smartContractUrl faults payload := by
  rw [untouched_iff_of_failed, failsEarly_iff_of_failed failed, ← bought, Bool.not_eq_true]

/-- Where the commit is reached, only it can fail. -/
theorem failsEarly_iff_of_reached {smartContractUrl : String} {faults : Faults}
    {payload : BuyRequest} (hashed : Hashed smartContractUrl faults payload)
    (assign : faults.assign = none) (construct : faults.construct = none) :
    FailsEarly smartContractUrl faults payload ↔
      ∀ error applied, faults.commit = .raised error applied →
        applied = false ∧ ¬ Purchases smartContractUrl faults payload := by
  constructor
  · intro early error applied raised
    constructor
    · apply Bool.eq_false_iff.mpr
      rintro rfl
      exact early.applied hashed assign construct error raised
    · intro purchases
      cases raised.symm.trans (early.afterwards purchases).2.2.2
  · intro harmless
    constructor
    · intro purchases
      refine ⟨(hashed purchases.1).2.2, assign, construct, ?_⟩
      cases commit : faults.commit with
      | returned => rfl
      | raised error applied => exact absurd purchases (harmless error applied commit).2
    · intro _ _ _ error raised
      cases (harmless error true raised).1

/-- A purchase that is answered with an error has bought nothing and written nothing, exactly if
nothing fails once the contract service has carried it out, and no commit raises that was
applied. -/
theorem failed_purchase_untouched_iff (uuid : String → Option String)
    (smartContractUrl hex : String) (faults : Faults) (payload : BuyRequest) (user : SessionUser)
    (tables : Tables) :
    Untouched tables (buyAgent uuid smartContractUrl hex faults payload user tables) ↔
      ((∃ sale, findSale uuid faults payload tables = .ok sale) →
        FailsEarly smartContractUrl faults payload) := by
  unfold buyAgent
  cases findSale uuid faults payload tables with
  | error reason =>
    exact iff_of_true (fun _ _ _ => ⟨rfl, rfl⟩) fun ⟨_, found⟩ => nomatch found
  | ok sale =>
    rw [forall_prop_of_true ⟨sale, rfl⟩]
    have bought := txHash_purchased smartContractUrl hex faults payload
    have hashed := txHash_ok smartContractUrl hex faults payload
    generalize txHash smartContractUrl hex faults payload = answer at bought hashed
    obtain ⟨result, purchased⟩ := answer
    cases result with
    | error error =>
      refine untouched_iff_of_fails bought ?_ tables error
      rintro ⟨hash, -⟩
      obtain ⟨_, same⟩ := hashed.mpr hash
      cases same
    | ok hash =>
      dsimp only
      have isHashed := hashed.mp ⟨hash, rfl⟩
      split
      · rename_i error assign
        exact untouched_iff_of_fails bought (fun all => nomatch assign.symm.trans all.2.1) tables
          error
      · rename_i error _ construct
        exact untouched_iff_of_fails bought (fun all => nomatch construct.symm.trans all.2.2)
          tables error
      · rename_i assign construct
        rw [failsEarly_iff_of_reached isHashed assign construct]
        cases faults.commit with
        | returned => exact iff_of_true (fun _ _ same => nomatch same) fun _ _ same => nomatch same
        | raised error applied =>
          cases applied with
          | true =>
            apply iff_of_false
            · intro untouched
              exact sell_ne _ _ _ _ _ (untouched 502 error rfl).2
            · intro harmless
              cases (harmless error true rfl).1
          | false =>
            dsimp only
            rw [if_neg Bool.false_ne_true, untouched_iff_of_failed, ← Bool.not_eq_true, bought]
            constructor
            · rintro not_bought _ _ ⟨⟩
              exact ⟨rfl, not_bought⟩
            · intro harmless
              exact (harmless error false rfl).2

section Sample

/-- The seller of the listing is no text, which the column of the transaction's sender takes. -/
def flushFails : Faults where
  execute := none
  get := none
  read := none
  contract := ⟨true, .response 200 "" (.object (some "0xfeed"))⟩
  assign := none
  construct := none
  commit := .raised "invalid input for query argument: expected str, got UUID" false

def offered : Tables where
  listings := [⟨"listing-1", "agent-1", "seller-1", 2, .active, none, none⟩]
  agents := [⟨"agent-1", 7, "seller-1"⟩]
  transactions := []

/-- The agent is bought on chain, and the buyer is answered 502. -/
theorem failed_purchase_bought :
    ¬ ∀ faults payload user,
      Untouched offered (buyAgent some "http://smart-contract-integration:8000" "00" faults payload
        user offered) := by
  intro always
  have untouched := always flushFails ⟨"agent-1", "crypto", some (.finite 2)⟩
    ⟨"buyer-1", some "0xb0b"⟩
  cases (untouched 502 "invalid input for query argument: expected str, got UUID" rfl).1

end Sample

end BigX.Gateway.FailedPurchase
