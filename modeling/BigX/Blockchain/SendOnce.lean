import BigX.Blockchain.ContractClient
import BigX.Run.Attempts

set_option autoImplicit false

/- How often one `send` reaches the node. The loop tries again after every failure that is
not final, and a receipt that does not come in time is one of them. -/
namespace BigX.Blockchain

open Pipeline (CircuitBreaker)
open Run (hitCount Made hitCount_le_one_iff)

variable {Args : Type}

/-- The attempt's transaction reaches the node, once the breaker lets it through. It needs a
transaction count only where no nonce is known. -/
def Faults.submits (numbered : Bool) (faults : Faults) : Bool :=
  faults.provider.isOk && faults.prepared.isOk && (numbered || faults.count.isOk) &&
    faults.feeHistory.isOk && faults.built.isOk && faults.signed.isOk &&
    (faults.broadcast.isOk || faults.reached)

/-- The broadcast returns and the receipt comes, whatever it says. -/
def Faults.answered (numbered : Bool) (faults : Faults) : Bool :=
  faults.submits numbered && faults.broadcast.isOk && faults.receipt.isOk

section Schedule

variable (schedule : Nat → Faults) (client : Client)

/-- The breaker after so many attempts that were let through and failed. -/
def breakerAfter : Nat → CircuitBreaker
  | 0 => client.circuit
  | attempts + 1 =>
      ((breakerAfter attempts).allow (schedule (attempts + 1)).asked).2.recordFailure
        (schedule (attempts + 1)).failedAt

/-- A nonce is known after so many attempts. -/
def numberedAfter : Nat → Bool
  | 0 => client.nonce.isSome
  | attempts + 1 => numberedAfter attempts ||
      ((schedule (attempts + 1)).prepared.isOk && (schedule (attempts + 1)).count.isOk)

/-- The next attempt is let through. -/
def admitted (attempts : Nat) : Bool :=
  ((breakerAfter schedule client attempts).allow (schedule (attempts + 1)).asked).1

/-- The next attempt's transaction reaches the node. -/
def reachesNode (attempts : Nat) : Bool :=
  admitted schedule client attempts &&
    (schedule (attempts + 1)).submits (numberedAfter schedule client attempts)

/-- The next attempt is let through to a provider and goes unanswered. -/
def goesUnanswered (attempts : Nat) : Bool :=
  admitted schedule client attempts && (schedule (attempts + 1)).provider.isOk &&
    !(schedule (attempts + 1)).answered (numberedAfter schedule client attempts)

/-- An attempt's transaction reaches the node and goes unanswered, and so does every other
attempt up to one whose transaction reaches the node too. -/
def SubmitsTwice (maxRetries : Nat) : Prop :=
  ∃ first second, first < second ∧ second < maxRetries ∧
    reachesNode schedule client first = true ∧ reachesNode schedule client second = true ∧
    ∀ earlier < second, goesUnanswered schedule client earlier = true

end Schedule

/-- The loop makes another attempt after this end. -/
def retried (result : Except Error SendResult) : Bool :=
  match result with
  | .ok _ => false
  | .error exc => !exc.final

theorem estimate_isOk (settings : Settings) (faults : Faults) (fallbackGasLimit : Nat) :
    (settings.estimate faults fallbackGasLimit).isOk = faults.feeHistory.isOk := by
  unfold Settings.estimate
  cases faults.feeHistory <;> rfl

theorem submit_spec (settings : Settings) (request : Request Args) (faults : Faults)
    (nonce : Nat) :
    (settings.submit request faults nonce).1.isSome =
        (faults.feeHistory.isOk && faults.built.isOk && faults.signed.isOk &&
          (faults.broadcast.isOk || faults.reached)) ∧
      retried (settings.submit request faults nonce).2 =
        !(faults.feeHistory.isOk && faults.built.isOk && faults.signed.isOk &&
          faults.broadcast.isOk && faults.receipt.isOk) := by
  have estimated := estimate_isOk settings faults (settings.fallbackGasLimit request)
  unfold Settings.submit
  rw [← estimated]
  cases settings.estimate faults (settings.fallbackGasLimit request) with
  | error text => exact ⟨rfl, rfl⟩
  | ok estimate =>
    cases faults.built with
    | error text => exact ⟨rfl, rfl⟩
    | ok built =>
      cases faults.signed with
      | error text => exact ⟨rfl, rfl⟩
      | ok signed =>
        cases faults.broadcast with
        | error text => cases faults.reached <;> exact ⟨rfl, rfl⟩
        | ok txHash =>
          cases faults.receipt with
          | error text => exact ⟨rfl, rfl⟩
          | ok receipt =>
            dsimp only
            split <;> exact ⟨rfl, rfl⟩

theorem getAndIncrement_spec (count : Except String Nat) (client : Client) :
    (client.getAndIncrement count).1.isOk = (client.nonce.isSome || count.isOk) ∧
      (client.getAndIncrement count).2.circuit = client.circuit ∧
      (client.getAndIncrement count).2.nonce.isSome = (client.nonce.isSome || count.isOk) := by
  unfold Client.getAndIncrement
  cases known : client.nonce with
  | some nonce => exact ⟨rfl, rfl, rfl⟩
  | none =>
    cases count with
    | error text => exact ⟨rfl, rfl, congrArg Option.isSome known⟩
    | ok nonce => exact ⟨rfl, rfl, rfl⟩

/-- What one attempt does, by what happens outside during it. -/
theorem sendOnce_spec (settings : Settings) (request : Request Args) (faults : Faults)
    (client : Client) :
    (settings.sendOnce request faults client).broadcast.isSome =
        ((client.circuit.allow faults.asked).1 && faults.submits client.nonce.isSome) ∧
      retried (settings.sendOnce request faults client).result =
        ((client.circuit.allow faults.asked).1 && faults.provider.isOk &&
          !faults.answered client.nonce.isSome) ∧
      (retried (settings.sendOnce request faults client).result = true →
        (settings.sendOnce request faults client).client.circuit =
            (client.circuit.allow faults.asked).2 ∧
          (settings.sendOnce request faults client).client.nonce.isSome =
            (client.nonce.isSome || (faults.prepared.isOk && faults.count.isOk))) := by
  unfold Settings.sendOnce Faults.answered Faults.submits
  dsimp only
  cases admission : (client.circuit.allow faults.asked).1 with
  | false =>
    rw [if_pos rfl]
    exact ⟨rfl, rfl, fun again => absurd again Bool.false_ne_true⟩
  | true =>
    rw [if_neg (fun impossible => Bool.noConfusion impossible)]
    cases faults.provider with
    | error text => exact ⟨rfl, rfl, fun again => absurd again Bool.false_ne_true⟩
    | ok found =>
      cases faults.prepared with
      | error text => exact ⟨rfl, rfl, fun _ => ⟨rfl, (Bool.or_false _).symm⟩⟩
      | ok ready =>
        have numbered := getAndIncrement_spec faults.count
          { client with circuit := (client.circuit.allow faults.asked).2 }
        dsimp only at numbered ⊢
        rw [← numbered.1]
        generalize Client.getAndIncrement faults.count
          { client with circuit := (client.circuit.allow faults.asked).2 } = counted at numbered ⊢
        rcases counted with ⟨nonce, kept⟩
        cases nonce with
        | error text => exact ⟨rfl, rfl, fun _ => ⟨numbered.2.1, numbered.2.2⟩⟩
        | ok nonce =>
          have submitted := submit_spec settings request faults nonce
          refine ⟨submitted.1, ?_, fun _ => ⟨numbered.2.1, numbered.2.2⟩⟩
          refine submitted.2.trans ?_
          generalize faults.feeHistory.isOk = priced, faults.built.isOk = built,
            faults.signed.isOk = signed, faults.broadcast.isOk = sent, faults.receipt.isOk = came
          cases sent
          · simp only [Bool.and_false, Bool.false_and, Bool.not_false]
            rfl
          · simp only [Bool.true_or, Bool.and_true]
            rfl

/-- The transactions of the loop are the hits of its attempts. What an attempt finds, the
breaker and whether a nonce is known, is settled by the attempts before it. -/
theorem sendLoop_broadcasts (settings : Settings) (request : Request Args)
    (schedule : Nat → Faults) (start : Client) (attempts remaining : Nat) (lastError : String)
    (client : Client) (breaker : client.circuit = breakerAfter schedule start attempts)
    (numbered : client.nonce.isSome = numberedAfter schedule start attempts) :
    (settings.sendLoop request schedule (attempts + 1) remaining lastError
        client).broadcasts.length =
      hitCount (reachesNode schedule start) (goesUnanswered schedule start) attempts
        remaining := by
  induction remaining generalizing attempts lastError client with
  | zero => rfl
  | succ remaining ih =>
    have spec := sendOnce_spec settings request (schedule (attempts + 1)) client
    rw [breaker, numbered] at spec
    have reached : (settings.sendOnce request (schedule (attempts + 1)) client).broadcast.isSome
        = reachesNode schedule start attempts := spec.1
    have unanswered : retried (settings.sendOnce request (schedule (attempts + 1)) client).result
        = goesUnanswered schedule start attempts := spec.2.1
    have kept := spec.2.2
    unfold Settings.sendLoop hitCount
    dsimp only
    rw [← reached, ← unanswered, ← Option.length_toList]
    cases ending : (settings.sendOnce request (schedule (attempts + 1)) client).result with
    | ok result => rfl
    | error exc =>
      dsimp only
      rw [ending] at kept
      by_cases leaves : exc.final = true
      · rw [if_pos leaves, retried, leaves]
        rfl
      · have again : retried (.error exc) = true := by
          rw [retried, Bool.eq_false_iff.mpr leaves]
          rfl
        rw [if_neg leaves, again, if_pos rfl]
        dsimp only
        rw [List.length_append, ih]
        · rw [(kept again).1]
          rfl
        · exact (kept again).2

/-- One `send` leads to one transaction at most, unless two of its attempts reach the node
and the loop goes from the first to the second. -/
theorem send_broadcasts_once_iff (settings : Settings) (request : Request Args)
    (schedule : Nat → Faults) (client : Client) :
    (settings.send request schedule client).broadcasts.length ≤ 1 ↔
      ¬ SubmitsTwice schedule client settings.maxRetries := by
  have counted := sendLoop_broadcasts settings request schedule client 0 settings.maxRetries
    "None" client rfl rfl
  unfold Settings.send
  rw [counted, hitCount_le_one_iff, not_iff_not]
  constructor
  · rintro ⟨first, second, -, between, upper, reached, again, made⟩
    exact ⟨first, second, between, by omega, reached, again,
      fun earlier before => made earlier (Nat.zero_le earlier) before⟩
  · rintro ⟨first, second, between, upper, reached, again, unanswered⟩
    exact ⟨first, second, Nat.zero_le first, between, by omega, reached, again,
      fun earlier _ before => unanswered earlier before⟩

/-- No receipt comes for the first transaction; the second attempt's gets one. -/
def receiptTimesOut : Nat → Faults := fun attempt =>
  { asked := 0
    provider := .ok ()
    providerFailedAt := 0
    prepared := .ok ()
    count := .ok 7
    estimateGas := .ok 100000
    feeHistory := .ok ⟨1000000000, []⟩
    built := .ok ()
    signed := .ok ()
    broadcast := .ok "0xab"
    reached := true
    receipt := if attempt = 1 then .error "not in the chain after 120 seconds"
      else .ok ⟨1, 90000, 50⟩
    failedAt := 120 }

def agentNft : Settings := ⟨"AgentNFT", "bsc", "0x01", 500000, 3, fun gas => gas * 6 / 5⟩

def mintRequest : Request String := ⟨"mint", "0x02", 0, none⟩

/-- The mint is broadcast twice, under two nonces, and reported once. -/
theorem send_broadcasts_once_timedOut :
    let sent := agentNft.send mintRequest receiptTimesOut ⟨.new, none⟩
    (¬ sent.broadcasts.length ≤ 1) ∧ sent.broadcasts.map (·.nonce) = [7, 8] ∧
      sent.broadcasts.map (·.functionName) = ["mint", "mint"] ∧
      sent.broadcasts.map (·.args) = ["0x02", "0x02"] := by
  decide

theorem submit_requested (settings : Settings) (request : Request Args) (faults : Faults)
    (nonce : Nat) {tx : Transaction Args}
    (reached : (settings.submit request faults nonce).1 = some tx) :
    tx.functionName = request.functionName ∧ tx.args = request.args ∧ tx.nonce = nonce := by
  unfold Settings.submit at reached
  split at reached
  · cases reached
  · split at reached
    · cases reached
    · dsimp only at reached
      split at reached
      · cases reached
      · split at reached
        · split at reached
          · cases reached
            exact ⟨rfl, rfl, rfl⟩
          · cases reached
        · split at reached
          · cases reached
            exact ⟨rfl, rfl, rfl⟩
          · split at reached
            · cases reached
              exact ⟨rfl, rfl, rfl⟩
            · cases reached
              exact ⟨rfl, rfl, rfl⟩

theorem getAndIncrement_ok {count : Except String Nat} {client : Client} {nonce : Nat}
    (numbered : (client.getAndIncrement count).1 = .ok nonce) :
    (client.getAndIncrement count).2.nonce = some (nonce + 1) ∧
      ∀ known, client.nonce = some known → known = nonce := by
  unfold Client.getAndIncrement at numbered ⊢
  cases found : client.nonce with
  | some known =>
    rw [found] at numbered
    cases numbered
    exact ⟨rfl, fun _ same => (Option.some.inj same).symm⟩
  | none =>
    rw [found] at numbered
    cases count with
    | error text => cases numbered
    | ok chainCount =>
      cases numbered
      exact ⟨rfl, fun _ known => nomatch known⟩

theorem getAndIncrement_error {count : Except String Nat} {client : Client} {text : String}
    (failed : (client.getAndIncrement count).1 = .error text) :
    (client.getAndIncrement count).2.nonce = client.nonce := by
  unfold Client.getAndIncrement at failed ⊢
  cases found : client.nonce with
  | some known =>
    rw [found] at failed
    cases failed
  | none =>
    rw [found] at failed
    cases count with
    | error text => exact found
    | ok chainCount => cases failed

/-- An attempt either leaves the nonce alone and broadcasts nothing, or uses up the next
nonce for what it broadcasts. -/
theorem sendOnce_cases (settings : Settings) (request : Request Args) (faults : Faults)
    (client : Client) :
    ((settings.sendOnce request faults client).broadcast = none ∧
        (settings.sendOnce request faults client).client.nonce = client.nonce) ∨
      ∃ nonce, (settings.sendOnce request faults client).broadcast =
            (settings.submit request faults nonce).1 ∧
          (settings.sendOnce request faults client).client.nonce = some (nonce + 1) ∧
          ∀ known, client.nonce = some known → known = nonce := by
  unfold Settings.sendOnce
  dsimp only
  split
  · exact .inl ⟨rfl, rfl⟩
  · split
    · exact .inl ⟨rfl, rfl⟩
    · split
      · exact .inl ⟨rfl, rfl⟩
      · split
        · rename_i text kept failed
          refine .inl ⟨rfl, ?_⟩
          have unchanged := getAndIncrement_error (congrArg Prod.fst failed)
          rwa [failed] at unchanged
        · rename_i nonce kept numbered
          have counted := getAndIncrement_ok (congrArg Prod.fst numbered)
          rw [numbered] at counted
          exact .inr ⟨nonce, rfl, counted⟩

/-- Whatever the loop broadcasts is the requested call, each time under a higher nonce: no
transaction of one `send` replaces another. -/
theorem sendLoop_requested (settings : Settings) (request : Request Args)
    (schedule : Nat → Faults) (attempt remaining : Nat) (lastError : String) (client : Client) :
    (∀ tx ∈ (settings.sendLoop request schedule attempt remaining lastError client).broadcasts,
        (tx.functionName = request.functionName ∧ tx.args = request.args) ∧
          ∀ known, client.nonce = some known → known ≤ tx.nonce) ∧
      (settings.sendLoop request schedule attempt remaining lastError
        client).broadcasts.Pairwise (fun earlier later => earlier.nonce < later.nonce) := by
  induction remaining generalizing attempt lastError client with
  | zero => exact ⟨fun tx member => absurd member List.not_mem_nil, List.Pairwise.nil⟩
  | succ remaining ih =>
    have first : ∀ tx ∈ (settings.sendOnce request (schedule attempt) client).broadcast.toList,
        (tx.functionName = request.functionName ∧ tx.args = request.args) ∧
          (settings.sendOnce request (schedule attempt) client).client.nonce =
            some (tx.nonce + 1) ∧
          ∀ known, client.nonce = some known → known ≤ tx.nonce := by
      intro tx member
      rw [Option.mem_toList] at member
      rcases sendOnce_cases settings request (schedule attempt) client with
        ⟨nothing, -⟩ | ⟨nonce, submitted, advanced, used⟩
      · rw [nothing] at member
        cases member
      · have requested := submit_requested settings request (schedule attempt) nonce
          (submitted ▸ member)
        rw [requested.2.2]
        exact ⟨⟨requested.1, requested.2.1⟩, advanced,
          fun known found => Nat.le_of_eq (used known found)⟩
    have alone : (settings.sendOnce request (schedule attempt) client).broadcast.toList.Pairwise
        (fun earlier later => earlier.nonce < later.nonce) := by
      cases (settings.sendOnce request (schedule attempt) client).broadcast with
      | none => exact List.Pairwise.nil
      | some tx => exact List.pairwise_singleton _ tx
    unfold Settings.sendLoop
    dsimp only
    split
    · exact ⟨fun tx member => ⟨(first tx member).1, (first tx member).2.2⟩, alone⟩
    · rename_i exc ending
      split
      · exact ⟨fun tx member => ⟨(first tx member).1, (first tx member).2.2⟩, alone⟩
      · have rest := ih (attempt + 1) exc.text
          { (settings.sendOnce request (schedule attempt) client).client with
            circuit := (settings.sendOnce request (schedule attempt)
              client).client.circuit.recordFailure (schedule attempt).failedAt }
        constructor
        · intro tx member
          rcases List.mem_append.mp member with mine | later
          · exact ⟨(first tx mine).1, (first tx mine).2.2⟩
          · refine ⟨(rest.1 tx later).1, ?_⟩
            intro known found
            rcases sendOnce_cases settings request (schedule attempt) client with
              ⟨-, same⟩ | ⟨nonce, -, advanced, used⟩
            · exact (rest.1 tx later).2 known (same.trans found)
            · have bound := (rest.1 tx later).2 (nonce + 1) advanced
              rw [used known found]
              omega
        · rw [List.pairwise_append]
          refine ⟨alone, rest.2, ?_⟩
          intro earlier mine later member
          exact (rest.1 later member).2 (earlier.nonce + 1) (first earlier mine).2.1

/-- One `send` broadcasts nothing but the requested call, under nonces that go up. -/
theorem send_requested (settings : Settings) (request : Request Args)
    (schedule : Nat → Faults) (client : Client) :
    (∀ tx ∈ (settings.send request schedule client).broadcasts,
        tx.functionName = request.functionName ∧ tx.args = request.args) ∧
      (settings.send request schedule client).broadcasts.Pairwise
        (fun earlier later => earlier.nonce < later.nonce) := by
  have looped := sendLoop_requested settings request schedule 1 settings.maxRetries "None" client
  exact ⟨fun tx member => (looped.1 tx member).1, looped.2⟩

end BigX.Blockchain
