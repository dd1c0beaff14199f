import BigX.Blockchain.SendOnce

set_option autoImplicit false

/- The nonces that one signer uses up. The counter moves on when a nonce is handed out, and
four steps that may fail lie between that and the broadcast. -/
namespace BigX.Blockchain

open Pipeline (CircuitBreaker)

variable {Args : Type}

/-- One attempt of `send`, with what the client was before it. -/
structure Attempted (Args : Type) where
  settings : Settings
  request : Request Args
  faults : Faults
  before : Client

/-- What the attempt comes to. -/
def Attempted.once (attempt : Attempted Args) : Once Args :=
  attempt.settings.sendOnce attempt.request attempt.faults attempt.before

/-- The attempts that the loop of `send` makes, `remaining` of them at most. -/
def Settings.sendAttempts (settings : Settings) (request : Request Args)
    (schedule : Nat → Faults) : (attempt remaining : Nat) → Client → List (Attempted Args)
  | _, 0, _ => []
  | attempt, remaining + 1, client =>
      let once := settings.sendOnce request (schedule attempt) client
      ⟨settings, request, schedule attempt, client⟩ ::
        match once.result with
        | .ok _ => []
        | .error exc =>
            if exc.final = true then []
            else settings.sendAttempts request schedule (attempt + 1) remaining
              { once.client with
                circuit := once.client.circuit.recordFailure (schedule attempt).failedAt }

/-- What one signer's clients keep: a breaker each, and the nonce counter that they share. -/
structure Signer where
  circuits : Nat → CircuitBreaker
  nonce : Option Nat

/-- A `send` of one of the clients. -/
structure Call (Args : Type) where
  client : Nat
  settings : Settings
  request : Request Args
  schedule : Nat → Faults

def Signer.client (signer : Signer) (call : Call Args) : Client :=
  ⟨signer.circuits call.client, signer.nonce⟩

/-- The signer after a `send`. -/
def Signer.send (signer : Signer) (call : Call Args) : Signer :=
  let sent := call.settings.send call.request call.schedule (signer.client call)
  ⟨Function.update signer.circuits call.client sent.client.circuit, sent.client.nonce⟩

/-- The attempts of a sequence of calls. -/
def Signer.attempts (signer : Signer) : List (Call Args) → List (Attempted Args)
  | [] => []
  | call :: rest =>
      call.settings.sendAttempts call.request call.schedule 1 call.settings.maxRetries
          (signer.client call) ++
        (signer.send call).attempts rest

/-- The transactions that the attempts bring to the node. -/
def broadcasts (attempts : List (Attempted Args)) : List (Transaction Args) :=
  attempts.flatMap fun attempt => attempt.once.broadcast.toList

/-- An attempt without a transaction leaves the counter as it was. -/
def Attempted.KeepsNonce (attempt : Attempted Args) : Prop :=
  attempt.once.broadcast = none → attempt.once.client.nonce = attempt.before.nonce

instance (attempt : Attempted Args) : Decidable attempt.KeepsNonce :=
  inferInstanceAs (Decidable (attempt.once.broadcast = none →
    attempt.once.client.nonce = attempt.before.nonce))

/-- The attempt comes to ask for a nonce. -/
def Attempted.asks (attempt : Attempted Args) : Bool :=
  (attempt.before.circuit.allow attempt.faults.asked).1 && attempt.faults.provider.isOk &&
    attempt.faults.prepared.isOk

/-- The attempt is handed a nonce. -/
def Attempted.takesNonce (attempt : Attempted Args) : Bool :=
  attempt.asks && (attempt.before.nonce.isSome || attempt.faults.count.isOk)

/-- Nothing fails from the gas estimate to the broadcast. -/
def Faults.reachesNode (faults : Faults) : Bool :=
  faults.feeHistory.isOk && faults.built.isOk && faults.signed.isOk &&
    (faults.broadcast.isOk || faults.reached)

/-- A nonce that is handed out is used. -/
def Attempted.UsesNonce (attempt : Attempted Args) : Prop :=
  attempt.takesNonce = true → attempt.faults.reachesNode = true

/-- The count that the node reports to the first attempt that asks it with success. -/
def firstReported : List (Attempted Args) → Option Nat
  | [] => none
  | attempt :: rest =>
      if attempt.asks = true ∧ attempt.before.nonce = none then
        match attempt.faults.count with
        | .ok count => some count
        | .error _ => firstReported rest
      else firstReported rest

def nonces (attempts : List (Attempted Args)) : List Nat :=
  (broadcasts attempts).map Transaction.nonce

/-- The nonces at the node are consecutive from the first one it reported. -/
def Consecutive (attempts : List (Attempted Args)) : Prop :=
  nonces attempts = [] ∨ ∃ first ∈ firstReported attempts,
    nonces attempts = List.range' first (nonces attempts).length

instance (attempts : List (Attempted Args)) : Decidable (Consecutive attempts) :=
  inferInstanceAs (Decidable (nonces attempts = [] ∨ ∃ first ∈ firstReported attempts,
    nonces attempts = List.range' first (nonces attempts).length))

/-- An attempt that is handed no nonce does nothing; one that is uses up the next one. -/
theorem once_cases (attempt : Attempted Args) :
    (attempt.takesNonce = false ∧ attempt.once.broadcast = none ∧
        attempt.once.client.nonce = attempt.before.nonce) ∨
      attempt.takesNonce = true ∧ ∃ nonce,
        attempt.once.broadcast =
            (attempt.settings.submit attempt.request attempt.faults nonce).1 ∧
          attempt.once.client.nonce = some (nonce + 1) ∧
          (attempt.before.nonce = some nonce ∨
            attempt.before.nonce = none ∧ attempt.faults.count = .ok nonce) := by
  obtain ⟨settings, request, faults, client⟩ := attempt
  unfold Attempted.takesNonce Attempted.asks Attempted.once Settings.sendOnce
  dsimp only
  cases (client.circuit.allow faults.asked).1 with
  | false => exact .inl ⟨rfl, rfl, rfl⟩
  | true =>
    rw [if_neg (fun impossible => Bool.noConfusion impossible)]
    cases faults.provider with
    | error text => exact .inl ⟨rfl, rfl, rfl⟩
    | ok found =>
      cases faults.prepared with
      | error text => exact .inl ⟨rfl, rfl, rfl⟩
      | ok ready =>
        unfold Client.getAndIncrement
        cases known : client.nonce with
        | some nonce => exact .inr ⟨rfl, nonce, rfl, rfl, .inl rfl⟩
        | none =>
          cases counted : faults.count with
          | error text => exact .inl ⟨rfl, rfl, rfl⟩
          | ok count => exact .inr ⟨rfl, count, rfl, rfl, .inr ⟨rfl, rfl⟩⟩

theorem keepsNonce_iff (attempt : Attempted Args) : attempt.KeepsNonce ↔ attempt.UsesNonce := by
  unfold Attempted.KeepsNonce Attempted.UsesNonce
  rcases once_cases attempt with ⟨untaken, -, same⟩ | ⟨taken, nonce, submitted, advanced, known⟩
  · rw [untaken]
    exact iff_of_true (fun _ => same) nofun
  · have reaches := (submit_spec attempt.settings attempt.request attempt.faults nonce).1
    rw [submitted, advanced, taken, eq_self, true_imp_iff]
    unfold Faults.reachesNode
    rw [← reaches]
    constructor
    · intro keeps
      by_contra lost
      have moved := keeps (Option.not_isSome_iff_eq_none.mp lost)
      rcases known with known | ⟨known, -⟩ <;> simp [known] at moved
    · intro reached nothing
      rw [nothing] at reached
      cases reached

/-- Attempts that follow one another, from one value of the counter to another. -/
def Linked : Option Nat → List (Attempted Args) → Option Nat → Prop
  | first, [], last => first = last
  | first, attempt :: rest, last =>
      attempt.before.nonce = first ∧ Linked attempt.once.client.nonce rest last

theorem Linked.append {first middle last : Option Nat} {earlier later : List (Attempted Args)}
    (linked : Linked first earlier middle) (onward : Linked middle later last) :
    Linked first (earlier ++ later) last := by
  induction earlier generalizing first with
  | nil =>
    obtain rfl : first = middle := linked
    exact onward
  | cons attempt rest ih => exact ⟨linked.1, ih linked.2⟩

theorem sendAttempts_linked (settings : Settings) (request : Request Args)
    (schedule : Nat → Faults) (attempt remaining : Nat) (lastError : String) (client : Client) :
    Linked client.nonce (settings.sendAttempts request schedule attempt remaining client)
      (settings.sendLoop request schedule attempt remaining lastError client).client.nonce := by
  induction remaining generalizing attempt lastError client with
  | zero => rfl
  | succ remaining ih =>
    unfold Settings.sendAttempts Settings.sendLoop
    refine ⟨rfl, ?_⟩
    unfold Attempted.once
    dsimp only
    cases (settings.sendOnce request (schedule attempt) client).result with
    | ok result => rfl
    | error exc =>
      dsimp only
      split
      · rfl
      · exact ih (attempt + 1) exc.text
          { (settings.sendOnce request (schedule attempt) client).client with
            circuit := (settings.sendOnce request (schedule attempt)
              client).client.circuit.recordFailure (schedule attempt).failedAt }

/-- The loop broadcasts what its attempts broadcast. -/
theorem broadcasts_sendAttempts (settings : Settings) (request : Request Args)
    (schedule : Nat → Faults) (attempt remaining : Nat) (lastError : String) (client : Client) :
    broadcasts (settings.sendAttempts request schedule attempt remaining client) =
      (settings.sendLoop request schedule attempt remaining lastError client).broadcasts := by
  induction remaining generalizing attempt lastError client with
  | zero => rfl
  | succ remaining ih =>
    unfold Settings.sendAttempts Settings.sendLoop broadcasts
    rw [List.flatMap_cons]
    unfold Attempted.once
    dsimp only
    cases (settings.sendOnce request (schedule attempt) client).result with
    | ok result => simp
    | error exc =>
      dsimp only
      split
      · simp
      · exact congrArg _ (ih (attempt + 1) exc.text _)

/-- What a sequence of `send` calls broadcasts. -/
def Signer.sent (signer : Signer) : List (Call Args) → List (Transaction Args)
  | [] => []
  | call :: rest =>
      (call.settings.send call.request call.schedule (signer.client call)).broadcasts ++
        (signer.send call).sent rest

theorem broadcasts_attempts (signer : Signer) (calls : List (Call Args)) :
    broadcasts (signer.attempts calls) = signer.sent calls := by
  induction calls generalizing signer with
  | nil => rfl
  | cons call rest ih =>
    have sent := broadcasts_sendAttempts call.settings call.request call.schedule 1
      call.settings.maxRetries "None" (signer.client call)
    unfold Signer.attempts Signer.sent Settings.send
    rw [← sent, ← ih (signer.send call)]
    exact List.flatMap_append

theorem attempts_linked (signer : Signer) (calls : List (Call Args)) :
    Linked signer.nonce (signer.attempts calls) (calls.foldl Signer.send signer).nonce := by
  induction calls generalizing signer with
  | nil => rfl
  | cons call rest ih =>
    have sent := sendAttempts_linked call.settings call.request call.schedule 1
      call.settings.maxRetries "None" (signer.client call)
    exact Linked.append sent (ih (signer.send call))

/-- A nonce that is handed out and used is the one of the attempt's transaction. -/
theorem Attempted.UsesNonce.once {attempt : Attempted Args} (used : attempt.UsesNonce) :
    (attempt.takesNonce = false ∧ attempt.once.broadcast = none ∧
        attempt.once.client.nonce = attempt.before.nonce) ∨
      ∃ tx, attempt.once.broadcast = some tx ∧
        attempt.once.client.nonce = some (tx.nonce + 1) ∧
        (attempt.before.nonce = some tx.nonce ∨
          attempt.asks = true ∧ attempt.before.nonce = none ∧
            attempt.faults.count = .ok tx.nonce) := by
  rcases once_cases attempt with untaken | ⟨taken, nonce, submitted, advanced, known⟩
  · exact .inl untaken
  · have reaches := (submit_spec attempt.settings attempt.request attempt.faults nonce).1
    obtain ⟨tx, sent⟩ := Option.isSome_iff_exists.mp (reaches.trans (used taken))
    obtain rfl := (submit_requested attempt.settings attempt.request attempt.faults nonce
      sent).2.2
    refine .inr ⟨tx, submitted.trans sent, advanced, ?_⟩
    rcases known with known | ⟨unknown, counted⟩
    · exact .inl known
    · exact .inr ⟨(Bool.and_eq_true_iff.mp taken).1, unknown, counted⟩

theorem nonces_cons (attempt : Attempted Args) (rest : List (Attempted Args)) :
    nonces (attempt :: rest) =
      attempt.once.broadcast.toList.map Transaction.nonce ++ nonces rest := by
  unfold nonces broadcasts
  rw [List.flatMap_cons, List.map_append]

/-- Once a nonce is known, attempts that use what they are handed use up a stretch of nonces. -/
theorem nonces_from {known : Nat} {attempts : List (Attempted Args)} {last : Option Nat}
    (linked : Linked (some known) attempts last)
    (used : ∀ attempt ∈ attempts, attempt.UsesNonce) :
    nonces attempts = List.range' known (nonces attempts).length := by
  induction attempts generalizing known with
  | nil => rfl
  | cons attempt rest ih =>
    obtain ⟨before, onward⟩ := linked
    have later := fun other member => used other (List.mem_cons_of_mem attempt member)
    rw [nonces_cons]
    rcases (used attempt List.mem_cons_self).once with
      ⟨-, nothing, same⟩ | ⟨tx, sent, advanced, numbered⟩
    · rw [same, before] at onward
      rw [nothing]
      exact ih onward later
    · rw [advanced] at onward
      rw [before] at numbered
      obtain same | ⟨-, impossible, -⟩ := numbered
      · cases same
        rw [sent]
        exact congrArg _ (ih onward later)
      · cases impossible

/-- Attempts that use what they are handed use up consecutive nonces. -/
theorem used_consecutive {attempts : List (Attempted Args)} {last : Option Nat}
    (linked : Linked none attempts last) (used : ∀ attempt ∈ attempts, attempt.UsesNonce) :
    Consecutive attempts := by
  induction attempts with
  | nil => exact .inl rfl
  | cons attempt rest ih =>
    obtain ⟨before, onward⟩ := linked
    have later := fun other member => used other (List.mem_cons_of_mem attempt member)
    unfold Consecutive firstReported
    rw [nonces_cons]
    rcases (used attempt List.mem_cons_self).once with
      ⟨untaken, nothing, same⟩ | ⟨tx, sent, advanced, numbered⟩
    · rw [same, before] at onward
      have skipped : (if attempt.asks = true ∧ attempt.before.nonce = none then
          match attempt.faults.count with
          | .ok count => some count
          | .error _ => firstReported rest
        else firstReported rest) = firstReported rest := by
        split
        · rename_i asked
          cases counted : attempt.faults.count with
          | error text => rfl
          | ok count =>
            unfold Attempted.takesNonce at untaken
            rw [asked.1, counted] at untaken
            simp [Except.isOk, Except.toBool] at untaken
        · rfl
      rw [nothing, skipped]
      exact ih onward later
    · rw [advanced] at onward
      rw [before] at numbered
      obtain impossible | ⟨asked, -, counted⟩ := numbered
      · cases impossible
      · refine .inr ⟨tx.nonce, ?_, ?_⟩
        · rw [if_pos ⟨asked, before⟩, counted]
          rfl
        · rw [sent]
          exact congrArg _ (nonces_from onward later)

/-- In a sequence of calls by one signer, each attempt without a transaction leaves the counter as
it was and the nonces at the node are consecutive, exactly if every nonce that is handed out is
used. -/
theorem nonces_gapless_iff (circuits : Nat → CircuitBreaker) (calls : List (Call Args)) :
    ((∀ attempt ∈ Signer.attempts ⟨circuits, none⟩ calls, attempt.KeepsNonce) ∧
        Consecutive (Signer.attempts ⟨circuits, none⟩ calls)) ↔
      ∀ attempt ∈ Signer.attempts ⟨circuits, none⟩ calls, attempt.UsesNonce := by
  constructor
  · rintro ⟨kept, -⟩ attempt member
    exact (keepsNonce_iff attempt).mp (kept attempt member)
  · intro used
    refine ⟨?_, used_consecutive (attempts_linked ⟨circuits, none⟩ calls) used⟩
    intro attempt member
    exact (keepsNonce_iff attempt).mpr (used attempt member)

/-- The fee history cannot be read at the first attempt. -/
def feesFail : Nat → Faults := fun attempt =>
  { receiptTimesOut 2 with
    feeHistory := if attempt = 1 then .error "connection reset" else .ok ⟨1000000000, []⟩ }

/-- The node reports 7 and sees 8: nothing that comes later can be mined. -/
theorem nonces_gapped :
    let attempts := Signer.attempts ⟨fun _ => .new, none⟩ [⟨0, agentNft, mintRequest, feesFail⟩]
    firstReported attempts = some 7 ∧ nonces attempts = [8] ∧
      (¬ Consecutive attempts) ∧ ¬ ∀ attempt ∈ attempts, attempt.KeepsNonce := by
  decide

end BigX.Blockchain
