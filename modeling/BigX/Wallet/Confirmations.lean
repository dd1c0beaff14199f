import BigX.Run.Trace

set_option autoImplicit false

/- The confirmation worker over a chain without reorganisations. Each call to the node and to
the transaction manager is a step of its own, and what any of them raises drops the
transaction: also what web3 raises for one that is not mined yet. -/
namespace BigX.Wallet.Confirmations

open Run

structure Receipt where
  blockNumber : Nat
  succeeded : Bool
  deriving DecidableEq

/-- Where each transaction is mined, if it ever is. -/
structure History where
  mined : String → Option Receipt

/-- The worker's settings. -/
structure Worker where
  requiredConf : Int

inductive Point
  | asleep
  | gettingReceipt (txHash : String) (rest : List String)
  | countingBlocks (txHash : String) (receipt : Receipt) (rest : List String)
  | marking (txHash : String) (receipt : Receipt) (rest : List String)
  | dropping (rest : List String)

/-- The node's height and mempool, and where the worker is. -/
structure State where
  height : Nat
  mempool : List String
  point : Point

/-- A call of the transaction manager. -/
inductive Call
  | markFinalized (txHash : String)
  | updateConfirmations (txHash : String)
  | markDropped (txHash : String)

/-- A transaction enters or leaves the mempool, or a block is appended; the worker wakes to
what `get_pending` gives it, or goes on after a call that returns or raises. -/
inductive Move
  | submitted (txHash : String)
  | evicted (txHash : String)
  | appended
  | polled (pending : Except String (List String))
  | stepped (raised : Bool)

inductive Impossible
  | impossible

/-- The receipt, once the transaction is mined; web3 raises `TransactionNotFound` before. -/
def History.getTransactionReceipt (history : History) (height : Nat) (txHash : String) :
    Option Receipt :=
  (history.mined txHash).filter fun receipt => receipt.blockNumber ≤ height

/-- `self.w3.eth.block_number - receipt.blockNumber + 1` -/
def confirmations (height : Nat) (receipt : Receipt) : Int :=
  height - receipt.blockNumber + 1

/-- The next transaction of the list, or the sleep after the last one. -/
def next : List String → Point
  | [] => .asleep
  | txHash :: rest => .gettingReceipt txHash rest

/-- The body of `start`, up to the next call that may raise. -/
def Worker.resume (worker : Worker) (history : History) (height : Nat) (raised : Bool) :
    Point → Option (Point × Option Call)
  | .asleep => none
  | .gettingReceipt txHash rest =>
      match raised, history.getTransactionReceipt height txHash with
      | false, some receipt => some (.countingBlocks txHash receipt rest, none)
      | _, _ => some (.dropping rest, some (.markDropped txHash))
  | .countingBlocks txHash receipt rest =>
      if raised then some (.dropping rest, some (.markDropped txHash))
      else if worker.requiredConf ≤ confirmations height receipt then
        some (.marking txHash receipt rest, some (.markFinalized txHash))
      else some (.marking txHash receipt rest, some (.updateConfirmations txHash))
  | .marking txHash _ rest =>
      if raised then some (.dropping rest, some (.markDropped txHash)) else some (next rest, none)
  | .dropping rest => if raised then some (.asleep, none) else some (next rest, none)

def Worker.step (worker : Worker) (history : History) (move : Move) (state : State) :
    Except Impossible (State × Option Call) :=
  match move with
  | .submitted txHash => .ok ({ state with mempool := txHash :: state.mempool }, none)
  | .evicted txHash =>
      .ok ({ state with mempool := state.mempool.filter fun other => other ≠ txHash }, none)
  | .appended => .ok ({ state with height := state.height + 1 }, none)
  | .polled pending =>
      match state.point with
      | .asleep =>
          match pending with
          | .ok pending => .ok ({ state with point := next pending }, none)
          | .error _ => .ok (state, none)
      | _ => .error .impossible
  | .stepped raised =>
      match worker.resume history state.height raised state.point with
      | some (point, call) => .ok ({ state with point := point }, call)
      | none => .error .impossible

abbrev run_ (worker : Worker) (history : History) (moves : List Move) :
    Trace State Move (Option Call) :=
  run (worker.step history) ⟨0, [], .asleep⟩ moves

/-- Neither mined later on nor waiting for it. -/
def State.Past (history : History) (txHash : String) (state : State) : Prop :=
  (∀ receipt ∈ history.mined txHash, receipt.blockNumber ≤ state.height) ∧
    (history.getTransactionReceipt state.height txHash = none → txHash ∉ state.mempool)

/-- The receipt reports success, and has the confirmations that it takes. -/
def State.Final (worker : Worker) (history : History) (txHash : String) (state : State) : Prop :=
  ∃ receipt ∈ history.getTransactionReceipt state.height txHash,
    receipt.succeeded = true ∧ worker.requiredConf ≤ confirmations state.height receipt

/-- A transaction is dropped only when it is past being mined, and finalized only when it is
final. -/
def Classified (worker : Worker) (history : History) (entry : Entry State Move (Option Call)) :
    Prop :=
  match entry.output with
  | some (.markDropped txHash) => entry.before.Past history txHash
  | some (.markFinalized txHash) => entry.before.Final worker history txHash
  | _ => True

instance (history : History) (txHash : String) (state : State) :
    Decidable (state.Past history txHash) :=
  inferInstanceAs (Decidable ((∀ receipt ∈ history.mined txHash,
      receipt.blockNumber ≤ state.height) ∧
    (history.getTransactionReceipt state.height txHash = none → txHash ∉ state.mempool)))

instance (worker : Worker) (history : History) (txHash : String) (state : State) :
    Decidable (state.Final worker history txHash) :=
  inferInstanceAs (Decidable (∃ receipt ∈ history.getTransactionReceipt state.height txHash,
    receipt.succeeded = true ∧ worker.requiredConf ≤ confirmations state.height receipt))

instance (worker : Worker) (history : History) (entry : Entry State Move (Option Call)) :
    Decidable (Classified worker history entry) :=
  match entry with
  | ⟨before, _, some (.markDropped txHash), _⟩ =>
      inferInstanceAs (Decidable (before.Past history txHash))
  | ⟨before, _, some (.markFinalized txHash), _⟩ =>
      inferInstanceAs (Decidable (before.Final worker history txHash))
  | ⟨_, _, some (.updateConfirmations _), _⟩ => isTrue trivial
  | ⟨_, _, none, _⟩ => isTrue trivial

/-- The worker asks for no receipt of a transaction that may still be mined, and finds no
reverted one with the confirmations it takes. -/
def Untroubled (worker : Worker) (history : History) (state : State) : Move → Prop
  | .stepped raised =>
      match state.point with
      | .gettingReceipt txHash _ => state.Past history txHash
      | .countingBlocks _ receipt _ => raised = false →
          worker.requiredConf ≤ confirmations state.height receipt → receipt.succeeded = true
      | _ => True
  | _ => True

/-- A receipt that the worker holds is on the chain. -/
def State.Known (history : History) (state : State) : Prop :=
  match state.point with
  | .countingBlocks txHash receipt _ =>
      history.getTransactionReceipt state.height txHash = some receipt
  | .marking txHash receipt _ =>
      history.getTransactionReceipt state.height txHash = some receipt
  | _ => True

theorem getTransactionReceipt_eq_some {history : History} {height : Nat} {txHash : String}
    {receipt : Receipt} :
    history.getTransactionReceipt height txHash = some receipt ↔
      history.mined txHash = some receipt ∧ receipt.blockNumber ≤ height := by
  unfold History.getTransactionReceipt
  rw [Option.filter_eq_some_iff, decide_eq_true_eq]

/-- Blocks that are appended leave every receipt there. -/
theorem getTransactionReceipt_mono {history : History} {height later : Nat} {txHash : String}
    {receipt : Receipt} (grown : height ≤ later)
    (found : history.getTransactionReceipt height txHash = some receipt) :
    history.getTransactionReceipt later txHash = some receipt := by
  rw [getTransactionReceipt_eq_some] at found ⊢
  exact ⟨found.1, Nat.le_trans found.2 grown⟩

/-- What is mined is past being mined. -/
theorem past_of_receipt {history : History} {txHash : String} {receipt : Receipt} {state : State}
    (found : history.getTransactionReceipt state.height txHash = some receipt) :
    state.Past history txHash := by
  obtain ⟨mined, reached⟩ := getTransactionReceipt_eq_some.mp found
  constructor
  · intro other same
    cases mined.symm.trans same
    exact reached
  · rw [found]
    exact nofun

theorem next_known (history : History) (state : State) (rest : List String) :
    State.Known history { state with point := next rest } := by
  cases rest <;> trivial

/-- Everything that the worker does between two calls. -/
inductive Resumed (worker : Worker) (history : History) (height : Nat) :
    Bool → Point → Point → Option Call → Prop
  | found (txHash : String) (receipt : Receipt) (rest : List String)
      (mined : history.getTransactionReceipt height txHash = some receipt) :
      Resumed worker history height false (.gettingReceipt txHash rest)
        (.countingBlocks txHash receipt rest) none
  | missed (raised : Bool) (txHash : String) (rest : List String) :
      Resumed worker history height raised (.gettingReceipt txHash rest) (.dropping rest)
        (some (.markDropped txHash))
  | uncounted (txHash : String) (receipt : Receipt) (rest : List String) :
      Resumed worker history height true (.countingBlocks txHash receipt rest) (.dropping rest)
        (some (.markDropped txHash))
  | finalized (txHash : String) (receipt : Receipt) (rest : List String)
      (enough : worker.requiredConf ≤ confirmations height receipt) :
      Resumed worker history height false (.countingBlocks txHash receipt rest)
        (.marking txHash receipt rest) (some (.markFinalized txHash))
  | updated (txHash : String) (receipt : Receipt) (rest : List String)
      (few : ¬ worker.requiredConf ≤ confirmations height receipt) :
      Resumed worker history height false (.countingBlocks txHash receipt rest)
        (.marking txHash receipt rest) (some (.updateConfirmations txHash))
  | unmarked (txHash : String) (receipt : Receipt) (rest : List String) :
      Resumed worker history height true (.marking txHash receipt rest) (.dropping rest)
        (some (.markDropped txHash))
  | marked (txHash : String) (receipt : Receipt) (rest : List String) :
      Resumed worker history height false (.marking txHash receipt rest) (next rest) none
  | undropped (rest : List String) :
      Resumed worker history height true (.dropping rest) .asleep none
  | dropped (rest : List String) :
      Resumed worker history height false (.dropping rest) (next rest) none

theorem resume_resumed {worker : Worker} {history : History} {height : Nat} {raised : Bool}
    {before after : Point} {call : Option Call}
    (resumed : worker.resume history height raised before = some (after, call)) :
    Resumed worker history height raised before after call := by
  cases before with
  | asleep => cases resumed
  | gettingReceipt txHash rest =>
    simp only [Worker.resume] at resumed
    split at resumed
    · rename_i receipt mined
      cases resumed
      exact .found txHash receipt rest mined
    · cases resumed
      exact .missed _ txHash rest
  | countingBlocks txHash receipt rest =>
    simp only [Worker.resume] at resumed
    split at resumed
    · rename_i failed
      cases resumed
      exact failed ▸ .uncounted txHash receipt rest
    · rename_i counted
      rw [Bool.not_eq_true] at counted
      split at resumed
      · rename_i enough
        cases resumed
        exact counted ▸ .finalized txHash receipt rest enough
      · rename_i few
        cases resumed
        exact counted ▸ .updated txHash receipt rest few
  | marking txHash receipt rest =>
    cases raised with
    | true =>
      cases resumed
      exact .unmarked txHash receipt rest
    | false =>
      cases resumed
      exact .marked txHash receipt rest
  | dropping rest =>
    cases raised with
    | true =>
      cases resumed
      exact .undropped rest
    | false =>
      cases resumed
      exact .dropped rest

/-- A step of the worker leaves the chain alone, and any other step makes no call. -/
theorem step_cases {worker : Worker} {history : History} {move : Move} {before after : State}
    {call : Option Call} (accepted : worker.step history move before = .ok (after, call)) :
    (∃ raised, move = .stepped raised ∧
        after = { before with point := after.point } ∧
        Resumed worker history before.height raised before.point after.point call) ∨
      (∀ raised, move ≠ .stepped raised) ∧ call = none ∧ before.height ≤ after.height ∧
        (after.point = before.point ∨ ∃ pending, after.point = next pending) := by
  cases move with
  | submitted txHash =>
    cases accepted
    exact .inr ⟨nofun, rfl, Nat.le_refl _, .inl rfl⟩
  | evicted txHash =>
    cases accepted
    exact .inr ⟨nofun, rfl, Nat.le_refl _, .inl rfl⟩
  | appended =>
    cases accepted
    exact .inr ⟨nofun, rfl, Nat.le_succ _, .inl rfl⟩
  | polled pending =>
    simp only [Worker.step] at accepted
    split at accepted
    · split at accepted
      · rename_i pending
        cases accepted
        exact .inr ⟨nofun, rfl, Nat.le_refl _, .inr ⟨pending, rfl⟩⟩
      · cases accepted
        exact .inr ⟨nofun, rfl, Nat.le_refl _, .inl rfl⟩
    · cases accepted
  | stepped raised =>
    simp only [Worker.step] at accepted
    split at accepted
    · rename_i point made resumed
      cases accepted
      exact .inl ⟨raised, rfl, rfl, resume_resumed resumed⟩
    · cases accepted

theorem step_known {worker : Worker} {history : History} {move : Move} {before after : State}
    {call : Option Call} (known : before.Known history)
    (accepted : worker.step history move before = .ok (after, call)) : after.Known history := by
  rcases step_cases accepted with
    ⟨raised, -, chain, resumed⟩ | ⟨-, -, grown, same | ⟨pending, woke⟩⟩
  · obtain ⟨height, mempool, point⟩ := before
    obtain ⟨height', mempool', point'⟩ := after
    cases chain
    cases resumed with
    | found txHash receipt rest mined => exact mined
    | finalized txHash receipt rest enough => exact known
    | updated txHash receipt rest few => exact known
    | marked txHash receipt rest => exact next_known history ⟨height, mempool, .asleep⟩ rest
    | dropped rest => exact next_known history ⟨height, mempool, .asleep⟩ rest
    | missed | uncounted | unmarked | undropped => trivial
  · unfold State.Known at known ⊢
    rw [same]
    split
    · rename_i point
      rw [point] at known
      exact getTransactionReceipt_mono grown known
    · rename_i point
      rw [point] at known
      exact getTransactionReceipt_mono grown known
    · trivial
  · unfold State.Known
    rw [woke]
    cases pending <;> trivial

/-- A call is right exactly if the worker is untroubled when it comes to it. -/
theorem step_classified_iff {worker : Worker} {history : History} {move : Move}
    {before after : State} {call : Option Call} (known : before.Known history)
    (accepted : worker.step history move before = .ok (after, call)) :
    Classified worker history ⟨before, move, call, after⟩ ↔
      Untroubled worker history before move := by
  rcases step_cases accepted with ⟨raised, rfl, -, resumed⟩ | ⟨other, rfl, -, -⟩
  · unfold Classified Untroubled
    unfold State.Known at known
    dsimp only
    generalize before.point = point, after.point = onward at known resumed ⊢
    cases resumed with
    | found txHash receipt rest mined => exact iff_of_true trivial (past_of_receipt mined)
    | missed raised txHash rest => exact Iff.rfl
    | uncounted txHash receipt rest => exact iff_of_true (past_of_receipt known) nofun
    | finalized txHash receipt rest enough =>
      simp only [forall_const, enough]
      constructor
      · rintro ⟨found, mined, succeeded, -⟩
        rw [known] at mined
        cases mined
        exact succeeded
      · intro succeeded
        exact ⟨receipt, known, succeeded, enough⟩
    | updated txHash receipt rest few => exact iff_of_true trivial fun _ enough => absurd enough few
    | unmarked txHash receipt rest => exact iff_of_true (past_of_receipt known) trivial
    | marked | undropped | dropped => exact Iff.rfl
  · refine iff_of_true trivial ?_
    cases move with
    | stepped raised => exact absurd rfl (other raised)
    | _ => trivial

/-- All calls of a run are right, exactly if the worker is untroubled all along. -/
theorem classified_iff (worker : Worker) (history : History) (moves : List Move) :
    (∀ entry ∈ (run_ worker history moves).past, Classified worker history entry) ↔
      Meets (Untroubled worker history) (run_ worker history moves).past := by
  apply run_steps_iff (worker.step history) _ (State.Known history)
  · trivial
  · intro now move after call known accepted
    exact step_classified_iff known accepted
  · intro now move after call known accepted _
    exact step_known known accepted

section Sample

/-- One transaction is mined in block 3, another is reverted in block 1. -/
def twoMined : History :=
  ⟨fun txHash =>
    if txHash = "0xa" then some ⟨3, true⟩
    else if txHash = "0xb" then some ⟨1, false⟩
    else none⟩

/-- The worker looks for the first two blocks too early. -/
def lookedEarly : List Move :=
  [.submitted "0xa", .appended, .polled (.ok ["0xa"]), .stepped false]

/-- It finds the second with twelve confirmations. -/
def foundReverted : List Move :=
  .submitted "0xb" :: List.replicate 12 .appended ++
    [.polled (.ok ["0xb"]), .stepped false, .stepped false]

/-- A transaction is dropped that will be mined, and a reverted one is finalized. -/
theorem classified_wrong :
    (¬ ∀ entry ∈ (run_ ⟨12⟩ twoMined lookedEarly).past, Classified ⟨12⟩ twoMined entry) ∧
      ¬ ∀ entry ∈ (run_ ⟨12⟩ twoMined foundReverted).past, Classified ⟨12⟩ twoMined entry := by
  decide

end Sample

end BigX.Wallet.Confirmations
