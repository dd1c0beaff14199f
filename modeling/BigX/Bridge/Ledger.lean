import BigX.Bridge.PegIn

set_option autoImplicit false

/- Token accounting: what the bridge holds against everything that ever came in or went
out, for a standard token whose ledger lets nobody spend for the new bridge. -/
namespace BigX.Bridge

open Evm Run

variable {token : Erc20} {bridge : Address}

/-- What an event locks in the bridge. -/
def Event.requested : Event → Nat
  | .pegOutRequested _ _ amount _ => amount.toNat
  | _ => 0

/-- What an event pays out of the bridge; a payment to itself stays. -/
def Event.released (bridge : Address) : Event → Nat
  | .pegInExecuted _ recipient amount => if bridge = recipient then 0 else amount.toNat
  | _ => 0

/-- The event pays for the deposit. -/
def Event.pays (btcTxHash : Bytes32) : Event → Bool
  | .pegInExecuted paid _ _ => paid = btcTxHash
  | _ => false

/-- What a transaction on the token sends to the bridge. -/
def Call.sent (bridge : Address) : Call → Nat
  | .wrappedBtc call => call.sentTo bridge
  | _ => 0

/-- Every event of a history, in order. -/
def emitted (past : List (Entry token bridge)) : List Event :=
  past.flatMap Run.Entry.output

def totalRequested (past : List (Entry token bridge)) : Nat :=
  ((emitted past).map Event.requested).sum

def totalReleased (past : List (Entry token bridge)) : Nat :=
  ((emitted past).map (Event.released bridge)).sum

def totalSent (past : List (Entry token bridge)) : Nat :=
  (past.map (fun entry => entry.input.call.sent bridge)).sum

/-- How often a deposit was paid out. -/
def payouts (past : List (Entry token bridge)) (btcTxHash : Bytes32) : Nat :=
  (emitted past).countP (Event.pays btcTxHash)

theorem emitted_snoc (past : List (Entry token bridge)) (entry : Entry token bridge) :
    emitted (past ++ [entry]) = emitted past ++ entry.output := by
  simp only [emitted, List.flatMap_append, List.flatMap_singleton]

theorem totalRequested_snoc (past : List (Entry token bridge)) (entry : Entry token bridge) :
    totalRequested (past ++ [entry]) =
      totalRequested past + (entry.output.map Event.requested).sum := by
  simp only [totalRequested, emitted_snoc, List.map_append, List.sum_append]

theorem totalReleased_snoc (past : List (Entry token bridge)) (entry : Entry token bridge) :
    totalReleased (past ++ [entry]) =
      totalReleased past + (entry.output.map (Event.released bridge)).sum := by
  simp only [totalReleased, emitted_snoc, List.map_append, List.sum_append]

theorem totalSent_snoc (past : List (Entry token bridge)) (entry : Entry token bridge) :
    totalSent (past ++ [entry]) = totalSent past + entry.input.call.sent bridge := by
  simp [totalSent]

theorem payouts_snoc (past : List (Entry token bridge)) (entry : Entry token bridge)
    (btcTxHash : Bytes32) :
    payouts (past ++ [entry]) btcTxHash =
      payouts past btcTxHash + entry.output.countP (Event.pays btcTxHash) := by
  simp only [payouts, emitted_snoc, List.countP_append]

/-- The bridge's own tokens. -/
def State.held (bridge : Address) (state : State token) : Nat :=
  (token.balanceOf state.wrappedBtc bridge).toNat

/-- Events of administration move no tokens. -/
theorem administrative_requested (events : List Event)
    (quiet : ∀ event ∈ events, event.administrative = true) :
    (events.map Event.requested).sum = 0 := by
  apply List.sum_eq_zero
  simp only [List.mem_map, forall_exists_index, and_imp, forall_apply_eq_imp_iff₂]
  intro event member
  have plain := quiet event member
  cases event <;> first | rfl | cases plain

theorem administrative_released (events : List Event)
    (quiet : ∀ event ∈ events, event.administrative = true) :
    (events.map (Event.released bridge)).sum = 0 := by
  apply List.sum_eq_zero
  simp only [List.mem_map, forall_exists_index, and_imp, forall_apply_eq_imp_iff₂]
  intro event member
  have plain := quiet event member
  cases event <;> first | rfl | cases plain

/-- Each step moves the bridge's tokens by what it sends, requests and releases, and
leaves nobody allowed to spend them. -/
theorem Step.balance {message : Message} {before after : State token} {events : List Event}
    {call : Call} (step : Step bridge message before after events call)
    (other : message.sender ≠ bridge) (closed : token.NoAllowance bridge before.wrappedBtc) :
    token.NoAllowance bridge after.wrappedBtc ∧
      after.held bridge + (events.map (Event.released bridge)).sum =
        before.held bridge + call.sent bridge + (events.map Event.requested).sum := by
  cases step with
  | pegIn btcTxHash recipient amount confirmations executed ledger step =>
    rw [step.after_eq, step.events_eq]
    have paid := step.paid
    cases executed with
    | false =>
      simp only [Bool.false_eq_true, ↓reduceIte] at paid
      subst paid
      exact ⟨closed, by simp [State.held, Call.sent, Event.released, Event.requested]⟩
    | true =>
      simp only [↓reduceIte] at paid
      refine ⟨?_, ?_⟩
      · intro spender
        rw [token.transfer_allowance _ _ _ _ _ paid]
        exact closed spender
      · have moved := (token.transfer_moved _ _ _ _ _ paid).balance bridge
        simp only [↓reduceIte] at moved
        simp only [State.held, Call.sent, Event.released, Event.requested, List.map_cons,
          List.map_nil, List.sum_cons, List.sum_nil, ↓reduceIte]
        by_cases own : bridge = ((before.pegInRequests btcTxHash).describe recipient amount).recipient
        · rw [if_pos own] at moved ⊢
          omega
        · rw [if_neg own] at moved ⊢
          omega
  | request amount btcAddress nextPegOutId ledger step =>
    rw [step.after_eq, step.events_eq]
    refine ⟨?_, ?_⟩
    · exact token.transferFrom_noAllowance bridge _ _ _ _ _ _ closed step.received
    · have moved := (token.transferFrom_moved _ _ _ _ _ _ step.received).balance bridge
      simp only [other.symm, ↓reduceIte, Nat.add_zero] at moved
      simp only [State.held, Call.sent, Event.released, Event.requested, List.map_cons,
        List.map_nil, List.sum_cons, List.sum_nil]
      omega
  | pegOut id confirmations executed withdrawn resetDay step =>
    rw [step.after_eq, step.events_eq]
    refine ⟨closed, ?_⟩
    cases executed <;> simp [State.held, Call.sent, Event.released, Event.requested]
  | admin call plain roles paused requiredConfirmations relayerCount perTxLimit dailyLimit after_eq
      quiet =>
    have unsent : call.sent bridge = 0 := by
      cases call <;> first | rfl | cases plain
    rw [after_eq, administrative_requested events quiet, administrative_released events quiet,
      unsent]
    exact ⟨closed, rfl⟩
  | ledger call ledger moved after_eq events_eq =>
    rw [after_eq, events_eq]
    refine ⟨token.execute_noAllowance bridge _ other call _ _ closed moved, ?_⟩
    exact token.execute_balance bridge _ other call _ _ closed moved

/-- A deposit is paid by the step that marks it executed. -/
theorem Step.pays {message : Message} {before after : State token} {events : List Event}
    {call : Call} (step : Step bridge message before after events call) (btcTxHash : Bytes32) :
    (if (before.pegInRequests btcTxHash).executed then 1 else 0) +
        events.countP (Event.pays btcTxHash) =
      if (after.pegInRequests btcTxHash).executed then 1 else 0 := by
  rcases step.pegIn_cases with ⟨voted, recipient, amount, _, executed, _, -, vote⟩ | frame
  · rw [vote.after_eq, vote.events_eq]
    have pending := vote.pending
    by_cases same : btcTxHash = voted
    · subst same
      cases executed <;> simp [pending, Event.pays]
    · have other : voted ≠ btcTxHash := fun equal => same equal.symm
      cases executed <;> simp [Function.update_of_ne same, Event.pays, other]
  · have unpaid : events.countP (Event.pays btcTxHash) = 0 := by
      rw [List.countP_eq_zero]
      intro event member
      cases event with
      | pegInExecuted paid recipient amount => exact absurd member (frame.unpaid _ _ _)
      | _ => exact Bool.false_ne_true
    rw [frame.requests, unpaid, Nat.add_zero]

/-- The books of the bridge after `past`, from `initial` tokens. -/
structure Accounts (initial : Nat) (past : List (Entry token bridge)) (now : State token) :
    Prop where
  closed : token.NoAllowance bridge now.wrappedBtc
  balance : now.held bridge + totalReleased past = initial + totalSent past + totalRequested past
  paid : ∀ btcTxHash, payouts past btcTxHash =
    if (now.pegInRequests btcTxHash).executed then 1 else 0
  books : PegInBooks now

theorem Accounts.step {initial : Nat} {past : List (Entry token bridge)} {now : State token}
    (held : Accounts initial past now) (entry : Entry token bridge) (from_now : entry.before = now)
    (step : Step bridge entry.input.message entry.before entry.after entry.output
      entry.input.call) :
    Accounts initial (past ++ [entry]) entry.after := by
  subst from_now
  obtain ⟨closed, moved⟩ := step.balance entry.input.outside held.closed
  have balance := held.balance
  refine ⟨closed, ?_, ?_, step.pegInBooks held.books⟩
  · rw [totalReleased_snoc, totalSent_snoc, totalRequested_snoc]
    omega
  · intro btcTxHash
    rw [payouts_snoc, held.paid btcTxHash, step.pays btcTxHash]

theorem accounts_run (initial : Nat) (start : State token)
    (base : Accounts initial ([] : List (Entry token bridge)) start)
    (transactions : List (Transaction bridge)) :
    Accounts initial (history bridge start transactions).past
      (history bridge start transactions).now :=
  run_induction (transact bridge) start (Accounts initial) base
    (fun _ now transaction after events held accepted =>
      held.step ⟨now, transaction, events, after⟩ rfl
        (transact_step bridge transaction now after events accepted))
    transactions

/-- The bridge holds what it started with and was sent, plus what was requested, less what
it released; no deposit is paid twice, and each counter is the number of voters. -/
structure Accounted (initial : Nat) (past : List (Entry token bridge)) (now : State token) :
    Prop where
  balance : (now.held bridge : Int) =
    initial + totalSent past + totalRequested past - totalReleased past
  paidOnce : ∀ btcTxHash, payouts past btcTxHash ≤ 1
  counted : ∀ btcTxHash, (now.pegInRequests btcTxHash).confirmations.toNat =
    tally (now.pegInConfirmedBy btcTxHash)

/-- The accounts are right in every state the bridge can reach. -/
theorem ledger_accounting (bridge : Address) (message : Message) (wrappedBtc : token.Ledger)
    (admin : Address) (initialRelayers : List Address) (threshold : Uint256)
    (start : State token) (events : List Event)
    (accepted : deploy message wrappedBtc admin initialRelayers threshold = .ok (start, events))
    (closed : token.NoAllowance bridge wrappedBtc) (transactions : List (Transaction bridge)) :
    Accounted (token.balanceOf wrappedBtc bridge).toNat
      (history bridge start transactions).past (history bridge start transactions).now := by
  have deployed := deploy_ok message wrappedBtc admin initialRelayers threshold start events accepted
  have base : Accounts (token.balanceOf wrappedBtc bridge).toNat ([] : List (Entry token bridge))
      start := by
    refine ⟨?_, ?_, ?_, deployed_pegInBooks deployed⟩
    · rw [deployed.ledger]
      exact closed
    · rw [State.held, deployed.ledger]
      rfl
    · intro btcTxHash
      rw [deployed.pegInRequests]
      rfl
  have reached := accounts_run (token.balanceOf wrappedBtc bridge).toNat start base transactions
  have balance := reached.balance
  refine ⟨by omega, ?_, reached.books.counted⟩
  intro btcTxHash
  rw [reached.paid btcTxHash]
  split <;> omega

/-- 20 tokens are sent in and 7 paid out. -/
theorem ledger_accounting_paid :
    ∃ (start : State MockWbtc.token) (events : List Event),
      deploy ⟨1#160, 0#256⟩ (MockWbtc.create 1#160 50#256) 1#160 [2#160] 1#256 =
        .ok (start, events) ∧
      Accounted 0
        (history 9#160 start
          [⟨⟨1#160, 0#256⟩, .wrappedBtc (.transfer 9#160 20#256), by decide⟩,
           ⟨⟨2#160, 0#256⟩, .confirmPegIn 4#256 5#160 7#256, by decide⟩]).past
        (history 9#160 start
          [⟨⟨1#160, 0#256⟩, .wrappedBtc (.transfer 9#160 20#256), by decide⟩,
           ⟨⟨2#160, 0#256⟩, .confirmPegIn 4#256 5#160 7#256, by decide⟩]).now :=
  ⟨_, _, rfl, @ledger_accounting MockWbtc.token 9#160 ⟨1#160, 0#256⟩
    (MockWbtc.create 1#160 50#256) 1#160 [2#160] 1#256 _ _ rfl (fun _ => rfl) _⟩

end BigX.Bridge
