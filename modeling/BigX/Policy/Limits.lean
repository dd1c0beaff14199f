import BigX.Policy.Steps

set_option autoImplicit false

/- Spend limits. Each agent's two spending fields are a meter of its own; along a run in
time order it reads the true sum of the day, whatever the policies do meanwhile. -/
namespace BigX.Policy

open Evm Run

variable (keccak256 : List Byte → Bytes32)

/-- `block.timestamp` -/
def Transaction.time (transaction : Transaction) : Uint256 :=
  transaction.message.timestamp

/-- What an accepted entry spent for an agent. -/
def spentBy (nftId : Uint256) (entry : Entry) : List (Charge Nat Nat) :=
  match entry.input.call with
  | .consumeAction agent _ _ value _ =>
      if agent = nftId then [⟨entry.input.message.today.toNat, value.toNat⟩] else []
  | _ => []

def spending (nftId : Uint256) (past : List Entry) : List (Charge Nat Nat) :=
  past.flatMap (spentBy nftId)

theorem spending_snoc (nftId : Uint256) (past : List Entry) (entry : Entry) :
    spending nftId (past ++ [entry]) = spending nftId past ++ spentBy nftId entry := by
  simp only [spending, List.flatMap_append, List.flatMap_singleton]

/-- The entry spends `value` for `nftId` within the limits in force, and touches no other
agent. -/
structure WithinLimits (earlier : List Entry) (entry : Entry) (nftId value : Uint256) : Prop where
  perTx : value.toNat ≤ (entry.before.policies nftId).perTxLimit.toNat
  daily : sumOn (spending nftId (earlier ++ [entry])) entry.input.message.today.toNat ≤
    (entry.before.policies nftId).dailyLimit.toNat
  others : ∀ other, other ≠ nftId →
    entry.after.spentToday other = entry.before.spentToday other ∧
      entry.after.lastResetDay other = entry.before.lastResetDay other ∧
      entry.after.agentNonce other = entry.before.agentNonce other

def Limited (earlier : List Entry) (entry : Entry) : Prop :=
  ∀ nftId expectedNonce target value data,
    entry.input.call = .consumeAction nftId expectedNonce target value data →
    WithinLimits earlier entry nftId value

/-- An accepted action charges its agent's meter and no other. -/
theorem ConsumeStep.meter {message : Message} {nftId expectedNonce : Uint256} {target : Address}
    {value : Uint256} {data : Calldata} {before after : State} {events : List Event}
    {spent newNonce : Uint256}
    (step : ConsumeStep keccak256 message nftId expectedNonce target value data before after events
      spent newNonce) (agent : Uint256) :
    after.meter agent = if nftId = agent then
      (before.meter nftId).charge message.today.toNat value.toNat else before.meter agent := by
  rw [step.after_eq]
  by_cases same : nftId = agent
  · subst same
    simp [State.meter, Meter.charge, step.charged]
  · have other : agent ≠ nftId := fun equal => same equal.symm
    simp [State.meter, same, Function.update_of_ne other]

theorem ConsumeStep.others {message : Message} {nftId expectedNonce : Uint256} {target : Address}
    {value : Uint256} {data : Calldata} {before after : State} {events : List Event}
    {spent newNonce : Uint256}
    (step : ConsumeStep keccak256 message nftId expectedNonce target value data before after events
      spent newNonce) (other : Uint256) (different : other ≠ nftId) :
    after.spentToday other = before.spentToday other ∧
      after.lastResetDay other = before.lastResetDay other ∧
      after.agentNonce other = before.agentNonce other := by
  rw [step.after_eq]
  simp only [Function.update_of_ne different, and_self]

/-- An action spends on the day of its transaction. -/
theorem spentBy_day (nftId : Uint256) (entry : Entry) :
    ∀ charge ∈ spentBy nftId entry, charge.day = entry.input.message.today.toNat := by
  intro charge spent
  unfold spentBy at spent
  split at spent
  · split at spent
    · rw [List.mem_singleton.mp spent]
    · cases spent
  · cases spent

theorem reading_eq {past : List Entry} {now : State} {transaction : Transaction} (nftId : Uint256)
    (reached : NotAfter Transaction.time past transaction)
    (tracks : Tracks 0 (now.meter nftId) (spending nftId past)) :
    (now.meter nftId).day ≤ transaction.message.today.toNat ∧
      (now.meter nftId).read transaction.message.today.toNat =
        sumOn (spending nftId past) transaction.message.today.toNat :=
  Tracks.reading (fun transaction : Transaction => transaction.message.today.toNat)
    (spentBy nftId) tracks (spentBy_day nftId)
    (reached.coarsen fun first second => Message.today_mono first.message second.message)
    (Nat.zero_le _)

/-- Every agent's meter follows its spending, and every action stays within its limits. -/
theorem tracks_step {past : List Entry} (entry : Entry)
    (tracks : ∀ nftId, Tracks 0 (entry.before.meter nftId) (spending nftId past))
    (reached : NotAfter Transaction.time past entry.input)
    (step : Step keccak256 entry.input.message entry.before entry.after entry.output
      entry.input.call) :
    Limited past entry ∧
      ∀ nftId, Tracks 0 (entry.after.meter nftId) (spending nftId (past ++ [entry])) := by
  generalize called : entry.input.call = call at step
  cases step with
  | consume agent expectedNonce target value data events spent newNonce step =>
    have spentBy_eq : ∀ nftId, spentBy nftId entry =
        if agent = nftId then [⟨entry.input.message.today.toNat, value.toNat⟩] else [] := by
      intro nftId
      simp only [spentBy, called]
    obtain ⟨day_le, read_eq⟩ := reading_eq agent reached (tracks agent)
    refine ⟨?_, ?_⟩
    · intro nftId nonce target' amount data' same
      rw [called] at same
      cases same
      refine ⟨step.perTx, ?_, step.others⟩
      have within := step.daily
      rw [step.charged, read_eq] at within
      rw [spending_snoc, spentBy_eq, if_pos rfl, sumOn_snoc]
      simpa using within
    · intro nftId
      rw [spending_snoc, spentBy_eq, step.meter]
      split
      · rename_i same
        subst same
        exact (tracks agent).charge _ value.toNat day_le
      · rw [List.append_nil]
        exact tracks nftId
  | admin call plain roles policies allowedTargets humanApprovals after_eq output_eq =>
    refine ⟨?_, ?_⟩
    · intro nftId nonce target value data same
      rw [called] at same
      rw [same] at plain
      cases plain
    · intro nftId
      have idle : spentBy nftId entry = [] := by
        simp only [spentBy, called]
        split
        · cases plain
        · rfl
      rw [spending_snoc, idle, List.append_nil, after_eq]
      exact tracks nftId

/-- In every run in time order, each action is within the per-transaction limit, and with
all the actions of its agent on its day within the daily limit, in force at that moment. -/
theorem spendLimits_kept (deployment : Message) (admin : Address)
    (transactions : List Transaction) (inOrder : InOrder Transaction.time transactions) :
    Throughout Limited (history keccak256 (deploy deployment admin).1 transactions).past := by
  refine (run_throughout_inOrder Transaction.time (transact keccak256) (deploy deployment admin).1
    (fun past now => ∀ nftId, Tracks 0 (now.meter nftId) (spending nftId past)) Limited ?_ ?_
    transactions inOrder).1
  · intro nftId
    exact tracks_new 0
  · intro past now transaction after output tracks reached accepted
    exact tracks_step keccak256 ⟨now, transaction, output, after⟩ tracks reached
      (transact_step transaction now after output accepted)

/-- An agent that may spend 100 at a time and 500 a day spends 40. -/
theorem spendLimits_kept_forty :
    Throughout Limited (history (fun _ => 0#256) (deploy ⟨1#160, 0#256⟩ 1#160).1
      [⟨⟨1#160, 0#256⟩, .setPolicy 7#256 100#256 500#256 50#256⟩,
       ⟨⟨1#160, 0#256⟩, .setTargetAllowed 7#256 6#160 true⟩,
       ⟨⟨1#160, 0#256⟩, .grantExecutorRole 5#160⟩,
       ⟨⟨5#160, 60#256⟩, .consumeAction 7#256 0#256 6#160 40#256 ⟨[], by decide⟩⟩]).past :=
  spendLimits_kept (fun _ => 0#256) ⟨1#160, 0#256⟩ 1#160 _ (by unfold InOrder; decide)

end BigX.Policy
