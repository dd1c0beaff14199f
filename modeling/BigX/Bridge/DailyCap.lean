import BigX.Bridge.Steps
import BigX.Bridge.MockWbtc

set_option autoImplicit false

/- The daily cap. The two fields of `_enforceDailyLimit` are a lazily reset meter; along
a run in time order it reads the true sum of the peg-outs executed that day. -/
namespace BigX.Bridge

open Evm Run

variable {token : Erc20} {bridge : Address}

/-- The peg-outs an entry executed, with their day and amount. -/
def executedBy (entry : Entry token bridge) : List (Charge Nat Nat) :=
  entry.output.filterMap fun
    | .pegOutExecuted id =>
        some ⟨entry.input.message.today.toNat, (entry.before.pegOutRequests id).amount.toNat⟩
    | _ => none

def executions (past : List (Entry token bridge)) : List (Charge Nat Nat) :=
  past.flatMap executedBy

theorem executions_snoc (past : List (Entry token bridge)) (entry : Entry token bridge) :
    executions (past ++ [entry]) = executions past ++ executedBy entry := by
  simp only [executions, List.flatMap_append, List.flatMap_singleton]

/-- `block.timestamp` -/
def Transaction.time (transaction : Transaction bridge) : Uint256 :=
  transaction.message.timestamp

/-- With this entry, the peg-outs executed on its day are within the limit in force. -/
def Capped (earlier : List (Entry token bridge)) (entry : Entry token bridge) : Prop :=
  ∀ id, .pegOutExecuted id ∈ entry.output →
    sumOn (executions (earlier ++ [entry])) entry.input.message.today.toNat ≤
      entry.before.dailyLimit.toNat

/-- Confirming `id` would execute it, and put its day over the limit. -/
structure WouldExceed (past : List (Entry token bridge)) (now : State token) (message : Message)
    (id : Uint256) : Prop where
  last : now.requiredConfirmations.toNat ≤ (now.pegOutRequests id).confirmations.toNat + 1
  unaffordable : now.dailyLimit.toNat <
    sumOn (executions past) message.today.toNat + (now.pegOutRequests id).amount.toNat

/-- An executed peg-out is one charge of the meter, within the limit. -/
theorem PegOutStep.charged {message : Message} {id : Uint256} {before after : State token}
    {events : List Event} {confirmations : Uint256} {withdrawn resetDay : Uint256}
    (step : PegOutStep message id before after events confirmations true withdrawn resetDay) :
    after.meter = before.meter.charge message.today.toNat (before.pegOutRequests id).amount.toNat ∧
      before.meter.read message.today.toNat + (before.pegOutRequests id).amount.toNat ≤
        before.dailyLimit.toNat := by
  have limited := step.limited
  simp only [↓reduceIte] at limited
  obtain ⟨charged, within, same⟩ := limited
  refine ⟨?_, charged ▸ within⟩
  rw [step.after_eq]
  simp only [State.meter, Meter.charge, charged, same]

theorem PegOutStep.uncharged {message : Message} {id : Uint256} {before after : State token}
    {events : List Event} {confirmations : Uint256} {withdrawn resetDay : Uint256}
    (step : PegOutStep message id before after events confirmations false withdrawn resetDay) :
    after.meter = before.meter := by
  have limited := step.limited
  simp only [Bool.false_eq_true, ↓reduceIte] at limited
  rw [step.after_eq]
  simp only [State.meter, limited.1, limited.2]

/-- A step charges the meter for what it executes and for nothing else. -/
theorem Step.charges (entry : Entry token bridge)
    (step : Step bridge entry.input.message entry.before entry.after entry.output
      entry.input.call) :
    (executedBy entry = [] ∧ entry.after.meter = entry.before.meter) ∨
      ∃ amount, executedBy entry = [⟨entry.input.message.today.toNat, amount⟩] ∧
        entry.after.meter = entry.before.meter.charge entry.input.message.today.toNat amount ∧
        entry.before.meter.read entry.input.message.today.toNat + amount ≤
          entry.before.dailyLimit.toNat := by
  generalize entry.input.call = call at step
  cases step with
  | pegIn _ _ _ _ executed _ step =>
    refine Or.inl ⟨?_, by rw [step.after_eq]; rfl⟩
    cases executed <;> simp [executedBy, step.events_eq]
  | request _ _ _ _ step =>
    exact Or.inl ⟨by simp [executedBy, step.events_eq], by rw [step.after_eq]; rfl⟩
  | pegOut id _ executed _ _ step =>
    cases executed with
    | true =>
      obtain ⟨charged, within⟩ := step.charged
      refine Or.inr ⟨(entry.before.pegOutRequests id).amount.toNat, ?_, charged, within⟩
      simp [executedBy, step.events_eq]
    | false => exact Or.inl ⟨by simp [executedBy, step.events_eq], step.uncharged⟩
  | admin _ _ _ _ _ _ _ _ after_eq quiet =>
    refine Or.inl ⟨?_, by rw [after_eq]; rfl⟩
    rw [executedBy, List.filterMap_eq_nil_iff]
    intro event member
    have plain := quiet event member
    cases event <;> first | rfl | cases plain
  | ledger _ _ _ after_eq events_eq =>
    exact Or.inl ⟨by simp [executedBy, events_eq], by rw [after_eq]; rfl⟩

/-- A peg-out is executed on the day of its transaction. -/
theorem executedBy_day (entry : Entry token bridge) :
    ∀ charge ∈ executedBy entry, charge.day = entry.input.message.today.toNat := by
  intro charge executed
  obtain ⟨event, -, same⟩ := List.mem_filterMap.mp executed
  cases event <;> cases same
  rfl

theorem reading_eq {past : List (Entry token bridge)} {now : State token}
    {transaction : Transaction bridge} (reached : NotAfter Transaction.time past transaction)
    (tracks : Tracks 0 now.meter (executions past)) :
    now.meter.day ≤ transaction.message.today.toNat ∧
      now.meter.read transaction.message.today.toNat =
        sumOn (executions past) transaction.message.today.toNat :=
  Tracks.reading (fun transaction : Transaction bridge => transaction.message.today.toNat)
    executedBy tracks executedBy_day
    (reached.coarsen fun first second => Message.today_mono first.message second.message)
    (Nat.zero_le _)

theorem tracks_step {past : List (Entry token bridge)} (entry : Entry token bridge)
    (tracks : Tracks 0 entry.before.meter (executions past))
    (reached : NotAfter Transaction.time past entry.input)
    (step : Step bridge entry.input.message entry.before entry.after entry.output
      entry.input.call) :
    Capped past entry ∧ Tracks 0 entry.after.meter (executions (past ++ [entry])) := by
  obtain ⟨day_le, read_eq⟩ := reading_eq reached tracks
  rw [executions_snoc]
  rcases step.charges with ⟨idle, same⟩ | ⟨amount, executed, charged, within⟩
  · refine ⟨?_, ?_⟩
    · intro id paid
      have none_executed : executedBy entry ≠ [] :=
        List.ne_nil_of_mem (List.mem_filterMap.mpr ⟨_, paid, rfl⟩)
      exact absurd idle none_executed
    · rw [idle, same, List.append_nil]
      exact tracks
  · refine ⟨?_, ?_⟩
    · intro id _
      rw [executions_snoc, executed, sumOn_snoc, ← read_eq]
      simpa using within
    · rw [executed, charged]
      exact tracks.charge _ amount day_le

/-- Along a run in time order the meter reads the executed peg-outs of the day. -/
theorem dailyCap_run (start : State token) (meter : start.meter = ⟨0, 0⟩)
    (transactions : List (Transaction bridge))
    (inOrder : InOrder Transaction.time transactions) :
    Throughout Capped (history bridge start transactions).past ∧
      Tracks 0 (history bridge start transactions).now.meter
        (executions (history bridge start transactions).past) := by
  refine run_throughout_inOrder Transaction.time (transact bridge) start
    (fun past now => Tracks 0 now.meter (executions past)) Capped ?_ ?_ transactions inOrder
  · rw [meter]
    exact tracks_new 0
  · intro past now transaction after events tracks reached accepted
    exact tracks_step ⟨now, transaction, events, after⟩ tracks reached
      (transact_step bridge transaction now after events accepted)

/-- A confirmation that would put its day over the limit is refused. -/
theorem wouldExceed_refused {past : List (Entry token bridge)} {now after : State token}
    {transaction : Transaction bridge} {id : Uint256} {events : List Event}
    (tracks : Tracks 0 now.meter (executions past))
    (reached : NotAfter Transaction.time past transaction)
    (exceeds : WouldExceed past now transaction.message id) :
    confirmPegOut transaction.message id now ≠ .ok (after, events) := by
  intro accepted
  obtain ⟨confirmations, executed, withdrawn, resetDay, step⟩ :=
    confirmPegOut_ok transaction.message id now after events accepted
  have finished : executed = true := by
    rw [step.decided, decide_eq_true_iff, BitVec.le_def, step.counted]
    exact exceeds.last
  subst finished
  have within := step.charged.2
  rw [(reading_eq reached tracks).2] at within
  exact absurd exceeds.unaffordable (Nat.not_lt_of_le within)

/-- In every run in time order, executed peg-outs stay within the limit in force on their
day, and a confirmation that would exceed it changes nothing. -/
theorem dailyCap_kept (bridge : Address) (message : Message) (wrappedBtc : token.Ledger)
    (admin : Address) (initialRelayers : List Address) (threshold : Uint256)
    (start : State token) (events : List Event)
    (accepted : deploy message wrappedBtc admin initialRelayers threshold = .ok (start, events))
    (transactions : List (Transaction bridge)) (inOrder : InOrder Transaction.time transactions) :
    Throughout Capped (history bridge start transactions).past ∧
      ∀ (transaction : Transaction bridge) (id : Uint256),
        transaction.call = .confirmPegOut id →
        InOrder Transaction.time (transactions ++ [transaction]) →
        WouldExceed (history bridge start transactions).past
          (history bridge start transactions).now transaction.message id →
        history bridge start (transactions ++ [transaction]) =
          history bridge start transactions := by
  have deployed := deploy_ok message wrappedBtc admin initialRelayers threshold start events accepted
  obtain ⟨capped, tracks⟩ := dailyCap_run start deployed.meter transactions inOrder
  refine ⟨capped, ?_⟩
  intro transaction id called next exceeds
  rw [history, run_snoc]
  cases attempt : transact bridge transaction (history bridge start transactions).now with
  | error reason => exact extend_error _ _ transaction reason attempt
  | ok result =>
    have confirmed : confirmPegOut transaction.message id (history bridge start transactions).now =
        .ok (result.1, result.2) := by
      rw [← attempt]
      simp only [transact, called]
    exact absurd confirmed (wouldExceed_refused tracks next.notAfter exceeds)

/-- A peg-out of 5 executed by one relayer two hours into the first day. -/
theorem dailyCap_kept_executed :
    ∃ (start : State MockWbtc.token) (events : List Event),
      deploy ⟨1#160, 0#256⟩ (MockWbtc.create 1#160 50#256) 1#160 [2#160] 1#256 =
        .ok (start, events) ∧
      Throughout Capped (history 9#160 start
        [⟨⟨1#160, 0#256⟩, .wrappedBtc (.approve 9#160 5#256), by decide⟩,
         ⟨⟨1#160, 0#256⟩, .requestPegOut 5#256 "bc1q", by decide⟩,
         ⟨⟨2#160, 7200#256⟩, .confirmPegOut 0#256, by decide⟩]).past :=
  ⟨_, _, rfl, (@dailyCap_kept MockWbtc.token 9#160 ⟨1#160, 0#256⟩ (MockWbtc.create 1#160 50#256)
    1#160 [2#160] 1#256 _ _ rfl _ (by unfold InOrder; decide)).1⟩

end BigX.Bridge
