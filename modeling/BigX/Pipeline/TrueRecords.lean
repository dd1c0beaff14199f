import BigX.Pipeline.Execution

set_option autoImplicit false

/- What the executor records of a transaction that it submitted. The wait for the receipt
and the spend's record share an `except` with the dispatch, and that one forgets the hash. -/
namespace BigX.Pipeline

/-- The recorded execution carries every hash that was dispatched, and is a failure only
without a successful receipt for it. -/
def TrueRecord (outcome : Outcome) : Prop :=
  ∀ index subtask txHash, .dispatched index subtask (.ok txHash) ∈ outcome.events →
    ∃ execution, outcome.state.execution = some execution ∧ execution.txHash = some txHash ∧
      (execution.status = .failed → ∀ gasUsed,
        .awaitedReceipt txHash (.ok (true, gasUsed)) ∉ outcome.events)

/-- Whatever is dispatched gets a receipt, and the spend is recorded if it is a success. -/
def ExecutorVisit.Concludes (visit : ExecutorVisit) : Prop :=
  ∀ txHash, visit.dispatch.Yields 2 txHash → ∃ receipt,
    (visit.waitForReceipt txHash).Yields 3 receipt ∧
      (receipt.1 = true → visit.recordSpend.Answers 2)

theorem executorRun_of_current (visit : ExecutorVisit) {state : AgentState} {subtask : SubTask}
    (current : state.currentSubtask = .ok subtask) (cleared : state.cleared = true) :
    let submitted := submit visit state.currentSubtaskIndex subtask
    (executorRun visit state).events = submitted.1 ∧
      (executorRun visit state).state.execution = some (match submitted.2 with
        | .ok result => result
        | .error exc => .raised exc) := by
  unfold executorRun
  rw [current]
  dsimp only
  rw [if_neg (by rw [cleared]; decide)]
  exact ⟨rfl, rfl⟩

/-- A hash was dispatched when `with_retry` got it. -/
theorem submit_dispatched_iff (visit : ExecutorVisit) (index : Nat) (subtask : SubTask)
    (txHash : String) :
    .dispatched index subtask (.ok txHash) ∈ (submit visit index subtask).1 ↔
      (withRetry 2 visit.dispatch).result = .ok txHash := by
  have made : .dispatched index subtask (.ok txHash) ∈ (submit visit index subtask).1 ↔
      .ok txHash ∈ (withRetry 2 visit.dispatch).made := by
    simp only [submit]
    repeat' split
    all_goals simp
  rw [made]
  exact ⟨withRetry_made 2 _ _, withRetry_ok 2 _ _⟩

theorem submit_receipt_yields {visit : ExecutorVisit} {index : Nat} {subtask : SubTask}
    {txHash : String} {receipt : Bool × Nat}
    (awaited : .awaitedReceipt txHash (.ok receipt) ∈ (submit visit index subtask).1) :
    (withRetry 3 (visit.waitForReceipt txHash)).result = .ok receipt := by
  have made : .ok receipt ∈ (withRetry 3 (visit.waitForReceipt txHash)).made := by
    simp only [submit] at awaited
    repeat' split at awaited
    all_goals simp at awaited
    all_goals obtain ⟨attempted, rfl⟩ := awaited
    all_goals exact attempted
  exact withRetry_made 3 _ _ made

/-- What is recorded of a hash that was dispatched, by what came of its receipt and of the
record of its spend. -/
inductive Recorded (visit : ExecutorVisit) (txHash : String) : ExecutionResult → Prop
  | lost (exc : Exc) (unanswered : ∀ receipt, ¬ (visit.waitForReceipt txHash).Yields 3 receipt) :
      Recorded visit txHash (.raised exc)
  | reverted (gasUsed : Nat) (answered : (visit.waitForReceipt txHash).Yields 3 (false, gasUsed)) :
      Recorded visit txHash ⟨some txHash, .failed, some gasUsed, some "Transaction reverted"⟩
  | unrecorded (gasUsed : Nat) (exc : Exc)
      (answered : (visit.waitForReceipt txHash).Yields 3 (true, gasUsed))
      (unanswered : ¬ visit.recordSpend.Answers 2) : Recorded visit txHash (.raised exc)
  | confirmed (gasUsed : Nat) (answered : (visit.waitForReceipt txHash).Yields 3 (true, gasUsed))
      (recorded : visit.recordSpend.Answers 2) :
      Recorded visit txHash ⟨some txHash, .confirmed, some gasUsed, none⟩

theorem submit_recorded {visit : ExecutorVisit} {txHash : String}
    (dispatched : (withRetry 2 visit.dispatch).result = .ok txHash) (index : Nat)
    (subtask : SubTask) :
    Recorded visit txHash
      (match (submit visit index subtask).2 with
        | .ok result => result
        | .error exc => .raised exc) := by
  simp only [submit, dispatched]
  cases receipts : (withRetry 3 (visit.waitForReceipt txHash)).result with
  | error exc =>
    apply Recorded.lost
    intro receipt yields
    rw [← withRetry_eq_ok, receipts] at yields
    cases yields
  | ok receipt =>
    obtain ⟨success, gasUsed⟩ := receipt
    have answered := (withRetry_eq_ok 3 _ _).mp receipts
    cases success with
    | false => exact .reverted gasUsed answered
    | true =>
      cases spends : (withRetry 2 visit.recordSpend).result with
      | error exc =>
        apply Recorded.unrecorded gasUsed exc answered
        intro answers
        obtain ⟨returned, same⟩ := withRetry_answers 2 _ answers
        rw [spends] at same
        cases same
      | ok value =>
        exact .confirmed gasUsed answered ((withRetry_eq_ok 2 _ _).mp spends).answers

/-- The record of a hash is true when its receipt comes and, if it is a success, the spend
is recorded. -/
theorem Recorded.concludes_iff {visit : ExecutorVisit} {txHash : String}
    {execution : ExecutionResult} (recorded : Recorded visit txHash execution) :
    (execution.txHash = some txHash ∧ (execution.status = .failed →
        ∀ gasUsed, ¬ (visit.waitForReceipt txHash).Yields 3 (true, gasUsed))) ↔
      ∃ receipt, (visit.waitForReceipt txHash).Yields 3 receipt ∧
        (receipt.1 = true → visit.recordSpend.Answers 2) := by
  cases recorded with
  | lost exc unanswered =>
    refine iff_of_false (fun held => Option.some_ne_none _ held.1.symm) ?_
    rintro ⟨receipt, answered, -⟩
    exact unanswered receipt answered
  | reverted gasUsed answered =>
    refine iff_of_true ⟨rfl, ?_⟩ ⟨_, answered, ?_⟩
    · intro _ other also
      cases answered.unique also
    · intro success
      cases success
  | unrecorded gasUsed exc answered unanswered =>
    refine iff_of_false (fun held => Option.some_ne_none _ held.1.symm) ?_
    rintro ⟨receipt, also, answers⟩
    exact unanswered (answers (by rw [also.unique answered]))
  | confirmed gasUsed answered spent =>
    refine iff_of_true ⟨rfl, ?_⟩ ⟨_, answered, fun _ => spent⟩
    intro failure
    cases failure

/-- A successful receipt was obtained when the wait yields it. -/
theorem submit_receipt_iff {visit : ExecutorVisit} {txHash : String}
    (dispatched : (withRetry 2 visit.dispatch).result = .ok txHash) (index : Nat)
    (subtask : SubTask) (gasUsed : Nat) :
    .awaitedReceipt txHash (.ok (true, gasUsed)) ∈ (submit visit index subtask).1 ↔
      (visit.waitForReceipt txHash).Yields 3 (true, gasUsed) := by
  rw [← withRetry_eq_ok]
  constructor
  · exact submit_receipt_yields
  · intro answered
    have made := withRetry_ok 3 _ _ answered
    simp only [submit, dispatched, answered]
    split
    · exact List.mem_append_left _ (List.mem_append_right _ (List.mem_map_of_mem made))
    · exact List.mem_append_left _ (List.mem_append_right _ (List.mem_map_of_mem made))

/-- For every behaviour of the router, the chain client and the policy client, the record is
true exactly if the executor does not get to dispatch or what it dispatches concludes. -/
theorem trueRecord_iff (visit : ExecutorVisit) (state : AgentState) :
    TrueRecord (executorRun visit state) ↔
      ∀ subtask, state.currentSubtask = .ok subtask → state.cleared = true →
        visit.Concludes := by
  constructor
  · intro held subtask current cleared txHash yields
    have dispatched := (withRetry_eq_ok 2 _ _).mpr yields
    obtain ⟨events, execution⟩ := executorRun_of_current visit current cleared
    obtain ⟨recorded, stored, hash, failed⟩ := held state.currentSubtaskIndex subtask txHash
      (by rw [events]; exact (submit_dispatched_iff ..).mpr dispatched)
    rw [execution] at stored
    cases stored
    apply (submit_recorded dispatched state.currentSubtaskIndex subtask).concludes_iff.mp
    refine ⟨hash, ?_⟩
    intro failure gasUsed
    rw [← submit_receipt_iff dispatched state.currentSubtaskIndex subtask, ← events]
    exact failed failure gasUsed
  · intro concludes index task txHash member
    obtain ⟨rfl, current, cleared⟩ := executorRun_dispatched member
    obtain ⟨events, execution⟩ := executorRun_of_current visit current cleared
    rw [events, submit_dispatched_iff] at member
    have held := (submit_recorded member state.currentSubtaskIndex task).concludes_iff.mpr
      (concludes task current cleared txHash ((withRetry_eq_ok 2 _ _).mp member))
    refine ⟨_, execution, held.1, ?_⟩
    intro failure gasUsed
    rw [events, submit_receipt_iff member]
    exact held.2 failure gasUsed

/-- The transaction succeeds on the chain and the policy client is down. -/
def unspentVisit : ExecutorVisit :=
  { dispatch := ⟨none, 0, fun _ => .ok "0xabc", fun _ => 0⟩
    waitForReceipt := fun _ => ⟨none, 0, fun _ => .ok (true, 21000), fun _ => 0⟩
    recordSpend := ⟨none, 0, fun _ => .error (.other "timeout"), fun _ => 0⟩ }

def clearedState : AgentState :=
  { buildInitialState "task" "agent" "swap" 3 with
    subtasks := [⟨"swap", "swap", []⟩]
    simulation := some ⟨21000, 0, 0, true, none⟩ }

/-- It is recorded as a failure without its hash. -/
theorem confirmed_recorded_failed :
    (executorRun unspentVisit clearedState).raised = none ∧
      .dispatched 0 ⟨"swap", "swap", []⟩ (.ok "0xabc") ∈
        (executorRun unspentVisit clearedState).events ∧
      .awaitedReceipt "0xabc" (.ok (true, 21000)) ∈
        (executorRun unspentVisit clearedState).events ∧
      (executorRun unspentVisit clearedState).state.execution =
        some ⟨none, .failed, none, some "Failed after 2 attempts: timeout"⟩ ∧
      ¬ TrueRecord (executorRun unspentVisit clearedState) := by
  have stored : (executorRun unspentVisit clearedState).state.execution =
      some ⟨none, .failed, none, some "Failed after 2 attempts: timeout"⟩ := by rfl
  have dispatched : .dispatched 0 ⟨"swap", "swap", []⟩ (.ok "0xabc") ∈
      (executorRun unspentVisit clearedState).events := List.mem_cons_self
  refine ⟨rfl, dispatched, List.mem_cons_of_mem _ List.mem_cons_self, stored, ?_⟩
  intro held
  obtain ⟨execution, same, hash, -⟩ := held 0 _ "0xabc" dispatched
  rw [stored] at same
  cases same
  cases hash

end BigX.Pipeline
