import BigX.Pipeline.PolicyGate

set_option autoImplicit false

/- Which subtasks are paid for again. A retry goes back to the planner, whose plan starts
over at the first subtask, and a transaction that was confirmed counts as failed when its
spend cannot be recorded. -/
namespace BigX.Pipeline

/-- The transaction of the visit gets a successful receipt. -/
def ExecutorVisit.Pays (visit : ExecutorVisit) (txHash : String) : Prop :=
  (withRetry 2 visit.dispatch).result = .ok txHash ∧
    ∃ gasUsed, (withRetry 3 (visit.waitForReceipt txHash)).result = .ok (true, gasUsed)

/-- The planner gets a plan that passes its checks. -/
def PlannerVisit.Delivers (visit : PlannerVisit) (agentId : String) : Prop :=
  ∃ response subtasks, (withRetry 3 visit.complete).result = .ok response ∧
    parseAndValidate visit response = .ok subtasks ∧
    checkCapabilities visit agentId subtasks = .ok ()

/-- The critic sends a task with this execution back to the planner. -/
def AgentState.Retries (state : AgentState) (execution : ExecutionResult) : Prop :=
  execution.status ≠ .confirmed ∧ (evaluate execution).shouldRetry = true ∧
    state.retryCount < state.maxRetries

/-- The planner plans anew only before the second subtask, and a confirmed transaction whose
spend is not recorded is not retried. -/
def keepsPaid (config : Config) : Visit → Prop
  | .planner visit =>
      visit.Delivers config.state.agentId → config.state.currentSubtaskIndex = 0
  | .executor visit => ∀ txHash exc, visit.Pays txHash →
      (withRetry 2 visit.recordSpend).result = .error exc → ¬ config.state.Retries (.raised exc)
  | _ => True

/-- In this visit a transaction was dispatched for the subtask and got a successful receipt. -/
def Paid (index : Nat) (entry : Entry) : Prop :=
  ∃ subtask txHash gasUsed, .dispatched index subtask (.ok txHash) ∈ entry.output ∧
    .awaitedReceipt txHash (.ok (true, gasUsed)) ∈ entry.output

def Event.isDispatch : Event → Bool
  | .dispatched _ _ _ => true
  | _ => false

def Event.isReceipt : Event → Bool
  | .awaitedReceipt _ _ => true
  | _ => false

/-- Nothing is dispatched for a subtask that was paid for, neither in a later visit nor in
the same visit after the receipt. -/
def PaidOnce (earlier : List Entry) (entry : Entry) : Prop :=
  (∀ index subtask answer, .dispatched index subtask answer ∈ entry.output →
    ∀ paying ∈ earlier, ¬ Paid index paying) ∧
  entry.output.Pairwise fun first second => first.isReceipt = true → second.isDispatch = false

theorem submit_receipt {visit : ExecutorVisit} {current gasUsed : Nat} {task : SubTask}
    {txHash : String}
    (receipt : .awaitedReceipt txHash (.ok (true, gasUsed)) ∈ (submit visit current task).1) :
    visit.Pays txHash ∧
      ((∃ result, (submit visit current task).2 = .ok result ∧ result.status = .confirmed) ∨
        ∃ exc, (withRetry 2 visit.recordSpend).result = .error exc ∧
          (submit visit current task).2 = .error exc) := by
  simp only [submit] at receipt ⊢
  cases dispatches : (withRetry 2 visit.dispatch).result with
  | error exc =>
    simp only [dispatches] at receipt
    simp at receipt
  | ok submitted =>
    have awaited : submitted = txHash ∧
        (withRetry 3 (visit.waitForReceipt submitted)).result = .ok (true, gasUsed) := by
      have made : .awaitedReceipt txHash (.ok (true, gasUsed)) ∈
          (withRetry 3 (visit.waitForReceipt submitted)).made.map
            (Event.awaitedReceipt submitted) := by
        simp only [dispatches] at receipt
        repeat' split at receipt
        all_goals simpa using receipt
      obtain ⟨outcome, attempted, same⟩ := List.mem_map.mp made
      cases same
      exact ⟨rfl, withRetry_made 3 _ _ attempted⟩
    obtain ⟨rfl, answered⟩ := awaited
    refine ⟨⟨dispatches, gasUsed, answered⟩, ?_⟩
    simp only [answered]
    cases spends : (withRetry 2 visit.recordSpend).result with
    | error exc => exact Or.inr ⟨exc, rfl, rfl⟩
    | ok recorded => exact Or.inl ⟨_, rfl, rfl⟩

theorem submit_ordered (visit : ExecutorVisit) (current : Nat) (task : SubTask) :
    (submit visit current task).1.Pairwise
      fun first second => first.isReceipt = true → second.isDispatch = false := by
  simp only [submit]
  repeat' split
  all_goals simp [List.pairwise_append, List.pairwise_map, Event.isReceipt, Event.isDispatch,
    List.pairwise_of_forall]

theorem run_ordered (visit : Visit) (state : AgentState) :
    (visit.run state).events.Pairwise
      fun first second => first.isReceipt = true → second.isDispatch = false := by
  cases visit with
  | planner visit => simp [Visit.run, plannerRun_events]
  | memory visit => simp [Visit.run, memoryRun_events]
  | simulator visit =>
    simp only [Visit.run, simulatorRun]
    repeat' split
    all_goals simp [List.pairwise_map, Event.isReceipt, List.pairwise_of_forall]
  | executor visit =>
    simp only [Visit.run, executorRun]
    repeat' split
    · exact List.Pairwise.nil
    · exact List.Pairwise.nil
    all_goals exact submit_ordered _ _ _
  | critic => simp [Visit.run, criticRun_events]

/-- What the executor leaves for the critic after a successful receipt. -/
theorem executorRun_paid {visit : ExecutorVisit} {state : AgentState} {txHash : String}
    {gasUsed : Nat}
    (receipt : .awaitedReceipt txHash (.ok (true, gasUsed)) ∈ (executorRun visit state).events) :
    ∃ execution, wrapNode (executorRun visit state) =
        { state with execution := some execution, status := .reviewing } ∧
      (execution.status = .confirmed ∨ ∃ exc, visit.Pays txHash ∧
        (withRetry 2 visit.recordSpend).result = .error exc ∧ execution = .raised exc) := by
  unfold executorRun at receipt ⊢
  split at receipt
  · cases receipt
  · rename_i subtask current
    split at receipt
    · cases receipt
    · rename_i cleared
      obtain ⟨pays, ⟨result, returned, confirmed⟩ | ⟨exc, unrecorded, raised⟩⟩ :=
        submit_receipt receipt
      · simp only [if_neg cleared, returned]
        exact ⟨result, rfl, Or.inl confirmed⟩
      · simp only [if_neg cleared, raised]
        exact ⟨_, rfl, Or.inr ⟨exc, pays, unrecorded, rfl⟩⟩

theorem executorRun_currentSubtaskIndex (visit : ExecutorVisit) (state : AgentState) :
    (executorRun visit state).state.currentSubtaskIndex = state.currentSubtaskIndex := by
  unfold executorRun
  repeat' split
  all_goals rfl

theorem memoryRun_currentSubtaskIndex (visit : MemoryVisit) (state : AgentState) :
    (memoryRun visit state).state.currentSubtaskIndex = state.currentSubtaskIndex := by
  unfold memoryRun
  repeat' split
  all_goals rfl

/-- A plan starts over; without one nothing changes. -/
theorem plannerRun_cases (visit : PlannerVisit) (state : AgentState) :
    (visit.Delivers state.agentId ∧ (plannerRun visit state).state.currentSubtaskIndex = 0) ∨
      (plannerRun visit state).state.currentSubtaskIndex = state.currentSubtaskIndex := by
  unfold plannerRun
  split
  · exact Or.inr rfl
  · rename_i response completed
    split
    · exact Or.inr rfl
    · rename_i subtasks parsed
      split
      · exact Or.inr rfl
      · rename_i checked
        exact Or.inl ⟨⟨response, subtasks, completed, parsed, checked⟩, rfl⟩

/-- Where the critic goes: on to the next subtask, back to the planner, or to the end. -/
theorem criticRun_cases (state : AgentState) :
    (routeAfterCritic (wrapNode (criticRun state)) = some .simulator ∧
      (wrapNode (criticRun state)).currentSubtaskIndex = state.currentSubtaskIndex + 1) ∨
    (routeAfterCritic (wrapNode (criticRun state)) = some .planner ∧
      (wrapNode (criticRun state)).currentSubtaskIndex = state.currentSubtaskIndex ∧
      ∃ execution, state.execution = some execution ∧ state.Retries execution) ∨
    routeAfterCritic (wrapNode (criticRun state)) = none := by
  unfold criticRun
  split
  · exact Or.inr (Or.inr rfl)
  · rename_i execution reviewed
    dsimp only
    split
    · exact Or.inl ⟨rfl, rfl⟩
    · split
      · exact Or.inr (Or.inr rfl)
      · rename_i unconfirmed
        split
        · rename_i retry
          exact Or.inr (Or.inl ⟨rfl, rfl, execution, reviewed, unconfirmed, retry⟩)
        · exact Or.inr (Or.inr rfl)

/-- Every subtask that was paid for comes before `bound`. -/
def PaidBelow (past : List Entry) (bound : Nat) : Prop :=
  ∀ paying ∈ past, ∀ index, Paid index paying → index < bound

/-- The subtasks before the current one are the ones that were paid for, and the current one
too until the critic has gone on from it. -/
def Accounts (past : List Entry) (now : Config) : Prop :=
  match now.next with
  | some .critic => PaidBelow past (now.state.currentSubtaskIndex + 1) ∧
      ((∃ paying ∈ past, Paid now.state.currentSubtaskIndex paying) →
        ∀ execution, now.state.execution = some execution → ¬ now.state.Retries execution)
  | some _ => PaidBelow past now.state.currentSubtaskIndex
  | none => True

/-- A visit pays at most for the current subtask, and only the executor's does. -/
theorem paid_current {visit : Visit} {now after : Config} {index : Nat}
    (paid : Paid index ⟨now, visit, (visit.run now.state).events, after⟩) :
    visit.node = .executor ∧ index = now.state.currentSubtaskIndex := by
  obtain ⟨subtask, txHash, gasUsed, dispatched, -⟩ := paid
  obtain ⟨executor, same, -⟩ := run_dispatched dispatched
  exact ⟨executor, same⟩

theorem PaidBelow.snoc {past : List Entry} (visit : Visit) {now after : Config} {bound : Nat}
    (held : PaidBelow past bound)
    (within : visit.node = .executor → now.state.currentSubtaskIndex < bound) :
    PaidBelow (past ++ [⟨now, visit, (visit.run now.state).events, after⟩]) bound := by
  intro paying member index paid
  rcases List.mem_append.mp member with earlier | last
  · exact held paying earlier index paid
  · rw [List.mem_singleton.mp last] at paid
    obtain ⟨executor, rfl⟩ := paid_current paid
    exact within executor

theorem step_paidOnce {past : List Entry} {now after : Config} {visit : Visit}
    {events : List Event} (held : Accounts past now)
    (accepted : step visit now = .ok (after, events)) :
    PaidOnce past ⟨now, visit, events, after⟩ := by
  obtain ⟨entered, -, -, rfl⟩ := step_ok accepted
  refine ⟨?_, run_ordered visit now.state⟩
  intro index subtask answer dispatched paying member paid
  obtain ⟨executor, rfl, -⟩ := run_dispatched dispatched
  rw [executor] at entered
  simp only [Accounts, entered] at held
  exact absurd (held paying member _ paid) (Nat.lt_irrefl _)

/-- The executor pays for nothing but the current subtask, and then it is not retried. -/
theorem executor_accounts {past : List Entry} {now after : Config} {visit : ExecutorVisit}
    (held : PaidBelow past now.state.currentSubtaskIndex)
    (condition : keepsPaid now (.executor visit))
    (state : after.state = wrapNode (executorRun visit now.state))
    (next : after.next = some .critic) :
    Accounts (past ++ [⟨now, .executor visit, (executorRun visit now.state).events, after⟩])
      after := by
  have index : after.state.currentSubtaskIndex = now.state.currentSubtaskIndex := by
    rw [state, wrapNode_currentSubtaskIndex, executorRun_currentSubtaskIndex]
  simp only [Accounts, next]
  refine ⟨?_, ?_⟩
  · rw [index]
    have wider : PaidBelow past (now.state.currentSubtaskIndex + 1) :=
      fun paying member other paid => Nat.lt_succ_of_lt (held paying member other paid)
    exact PaidBelow.snoc (.executor visit) wider fun _ => Nat.lt_succ_self _
  · rintro ⟨paying, member, paid⟩ execution stored retried
    rw [index] at paid
    rcases List.mem_append.mp member with earlier | last
    · exact absurd (held paying earlier _ paid) (Nat.lt_irrefl _)
    · rw [List.mem_singleton.mp last] at paid
      obtain ⟨subtask, txHash, gasUsed, -, receipt⟩ := paid
      obtain ⟨written, wrote, settled⟩ := executorRun_paid receipt
      rw [state, wrote] at stored retried
      cases stored
      rcases settled with confirmed | ⟨exc, pays, unrecorded, rfl⟩
      · exact retried.1 confirmed
      · exact condition txHash exc pays unrecorded retried

theorem step_accounts {past : List Entry} {now after : Config} {visit : Visit}
    {events : List Event} (held : Accounts past now) (condition : keepsPaid now visit)
    (accepted : step visit now = .ok (after, events)) :
    Accounts (past ++ [⟨now, visit, events, after⟩]) after := by
  obtain ⟨entered, state, next, rfl⟩ := step_ok accepted
  simp only [Accounts, entered] at held
  cases visit with
  | planner visit =>
    simp only [Accounts, next]
    have index : after.state.currentSubtaskIndex = now.state.currentSubtaskIndex := by
      rw [state, wrapNode_currentSubtaskIndex]
      rcases plannerRun_cases visit now.state with ⟨delivers, first⟩ | same
      · exact first.trans (condition delivers).symm
      · exact same
    rw [index]
    exact PaidBelow.snoc (.planner visit) held fun other => by cases other
  | memory visit =>
    simp only [Accounts, next]
    rw [state, wrapNode_currentSubtaskIndex, Visit.run, memoryRun_currentSubtaskIndex]
    exact PaidBelow.snoc (.memory visit) held fun other => by cases other
  | simulator visit =>
    simp only [Accounts, next]
    rw [state, wrapNode_currentSubtaskIndex, Visit.run, simulatorRun_currentSubtaskIndex]
    exact PaidBelow.snoc (.simulator visit) held fun other => by cases other
  | executor visit => exact executor_accounts held condition state next
  | critic =>
    obtain ⟨below, settled⟩ := held
    rw [Visit.node, Node.successor, state] at next
    rcases criticRun_cases now.state with
      ⟨route, index⟩ | ⟨route, index, execution, stored, retried⟩ | route
    · simp only [Accounts, next, route, Visit.run]
      rw [state, Visit.run, index]
      exact PaidBelow.snoc .critic below fun other => by cases other
    · simp only [Accounts, next, route, Visit.run]
      rw [state, Visit.run, index]
      apply PaidBelow.snoc .critic _ fun other => by cases other
      intro paying member other paid
      have within := below paying member other paid
      have unpaid : other ≠ now.state.currentSubtaskIndex := by
        rintro rfl
        exact settled ⟨paying, member, paid⟩ execution stored retried
      omega
    · simp only [Accounts, next, route, Visit.run]

/-- In the runs that plan anew only before the second subtask and do not retry a confirmed
transaction, no subtask that was paid for is dispatched again. -/
theorem paid_once (taskId agentId userRequest : String) (maxRetries : Int)
    (visits : List Visit)
    (kept : Run.Meets keepsPaid
      (history (begin_ taskId agentId userRequest maxRetries) visits).past) :
    Run.Throughout PaidOnce
      (history (begin_ taskId agentId userRequest maxRetries) visits).past := by
  refine (Run.run_throughout_of_meets step _ Accounts keepsPaid PaidOnce ?_ ?_ visits kept).1
  · intro paying member
    cases member
  · intro past now visit after events held condition accepted
    exact ⟨step_paidOnce held accepted, step_accounts held condition accepted⟩

/-- Both subtasks are paid for, once each. -/
theorem paid_once_both :
    Run.Throughout PaidOnce (history (begin_ "task" "7" "swap it" 2)
      (bothSubtasks (.ok (true, none)))).past := by
  apply paid_once
  have recorded : ∀ config hash, keepsPaid config (.executor (executeAs hash)) := by
    intro config hash txHash exc _ unrecorded
    cases unrecorded
  intro entry member
  change entry ∈ [_, _, _, _, _, _, _, _] at member
  simp only [List.mem_cons, List.not_mem_nil, or_false] at member
  rcases member with rfl | rfl | rfl | rfl | rfl | rfl | rfl | rfl
  · exact fun _ => rfl
  · trivial
  · trivial
  · exact recorded _ _
  · trivial
  · trivial
  · exact recorded _ _
  · trivial

/-- The transaction of the second subtask reverts, and the same plan starts over. -/
def revertedSecond : List Visit :=
  [.planner planBoth, .memory remember, .simulator (simulateWith (.ok (true, none))),
    .executor (executeAs "0x01"), .critic, .simulator (simulateWith (.ok (true, none))),
    .executor { executeAs "0x02" with
      waitForReceipt := fun _ => .always (some .new) (.ok (false, 21000)) }, .critic,
    .planner planBoth, .memory remember, .simulator (simulateWith (.ok (true, none))),
    .executor (executeAs "0x03")]

/-- The first subtask is dispatched again after its transaction was confirmed. -/
theorem paid_once_reverted :
    ¬ Run.Throughout PaidOnce
      (history (begin_ "task" "7" "swap it" 2) revertedSecond).past := by
  intro once
  have again := (once.at_index 11 (by decide)).1 0 transfer (.ok "0x03") (List.mem_cons_self ..)
  refine again _ (@List.getElem_mem _ _ 3 (by decide)) ?_
  exact ⟨transfer, "0x01", 21000, List.mem_cons_self ..,
    List.mem_cons_of_mem _ (List.mem_cons_self ..)⟩

end BigX.Pipeline
