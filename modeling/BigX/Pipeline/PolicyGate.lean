import BigX.Pipeline.AgentGraph

set_option autoImplicit false

/- Which dispatches the policy engine allowed. The executor's guard reads the stored
simulation, which a simulator visit that raises too early leaves in place. -/
namespace BigX.Pipeline

@[simp] theorem wrapNode_cleared (outcome : Outcome) :
    (wrapNode outcome).cleared = outcome.state.cleared := by
  simp only [AgentState.cleared, wrapNode_simulation]

@[simp] theorem wrapNode_currentSubtask (outcome : Outcome) :
    (wrapNode outcome).currentSubtask = outcome.state.currentSubtask := by
  simp only [AgentState.currentSubtask, wrapNode_subtasks, wrapNode_currentSubtaskIndex]

theorem simulatorRun_currentSubtask (visit : SimulatorVisit) (state : AgentState) :
    (simulatorRun visit state).state.currentSubtask = state.currentSubtask := by
  simp only [AgentState.currentSubtask, simulatorRun_subtasks, simulatorRun_currentSubtaskIndex]

theorem run_dispatched {visit : Visit} {state : AgentState} {index : Nat} {subtask : SubTask}
    {answer : Except Exc String}
    (dispatched : .dispatched index subtask answer ∈ (visit.run state).events) :
    visit.node = .executor ∧ index = state.currentSubtaskIndex ∧
      state.currentSubtask = .ok subtask ∧ state.cleared = true := by
  cases visit with
  | planner visit =>
    rw [Visit.run, plannerRun_events] at dispatched
    cases dispatched
  | memory visit =>
    rw [Visit.run, memoryRun_events] at dispatched
    cases dispatched
  | simulator visit => exact absurd dispatched (simulatorRun_not_dispatched visit state _ _ _)
  | executor visit => exact ⟨rfl, executorRun_dispatched dispatched⟩
  | critic =>
    rw [Visit.run, criticRun_events] at dispatched
    cases dispatched

/-- The last visit was the simulator's, and in it the policy engine allowed `subtask`. -/
def AllowedLast (past : List Entry) (index : Nat) (subtask : SubTask) : Prop :=
  ∃ earlier last reason, past = earlier ++ [last] ∧ last.input.node = .simulator ∧
    .checkedAction index subtask (.ok (true, reason)) ∈ last.output

/-- Whatever a visit dispatches is the current subtask, allowed in the visit before. -/
def Gated (past : List Entry) (entry : Entry) : Prop :=
  ∀ index subtask answer, .dispatched index subtask answer ∈ entry.output →
    index = entry.before.state.currentSubtaskIndex ∧
      entry.before.state.currentSubtask = .ok subtask ∧ AllowedLast past index subtask

/-- A simulator visit that begins with a passing simulation stored gets a new answer. -/
def answeredIfCleared (config : Config) : Visit → Prop
  | .simulator visit => config.state.cleared = true → visit.Answered
  | _ => True

/-- What the executor relies on: a simulation that passed is the last visit's. -/
def ClearedByLast (past : List Entry) (config : Config) : Prop :=
  config.next = some .executor → config.state.cleared = true →
    ∀ subtask, config.state.currentSubtask = .ok subtask →
      AllowedLast past config.state.currentSubtaskIndex subtask

theorem simulator_clears {visit : SimulatorVisit} {state : AgentState} {subtask : SubTask}
    (answered : state.cleared = true → visit.Answered)
    (current : state.currentSubtask = .ok subtask)
    (cleared : (simulatorRun visit state).state.cleared = true) :
    ∃ reason, .checkedAction state.currentSubtaskIndex subtask (.ok (true, reason)) ∈
      (simulatorRun visit state).events := by
  rcases simulatorRun_cases visit state subtask current with
    ⟨unchanged, unanswered⟩ | ⟨passed, reason, verdict, checked⟩
  · rw [unchanged] at cleared
    exact absurd (answered cleared) unanswered
  · rw [cleared] at verdict
    subst verdict
    exact ⟨reason, checked⟩

/-- Only the simulator's edge leads to the executor. -/
theorem step_clearedByLast {past : List Entry} {now after : Config} {visit : Visit}
    {events : List Event} (condition : answeredIfCleared now visit)
    (accepted : step visit now = .ok (after, events)) :
    ClearedByLast (past ++ [⟨now, visit, events, after⟩]) after := by
  obtain ⟨_, state, next, rfl⟩ := step_ok accepted
  intro entered cleared subtask current
  rw [entered] at next
  have simulator := successor_executor next.symm
  cases visit with
  | simulator visit =>
    simp only [state, Visit.run, wrapNode_cleared, wrapNode_currentSubtask,
      wrapNode_currentSubtaskIndex, simulatorRun_currentSubtask,
      simulatorRun_currentSubtaskIndex] at cleared current ⊢
    obtain ⟨reason, checked⟩ := simulator_clears condition current cleared
    exact ⟨past, _, reason, rfl, rfl, checked⟩
  | _ => cases simulator

theorem step_gated {past : List Entry} {now after : Config} {visit : Visit}
    {events : List Event} (held : ClearedByLast past now)
    (accepted : step visit now = .ok (after, events)) :
    Gated past ⟨now, visit, events, after⟩ := by
  obtain ⟨entered, _, _, rfl⟩ := step_ok accepted
  intro index subtask answer dispatched
  obtain ⟨executor, rfl, current, cleared⟩ := run_dispatched dispatched
  rw [executor] at entered
  exact ⟨rfl, current, held entered cleared subtask current⟩

theorem dispatch_gated (taskId agentId userRequest : String) (maxRetries : Int)
    (visits : List Visit)
    (answered : Run.Meets answeredIfCleared
      (history (begin_ taskId agentId userRequest maxRetries) visits).past) :
    Run.Throughout Gated (history (begin_ taskId agentId userRequest maxRetries) visits).past := by
  refine (Run.run_throughout_of_meets step _ ClearedByLast answeredIfCleared Gated ?_ ?_ visits
    answered).1
  · intro entered
    cases entered
  · intro past now visit after events held condition accepted
    exact ⟨step_gated held accepted, step_clearedByLast condition accepted⟩

section Sample

/-- Every attempt ends the same way. -/
def Attempts.always {α : Type} (circuit : Option CircuitBreaker) (outcome : Except Exc α) :
    Attempts α :=
  ⟨circuit, 0, fun _ => outcome, fun _ => 0⟩

def transfer : SubTask := ⟨"wallet_tool", "transfer", [("amount_usd", .number 20)]⟩

def swap : SubTask := ⟨"swap_tool", "swap", [("amount_usd", .number 90)]⟩

def planBoth : PlannerVisit :=
  { complete := .always none (.ok "plan")
    decode := fun _ => .ok [transfer, swap]
    report := fun _ => ""
    capabilitiesCached := true
    getAgent := .ok ()
    hasCapability := fun _ => .ok true }

def remember : MemoryVisit :=
  { portfolio := .always none (.ok .null)
    recentHistory := .ok (.array [])
    embed := .always none (.ok .null)
    query := .always none (.ok (.array [])) }

def simulateWith (answer : Except Exc (Bool × Option String)) : SimulatorVisit :=
  { getTool := .ok true
    buildCall := .ok ⟨"0xbeef", 0, []⟩
    estimateGas := fun _ => .always (some .new) (.ok 21000)
    checkAction := fun _ => .always (some .new) answer }

def executeAs (txHash : String) : ExecutorVisit :=
  { dispatch := .always (some .new) (.ok txHash)
    waitForReceipt := fun _ => .always (some .new) (.ok (true, 21000))
    recordSpend := .always none (.ok ()) }

/-- Two subtasks: the first is allowed and confirmed, the policy engine then gives `answer`
for the second. -/
def bothSubtasks (answer : Except Exc (Bool × Option String)) : List Visit :=
  [.planner planBoth, .memory remember, .simulator (simulateWith (.ok (true, none))),
    .executor (executeAs "0x01"), .critic, .simulator (simulateWith answer),
    .executor (executeAs "0x02"), .critic]

/-- The second subtask is denied, and not dispatched. -/
theorem dispatch_gated_denied :
    Run.Throughout Gated (history (begin_ "task" "7" "swap it" 2)
      (bothSubtasks (.ok (false, some "Requires human approval")))).past := by
  apply dispatch_gated
  apply Run.meets_of_inputs
  have answers : ∀ answer, (simulateWith (.ok answer)).Answered := fun answer =>
    ⟨rfl, _, rfl, ⟨rfl, 1, 21000, by omega, by omega, rfl⟩,
      ⟨rfl, 1, answer, by omega, by omega, rfl⟩⟩
  intro visit member config
  simp only [bothSubtasks, List.mem_cons, List.not_mem_nil, or_false] at member
  rcases member with rfl | rfl | rfl | rfl | rfl | rfl | rfl | rfl
  all_goals first | trivial | exact fun _ => answers _

/-- The policy engine cannot be reached for the second subtask, which is dispatched on the
answer for the first. -/
theorem dispatch_gated_stale :
    ¬ Run.Throughout Gated (history (begin_ "task" "7" "swap it" 2)
      (bothSubtasks (.error (.other "connection refused")))).past := by
  intro gated
  obtain ⟨_, _, earlier, last, reason, same, _, checked⟩ :=
    gated.at_index 6 (by decide) 1 swap (.ok "0x02") (List.mem_cons_self ..)
  have asked : some last.output =
      some (List.replicate 3 (.checkedAction 1 swap (.error (.other "connection refused")))) := by
    rw [← Option.map_some, ← List.getLast?_concat, ← same]
    rfl
  rw [Option.some.inj asked] at checked
  cases (List.mem_replicate.mp checked).2

end Sample

end BigX.Pipeline
