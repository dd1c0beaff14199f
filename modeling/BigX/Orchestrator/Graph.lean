import BigX.Orchestrator.Agents
import BigX.Pipeline.AgentGraph
import BigX.Run.Trace

set_option autoImplicit false

/- The graph of the orchestrator service, whose nodes are not wrapped: an exception that
leaves one ends the run. -/
namespace BigX.Orchestrator
open BigX.Pipeline (Node)

/-- `route_after_critic`, where `none` is `END`. -/
def routeAfterCritic (state : AgentState) : Option Node :=
  match state.status with
  | .simulating => some .simulator
  | .retrying => some .planner
  | _ => none

def successor (state : AgentState) : Node → Option Node
  | .planner => some .memory
  | .memory => some .simulator
  | .simulator => some .executor
  | .executor => some .critic
  | .critic => routeAfterCritic state

/-- Where a run stands; `raised` is what it was aborted by. -/
structure Config where
  state : AgentState
  next : Option Node
  raised : Option String

inductive Visit
  | planner (visit : PlannerVisit)
  | memory (visit : MemoryVisit)
  | simulator (visit : SimulatorVisit)
  | executor (visit : ExecutorVisit)
  | critic (visit : CriticVisit)

def Visit.node : Visit → Node
  | .planner _ => .planner
  | .memory _ => .memory
  | .simulator _ => .simulator
  | .executor _ => .executor
  | .critic _ => .critic

def Visit.run (state : AgentState) : Visit → Outcome
  | .planner visit => plannerRun visit state
  | .memory visit => memoryRun visit state
  | .simulator visit => simulatorRun visit state
  | .executor visit => executorRun visit state
  | .critic visit => criticRun visit state

/-- The visited node does not come next. -/
inductive OutOfTurn
  | outOfTurn

def step (visit : Visit) (config : Config) : Except OutOfTurn (Config × List Event) :=
  if config.next = some visit.node then
    let outcome := visit.run config.state
    match outcome.raised with
    | none => .ok (⟨outcome.state, successor outcome.state visit.node, none⟩, outcome.events)
    | some text => .ok (⟨outcome.state, none, some text⟩, outcome.events)
  else .error .outOfTurn

theorem step_ok {visit : Visit} {config after : Config} {events : List Event}
    (accepted : step visit config = .ok (after, events)) :
    config.next = some visit.node ∧ after.state = (visit.run config.state).state ∧
      events = (visit.run config.state).events ∧
      (after.next ≠ none → (visit.run config.state).raised = none ∧
        after.next = successor after.state visit.node) := by
  unfold step at accepted
  split at accepted
  · rename_i entered
    dsimp only at accepted
    split at accepted
    · rename_i returned
      cases accepted
      exact ⟨entered, rfl, rfl, fun _ => ⟨returned, rfl⟩⟩
    · cases accepted
      exact ⟨entered, rfl, rfl, fun going => absurd rfl going⟩
  · cases accepted

def begin_ (taskId agentId userRequest : String) (maxRetries : Int) : Config :=
  ⟨buildInitialState taskId agentId userRequest maxRetries, some .planner, none⟩

abbrev Entry : Type := Run.Entry Config Visit (List Event)

abbrev history (start : Config) (visits : List Visit) : Run.Trace Config Visit (List Event) :=
  Run.run step start visits

/-- The visit looked at the same subtask of the same plan. -/
def Entry.sameSubtask (first second : Entry) : Prop :=
  first.before.state.subtasks = second.before.state.subtasks ∧
    first.before.state.currentSubtaskIndex = second.before.state.currentSubtaskIndex

/-- The policy engine answered the check made in this visit. -/
def answered (entry : Entry) (passed : Bool) : Prop :=
  ∃ target value data reason,
    .checkedAction target value data (.ok (passed, reason)) ∈ entry.output

def dispatches (entry : Entry) : Prop :=
  ∃ tool action params answer, .dispatched tool action params answer ∈ entry.output

/-- Whatever a visit dispatches is the current subtask, which passed the check made in the
visit before, and after a check that failed nothing is dispatched. -/
def Checked (past : List Entry) (entry : Entry) : Prop :=
  (∀ tool action params answer, .dispatched tool action params answer ∈ entry.output →
    (∃ subtask, entry.before.state.currentSubtask = .ok subtask ∧
      dispatchArguments subtask = .ok (tool, action, params)) ∧
    ∃ earlier last, past = earlier ++ [last] ∧ last.input.node = .simulator ∧
      Entry.sameSubtask last entry ∧ answered last true) ∧
  ∀ earlier last, past = earlier ++ [last] → last.input.node = .simulator →
    answered last false → ¬ dispatches entry

/-- What the executor relies on: a stored simulation is the answer of the last visit. -/
def StoredByLast (past : List Entry) (config : Config) : Prop :=
  config.next = some .executor →
    ∃ earlier last, past = earlier ++ [last] ∧ last.input.node = .simulator ∧
      last.before.state.subtasks = config.state.subtasks ∧
      last.before.state.currentSubtaskIndex = config.state.currentSubtaskIndex ∧
      answered last config.state.cleared ∧
      ∀ passed, answered last passed → passed = config.state.cleared

theorem settle_not_dispatched (visit : ExecutorVisit) (txHash : String) (params : Value)
    (tool action given : Value) (answer : Except String String) :
    .dispatched tool action given answer ∉ (settle visit txHash params).1 := by
  simp only [settle]
  repeat' split
  all_goals simp

/-- The executor dispatches only the current subtask, and only on a simulation that passed. -/
theorem executorRun_dispatched {visit : ExecutorVisit} {state : AgentState}
    {tool action params : Value} {answer : Except String String}
    (dispatched : .dispatched tool action params answer ∈ (executorRun visit state).events) :
    state.cleared = true ∧ ∃ subtask, state.currentSubtask = .ok subtask ∧
      dispatchArguments subtask = .ok (tool, action, params) := by
  unfold executorRun at dispatched
  split at dispatched
  · cases dispatched
  · rename_i subtask current
    split at dispatched
    · cases dispatched
    · rename_i cleared
      refine ⟨by simpa using cleared, subtask, current, ?_⟩
      split at dispatched
      · cases dispatched
      · simp only [submit] at dispatched
        cases arguments : dispatchArguments subtask with
        | error text =>
          simp only [arguments] at dispatched
          cases dispatched
        | ok given =>
          obtain ⟨givenTool, givenAction, givenParams⟩ := given
          simp only [arguments] at dispatched
          have first : .dispatched tool action params answer ∈
              [Event.dispatched givenTool givenAction givenParams visit.dispatch] := by
            split at dispatched
            · exact dispatched
            · rcases List.mem_append.mp dispatched with first | later
              · exact first
              · exact absurd later (settle_not_dispatched _ _ _ _ _ _ _)
          cases List.mem_singleton.mp first
          rfl

theorem run_dispatched {visit : Visit} {state : AgentState} {tool action params : Value}
    {answer : Except String String}
    (dispatched : .dispatched tool action params answer ∈ (visit.run state).events) :
    visit.node = .executor ∧ state.cleared = true ∧
      ∃ subtask, state.currentSubtask = .ok subtask ∧
        dispatchArguments subtask = .ok (tool, action, params) := by
  cases visit with
  | executor visit => exact ⟨rfl, executorRun_dispatched dispatched⟩
  | planner visit =>
    simp only [Visit.run, plannerRun] at dispatched
    repeat' split at dispatched
    all_goals cases dispatched
  | memory visit =>
    simp only [Visit.run, memoryRun] at dispatched
    split at dispatched <;> cases dispatched
  | simulator visit =>
    simp only [Visit.run, simulatorRun] at dispatched
    repeat' split at dispatched
    all_goals simp at dispatched
  | critic visit =>
    simp only [Visit.run, criticRun] at dispatched
    repeat' split at dispatched
    all_goals cases dispatched

/-- A simulator visit that returns has stored the one answer it got. -/
theorem simulatorRun_returned {visit : SimulatorVisit} {state : AgentState}
    (returned : (simulatorRun visit state).raised = none) :
    ∃ target value data passed reason,
      (simulatorRun visit state).events =
        [.checkedAction target value data (.ok (passed, reason))] ∧
      (simulatorRun visit state).state.cleared = passed ∧
      (simulatorRun visit state).state.subtasks = state.subtasks ∧
      (simulatorRun visit state).state.currentSubtaskIndex = state.currentSubtaskIndex := by
  unfold simulatorRun at returned ⊢
  cases prepared : prepareCheck visit state with
  | error text =>
    simp only [prepared] at returned
    cases returned
  | ok ready =>
    obtain ⟨estimatedGas, slippageBps, riskScore, call⟩ := ready
    simp only [prepared] at returned ⊢
    cases checked : visit.checkAction call with
    | error text =>
      simp only [checked] at returned
      cases returned
    | ok answer =>
      obtain ⟨passed, reason⟩ := answer
      exact ⟨call.target, call.value, call.calldata, passed, reason, rfl, rfl, rfl, rfl⟩

theorem successor_executor {state : AgentState} {node : Node}
    (next : successor state node = some .executor) : node = .simulator := by
  cases node with
  | simulator => rfl
  | critic =>
    simp only [successor, routeAfterCritic] at next
    split at next <;> cases next
  | _ => cases next

/-- Only the simulator's edge leads to the executor, and only from a visit that returned. -/
theorem step_storedByLast {past : List Entry} {now after : Config} {visit : Visit}
    {events : List Event} (accepted : step visit now = .ok (after, events)) :
    StoredByLast (past ++ [⟨now, visit, events, after⟩]) after := by
  obtain ⟨_, state, rfl, going⟩ := step_ok accepted
  intro entered
  obtain ⟨returned, next⟩ := going (by rw [entered]; nofun)
  rw [entered] at next
  have simulator := successor_executor next.symm
  cases visit with
  | simulator visit =>
    obtain ⟨target, value, data, passed, reason, events, cleared, subtasks, index⟩ :=
      simulatorRun_returned returned
    refine ⟨past, _, rfl, rfl, ?_, ?_, ?_, ?_⟩
    · rw [state]
      exact subtasks.symm
    · rw [state]
      exact index.symm
    · rw [state, Visit.run, cleared]
      refine ⟨target, value, data, reason, ?_⟩
      change _ ∈ (simulatorRun visit now.state).events
      rw [events]
      exact List.mem_singleton_self _
    · rintro given ⟨target, value, data, text, checked⟩
      change _ ∈ (simulatorRun visit now.state).events at checked
      rw [events] at checked
      cases List.mem_singleton.mp checked
      rw [state]
      exact cleared.symm
  | _ => cases simulator

theorem step_checked {past : List Entry} {now after : Config} {visit : Visit}
    {events : List Event} (held : StoredByLast past now)
    (accepted : step visit now = .ok (after, events)) :
    Checked past ⟨now, visit, events, after⟩ := by
  obtain ⟨entered, _, rfl, _⟩ := step_ok accepted
  constructor
  · intro tool action params answer dispatched
    obtain ⟨executor, cleared, current⟩ := run_dispatched dispatched
    rw [executor] at entered
    obtain ⟨earlier, last, rfl, simulator, subtasks, index, checked, -⟩ := held entered
    rw [cleared] at checked
    exact ⟨current, earlier, last, rfl, simulator, ⟨subtasks, index⟩, checked⟩
  · rintro earlier last rfl simulator failed ⟨tool, action, params, answer, dispatched⟩
    obtain ⟨executor, cleared, -⟩ := run_dispatched dispatched
    rw [executor] at entered
    obtain ⟨before, stored, same, -, -, -, -, only⟩ := held entered
    obtain ⟨-, equal⟩ := List.append_inj' same rfl
    cases equal
    have blocked := only false failed
    rw [cleared] at blocked
    cases blocked

/-- Every dispatch follows a check of the same subtask that passed. -/
theorem dispatch_checked (taskId agentId userRequest : String) (maxRetries : Int)
    (visits : List Visit) :
    Run.Throughout Checked
      (history (begin_ taskId agentId userRequest maxRetries) visits).past := by
  have rule := Run.run_throughout_of_meets step
    (begin_ taskId agentId userRequest maxRetries) StoredByLast (fun _ _ => True) Checked
    (fun entered => by cases entered)
  refine (rule ?_ visits fun _ _ => trivial).1
  intro past now visit after events held _ accepted
  exact ⟨step_checked held accepted, step_storedByLast accepted⟩

end BigX.Orchestrator
