import BigX.Pipeline.Planning
import BigX.Pipeline.Execution
import BigX.Run.Trace

set_option autoImplicit false

/- The compiled graph: five wrapped nodes, four unconditional edges and the critic's
routing. -/
namespace BigX.Pipeline

inductive Node
  | planner
  | memory
  | simulator
  | executor
  | critic
  deriving DecidableEq

/-- `_wrap_node`: an exception becomes a failed state, on top of whatever the node wrote
before it raised. -/
def wrapNode (outcome : Outcome) : AgentState :=
  match outcome.raised with
  | none => outcome.state
  | some exc =>
      { outcome.state with
        status := .failed
        critique := some
          { outcomeMatchesIntent := false
            shouldRetry := false
            feedback :=
              if exc.isPlanningPipelineError then exc.text
              else "Unexpected error: " ++ exc.text } }

@[simp] theorem wrapNode_subtasks (outcome : Outcome) :
    (wrapNode outcome).subtasks = outcome.state.subtasks := by
  unfold wrapNode
  split <;> rfl

@[simp] theorem wrapNode_currentSubtaskIndex (outcome : Outcome) :
    (wrapNode outcome).currentSubtaskIndex = outcome.state.currentSubtaskIndex := by
  unfold wrapNode
  split <;> rfl

@[simp] theorem wrapNode_simulation (outcome : Outcome) :
    (wrapNode outcome).simulation = outcome.state.simulation := by
  unfold wrapNode
  split <;> rfl

/-- `route_after_critic`, where `none` is `END`. -/
def routeAfterCritic (state : AgentState) : Option Node :=
  match state.status with
  | .simulating => some .simulator
  | .retrying => some .planner
  | _ => none

/-- The edges of the graph; only the critic's looks at the state. -/
def Node.successor (state : AgentState) : Node → Option Node
  | .planner => some .memory
  | .memory => some .simulator
  | .simulator => some .executor
  | .executor => some .critic
  | .critic => routeAfterCritic state

theorem successor_executor {state : AgentState} {node : Node}
    (next : node.successor state = some .executor) : node = .simulator := by
  cases node with
  | simulator => rfl
  | critic =>
    simp only [Node.successor, routeAfterCritic] at next
    split at next <;> cases next
  | _ => cases next

/-- Where a run stands: the state, and the node that is entered next. -/
structure Config where
  state : AgentState
  next : Option Node

/-- A visit of a node, with what its dependencies do during it. -/
inductive Visit
  | planner (visit : PlannerVisit)
  | memory (visit : MemoryVisit)
  | simulator (visit : SimulatorVisit)
  | executor (visit : ExecutorVisit)
  | critic

def Visit.node : Visit → Node
  | .planner _ => .planner
  | .memory _ => .memory
  | .simulator _ => .simulator
  | .executor _ => .executor
  | .critic => .critic

/-- The `run` method behind each node. -/
def Visit.run (state : AgentState) : Visit → Outcome
  | .planner visit => plannerRun visit state
  | .memory visit => memoryRun visit state
  | .simulator visit => simulatorRun visit state
  | .executor visit => executorRun visit state
  | .critic => criticRun state

/-- The visited node does not come next. -/
inductive OutOfTurn
  | outOfTurn

/-- One visit, with what happened outside during it. -/
def step (visit : Visit) (config : Config) : Except OutOfTurn (Config × List Event) :=
  if config.next = some visit.node then
    let outcome := visit.run config.state
    let state := wrapNode outcome
    .ok (⟨state, visit.node.successor state⟩, outcome.events)
  else .error .outOfTurn

theorem step_ok {visit : Visit} {config after : Config} {events : List Event}
    (accepted : step visit config = .ok (after, events)) :
    config.next = some visit.node ∧
      after.state = wrapNode (visit.run config.state) ∧
      after.next = visit.node.successor after.state ∧
      events = (visit.run config.state).events := by
  unfold step at accepted
  split at accepted
  · rename_i entered
    cases accepted
    exact ⟨entered, rfl, rfl, rfl⟩
  · cases accepted

/-- The entry point of the graph, with the state `build_initial_state` makes. -/
def begin_ (taskId agentId userRequest : String) (maxRetries : Int) : Config :=
  ⟨buildInitialState taskId agentId userRequest maxRetries, some .planner⟩

abbrev Entry : Type := Run.Entry Config Visit (List Event)

/-- A run of the graph, visit by visit. -/
abbrev history (start : Config) (visits : List Visit) : Run.Trace Config Visit (List Event) :=
  Run.run step start visits

end BigX.Pipeline
