import BigX.Pipeline.Execution

set_option autoImplicit false

/- The planner, the memory node and the simulator. What their dependencies do during a
visit is the argument `visit`; audit logging never fails and changes nothing here. -/
namespace BigX.Pipeline

/-- `TOOL_REQUIRED_CAPABILITY.get(tool)` -/
def toolRequiredCapability (tool : String) : Option String :=
  if tool = "swap_tool" then some "CAP_SWAP"
  else if tool = "bridge_tool" then some "CAP_BRIDGE"
  else if tool = "defi_tool" then some "CAP_YIELD_FARM"
  else if tool = "nft_tool" then some "CAP_NFT_TRADE"
  else none

/-- `KNOWN_TOOLS` -/
def knownTools : List String :=
  ["swap_tool", "bridge_tool", "defi_tool", "nft_tool", "wallet_tool", "price_feed_tool"]

/-- `str.isspace` of one character. -/
def isSpace (c : Char) : Bool :=
  let code := c.toNat
  (9 ≤ code && code ≤ 13) || (28 ≤ code && code ≤ 32) || code = 0x85 || code = 0xA0 ||
    code = 0x1680 || (0x2000 ≤ code && code ≤ 0x200A) || code = 0x2028 || code = 0x2029 ||
    code = 0x202F || code = 0x205F || code = 0x3000

/-- The field validators of `SubTaskModel`, as the errors they raise. -/
def subTaskErrors (subtask : SubTask) : List String :=
  (if subtask.tool ∈ knownTools then [] else ["Unknown tool: " ++ subtask.tool]) ++
    if subtask.action.toList.all isSpace then ["action cannot be empty"] else []

/-- `PlannerOutputModel`: the validators of its items, then its own. -/
def plannerOutputErrors (subtasks : List SubTask) : List String :=
  match subtasks.flatMap subTaskErrors with
  | [] => if subtasks.isEmpty then ["Planner must produce at least one subtask"] else []
  | errors => errors

/-- What the planner's dependencies do: `decode` reads the JSON into the field types and
`report` words the errors, both in the validation library; `hasCapability` fails also when
the agent id is no number. -/
structure PlannerVisit where
  complete : Attempts String
  decode : String → Except String (List SubTask)
  report : List String → String
  capabilitiesCached : Bool
  getAgent : Except Exc Unit
  hasCapability : String → Except Exc Bool

/-- `_parse_and_validate` -/
def parseAndValidate (visit : PlannerVisit) (rawResponse : String) :
    Except Exc (List SubTask) :=
  match visit.decode rawResponse with
  | .error text => .error (.plannerParse text)
  | .ok subtasks =>
      match plannerOutputErrors subtasks with
      | [] => .ok subtasks
      | errors => .error (.plannerParse (visit.report errors))

/-- The loop of `_check_capabilities`. -/
def checkSubtasks (visit : PlannerVisit) (agentId : String) : List SubTask → Except Exc Unit
  | [] => .ok ()
  | subtask :: rest =>
      match toolRequiredCapability subtask.tool with
      | none => checkSubtasks visit agentId rest
      | some required =>
          match visit.hasCapability required with
          | .error exc => .error exc
          | .ok false => .error (.capabilityDenied agentId required)
          | .ok true => checkSubtasks visit agentId rest

/-- `_check_capabilities`: the record is fetched once, then every subtask is checked. -/
def checkCapabilities (visit : PlannerVisit) (agentId : String) (subtasks : List SubTask) :
    Except Exc Unit :=
  if visit.capabilitiesCached then checkSubtasks visit agentId subtasks
  else
    match visit.getAgent with
    | .error exc => .error exc
    | .ok () => checkSubtasks visit agentId subtasks

/-- `PlannerAgent.run` -/
def plannerRun (visit : PlannerVisit) (state : AgentState) : Outcome :=
  match (withRetry 3 visit.complete).result with
  | .error exc => ⟨state, [], some exc⟩
  | .ok response =>
      match parseAndValidate visit response with
      | .error exc => ⟨state, [], some exc⟩
      | .ok subtasks =>
          match checkCapabilities visit state.agentId subtasks with
          | .error exc => ⟨state, [], some exc⟩
          | .ok () =>
              ⟨{ state with
                 subtasks := subtasks
                 currentSubtaskIndex := 0
                 status := .simulating }, [], none⟩

structure MemoryVisit where
  portfolio : Attempts Json
  recentHistory : Except Exc Json
  embed : Attempts Json
  query : Attempts Json

/-- The three lookups in order, up to the first that fails. -/
def gatherContext (visit : MemoryVisit) : Except Exc Context := do
  let portfolio ← (withRetry 2 visit.portfolio).result
  let history ← visit.recentHistory
  let _ ← (withRetry 2 visit.embed).result
  let docs ← (withRetry 2 visit.query).result
  pure ⟨portfolio, history, docs⟩

/-- `MemoryKnowledgeAgent.run` -/
def memoryRun (visit : MemoryVisit) (state : AgentState) : Outcome :=
  match gatherContext visit with
  | .ok context => ⟨{ state with context := some context }, [], none⟩
  | .error exc =>
      if exc.isTransientDependencyError then ⟨state, [], some (.memoryRetrieval exc.text)⟩
      else ⟨state, [], some exc⟩

theorem plannerRun_events (visit : PlannerVisit) (state : AgentState) :
    (plannerRun visit state).events = [] := by
  unfold plannerRun
  repeat' split
  all_goals rfl

theorem memoryRun_events (visit : MemoryVisit) (state : AgentState) :
    (memoryRun visit state).events = [] := by
  unfold memoryRun
  repeat' split
  all_goals rfl

/-- What a tool builds for a subtask. -/
structure ToolCall where
  target : String
  value : Nat
  calldata : List UInt8

structure SimulatorVisit where
  getTool : Except Exc Bool
  buildCall : Except Exc ToolCall
  estimateGas : ToolCall → Attempts Nat
  checkAction : ToolCall → Attempts (Bool × Option String)

/-- `_resolve_call`, with what its caller makes of an exception. -/
def resolveCall (visit : SimulatorVisit) (subtask : SubTask) : Except Exc ToolCall :=
  match visit.getTool with
  | .error exc => .error (.toolResolution exc.text)
  | .ok false => .error (.toolResolution ("Tool not registered: " ++ subtask.tool))
  | .ok true =>
      match visit.buildCall with
      | .error exc => .error (.toolResolution exc.text)
      | .ok call => .ok call

/-- `_estimate_slippage` -/
def estimateSlippage (subtask : SubTask) : Nat :=
  if subtask.tool = "swap_tool" then 50 else 0

/-- `_score_risk` -/
def scoreRisk (subtask : SubTask) (slippageBps : Nat) : Nat :=
  min ((if subtask.tool = "bridge_tool" then 40 else 0) +
    (if subtask.tool = "defi_tool" ∧ subtask.action = "leverage" then 50 else 0) +
    min (slippageBps / 10) 30) 100

/-- `str` of an optional reason. -/
def reasonText : Option String → String
  | some reason => reason
  | none => "None"

/-- `SimulatorAgent.run` -/
def simulatorRun (visit : SimulatorVisit) (state : AgentState) : Outcome :=
  match state.currentSubtask with
  | .error exc => ⟨state, [], some exc⟩
  | .ok subtask =>
      match resolveCall visit subtask with
      | .error exc => ⟨state, [], some exc⟩
      | .ok call =>
          match (withRetry 3 (visit.estimateGas call)).result with
          | .error exc => ⟨state, [], some exc⟩
          | .ok estimatedGas =>
              let estimatedSlippageBps := estimateSlippage subtask
              let riskScore := scoreRisk subtask estimatedSlippageBps
              let checks := withRetry 3 (visit.checkAction call)
              let events := checks.made.map (.checkedAction state.currentSubtaskIndex subtask)
              match checks.result with
              | .error exc => ⟨state, events, some exc⟩
              | .ok (passed, reason) =>
                  ⟨{ state with
                     simulation := some ⟨estimatedGas, estimatedSlippageBps, riskScore, passed, reason⟩
                     status := if passed then .executing else .failed },
                    events, if passed then none else some (.policyRejected (reasonText reason))⟩

/-- The tool builds a call, and gas estimation and the policy engine both answer in time. -/
def SimulatorVisit.Answered (visit : SimulatorVisit) : Prop :=
  visit.getTool = .ok true ∧
    ∃ call, visit.buildCall = .ok call ∧ (visit.estimateGas call).Answers 3 ∧
      (visit.checkAction call).Answers 3

theorem simulatorRun_subtasks (visit : SimulatorVisit) (state : AgentState) :
    (simulatorRun visit state).state.subtasks = state.subtasks := by
  simp only [simulatorRun]
  repeat' split
  all_goals rfl

theorem simulatorRun_currentSubtaskIndex (visit : SimulatorVisit) (state : AgentState) :
    (simulatorRun visit state).state.currentSubtaskIndex = state.currentSubtaskIndex := by
  simp only [simulatorRun]
  repeat' split
  all_goals rfl

theorem simulatorRun_not_dispatched (visit : SimulatorVisit) (state : AgentState) (index : Nat)
    (subtask : SubTask) (answer : Except Exc String) :
    .dispatched index subtask answer ∉ (simulatorRun visit state).events := by
  simp only [simulatorRun]
  repeat' split
  all_goals simp

/-- Only an answer of the policy engine replaces the stored simulation; a visit that raises
before there is one leaves everything as it was. -/
theorem simulatorRun_cases (visit : SimulatorVisit) (state : AgentState) (subtask : SubTask)
    (current : state.currentSubtask = .ok subtask) :
    ((simulatorRun visit state).state = state ∧ ¬ visit.Answered) ∨
      ∃ passed reason, (simulatorRun visit state).state.cleared = passed ∧
        .checkedAction state.currentSubtaskIndex subtask (.ok (passed, reason)) ∈
          (simulatorRun visit state).events := by
  simp only [simulatorRun, current]
  split
  · rename_i exc unresolved
    refine Or.inl ⟨rfl, ?_⟩
    rintro ⟨registered, call, built, _⟩
    simp only [resolveCall, registered, built] at unresolved
    cases unresolved
  · rename_i call resolved
    have built : visit.Answered →
        (visit.estimateGas call).Answers 3 ∧ (visit.checkAction call).Answers 3 := by
      rintro ⟨registered, made, built, answers⟩
      simp only [resolveCall, registered, built, Except.ok.injEq] at resolved
      exact resolved ▸ answers
    split
    · rename_i exc failed
      refine Or.inl ⟨rfl, fun answered => ?_⟩
      obtain ⟨gas, estimated⟩ := withRetry_answers 3 _ (built answered).1
      rw [failed] at estimated
      cases estimated
    · split
      · rename_i exc failed
        refine Or.inl ⟨rfl, fun answered => ?_⟩
        obtain ⟨verdict, given⟩ := withRetry_answers 3 _ (built answered).2
        rw [failed] at given
        cases given
      · rename_i passed reason given
        refine Or.inr ⟨passed, reason, rfl, ?_⟩
        exact List.mem_map_of_mem (withRetry_ok 3 _ _ given)

end BigX.Pipeline
