import BigX.Reasoning.PlanOptimizer
import BigX.Reasoning.ToolSelector

set_option autoImplicit false

/- `ReflectionAgent.reflect` and the plans that are made after it. Every failure is put in the
memory, a success only where its gas was far off, and the plans look at the failures alone. -/
namespace BigX.Reasoning.Reflection

open Run

variable {V : Type}

structure SimulationResult where
  estimatedGas : Int
  estimatedSlippageBps : Int

structure ExecutionResult where
  status : String
  actualGasUsed : Option Int
  error : Option String

/-- A call of `reflect`, and what it meets: whether the database takes the outcome, what the
language model answers where there is one, whether the memory is embedded and written, and when. -/
structure Call (V : Type) where
  agentId : String
  taskId : String
  subtask : Subtask V
  simulation : Option SimulationResult
  execution : Option ExecutionResult
  recorded : Bool
  llm : Option (Option String)
  written : Bool
  now : Rat

structure State where
  table : Table
  memories : List AgentMemory

def gasErrorThresholdPct : Rat := 20

def computeGasError (simulation : SimulationResult) (execution : ExecutionResult) : Option Rat :=
  match execution.actualGasUsed with
  | none => none
  | some actual =>
      if simulation.estimatedGas = 0 ∨ actual = 0 then none
      else some ((actual - simulation.estimatedGas) / simulation.estimatedGas * 100)

def ExecutionResult.succeeded (execution : ExecutionResult) : Bool := execution.status = "confirmed"

/-- `outcome` -/
def outcomeText (success : Bool) : String := if success then "success" else "failure"

def shouldWriteMemory (success : Bool) (gasErrorPct : Option Rat) : Bool :=
  !success || gasErrorPct.any fun error => |error| > gasErrorThresholdPct

-- a protocol as a column, and a percentage with one digit after the point
variable (column : V → String) (percent : Rat → String)

/-- `_summarize`, which raises where the language model does. -/
def summarize (call : Call V) (execution : ExecutionResult) (gasErrorPct : Option Rat) :
    Option String :=
  match call.llm with
  | some answer => answer
  | none =>
      if execution.succeeded then
        some (call.subtask.tool ++ "/" ++ call.subtask.action ++
          " succeeded but gas estimate was off by " ++ percent (gasErrorPct.getD 0) ++ "%")
      else
        some (call.subtask.tool ++ "/" ++ call.subtask.action ++ " failed: " ++
          execution.error.getD "unknown error")

/-- The row that `write_memory` adds. -/
def memory (call : Call V) (simulation : SimulationResult) (execution : ExecutionResult)
    (summary : String) : AgentMemory where
  agentId := call.agentId
  taskId := call.taskId
  summary := summary
  outcome := outcomeText execution.succeeded
  tool := some call.subtask.tool
  protocol := (call.subtask.params.rest "protocol").map column
  predictedGas := some simulation.estimatedGas
  actualGas := execution.actualGasUsed
  predictedSlippageBps := some simulation.estimatedSlippageBps
  actualSlippageBps := none
  createdAt := call.now

/-- What `reflect` does once the outcome is recorded. -/
def remember (call : Call V) (simulation : SimulationResult) (execution : ExecutionResult)
    (state : State) : State × Option Bool :=
  let gasErrorPct := computeGasError simulation execution
  if shouldWriteMemory execution.succeeded gasErrorPct then
    match summarize percent call execution gasErrorPct, call.written with
    | some summary, true =>
        let row := memory column call simulation execution summary
        ({ state with memories := state.memories ++ [row] }, some execution.succeeded)
    | _, _ => (state, none)
  else (state, some execution.succeeded)

/-- `reflect`, with whether the attempt succeeded, if it is recorded: nothing is where `reflect`
has nothing to compare, or raises. -/
def reflect (call : Call V) (state : State) : State × Option Bool :=
  match call.simulation, call.execution with
  | some simulation, some execution =>
      if call.recorded then
        match recordOutcome call.subtask.tool ((call.subtask.params.rest "protocol").map column)
            execution.succeeded ((computeGasError simulation execution).getD 0) 0 state.table with
        | .error _ => (state, none)
        | .ok table => remember column percent call simulation execution { state with table }
      else (state, none)
  | _, _ => (state, none)

/-- No call is impossible. -/
def step (call : Call V) (state : State) : Except Empty (State × Option Bool) :=
  .ok (reflect column percent call state)

/-- The agent has a memory from the start, which is empty, and the tools have some records. -/
abbrev history (table : Table) (calls : List (Call V)) : Trace State (Call V) (Option Bool) :=
  run (step column percent) ⟨table, []⟩ calls

/-- The recorded attempts of an agent at a tool: whether they succeeded, oldest first. -/
def attempts (agentId tool : String) (past : List (Entry State (Call V) (Option Bool))) :
    List Bool :=
  past.filterMap fun entry =>
    if entry.input.agentId = agentId ∧ entry.input.subtask.tool = tool then entry.output else none

def LastFailed (n : Nat) (attempts : List Bool) : Prop :=
  attempts.reverse.take n = List.replicate n false

instance (n : Nat) (attempts : List Bool) : Decidable (LastFailed n attempts) :=
  inferInstanceAs (Decidable (_ = _))

section

variable {column percent}

/-- A call leaves the memory alone, and then it does not record a failure, or it adds a row for
the attempt that it records. -/
theorem reflect_cases (column : V → String) (percent : Rat → String) (call : Call V) (state : State) :
    ((reflect column percent call state).1.memories = state.memories ∧
        (reflect column percent call state).2 ≠ some false) ∨
      ∃ row success, (reflect column percent call state).1.memories = state.memories ++ [row] ∧
        (reflect column percent call state).2 = some success ∧ row.agentId = call.agentId ∧
        row.tool = some call.subtask.tool ∧ row.outcome = outcomeText success := by
  unfold reflect
  split
  next simulation execution _ _ =>
    split
    · split
      · exact .inl ⟨rfl, by simp⟩
      next table _ =>
        unfold remember
        dsimp only
        split
        · split
          next summary _ _ => exact .inr ⟨_, execution.succeeded, rfl, rfl, rfl, rfl, rfl⟩
          · exact .inl ⟨rfl, by simp⟩
        next unwritten =>
          refine .inl ⟨rfl, fun failed => unwritten ?_⟩
          simp [shouldWriteMemory, Option.some.inj failed]
    · exact .inl ⟨rfl, by simp⟩
  · exact .inl ⟨rfl, by simp⟩

theorem attempts_snoc (agentId tool : String) (past : List (Entry State (Call V) (Option Bool)))
    (last : Entry State (Call V) (Option Bool)) :
    attempts agentId tool (past ++ [last]) = attempts agentId tool past ++
      (if last.input.agentId = agentId ∧ last.input.subtask.tool = tool then last.output
        else none).toList := by
  simp only [attempts, List.filterMap_append]
  congr 1

/-- The failures in the memory are those on record, after every history. -/
theorem failures_counted (table : Table) (calls : List (Call V)) (agentId tool : String) :
    (history column percent table calls).now.memories.countP
        (AgentMemory.isFailure agentId tool) =
      (attempts agentId tool (history column percent table calls).past).count false := by
  apply run_induction (step column percent) ⟨table, []⟩ fun past now =>
    now.memories.countP (AgentMemory.isFailure agentId tool) =
      (attempts agentId tool past).count false
  · rfl
  · intro past now call after output counted accepted
    have reflected := reflect_cases column percent call now
    rw [show reflect column percent call now = (after, output) from Except.ok.inj accepted]
      at reflected
    rw [attempts_snoc, List.count_append, ← counted]
    rcases reflected with ⟨same, other⟩ | ⟨row, success, added, recorded, agent, tool', outcome⟩
    · rw [show after.memories = now.memories from same]
      dsimp only
      symm
      apply Nat.add_eq_left.mpr
      split
      · apply List.count_eq_zero.mpr
        intro failed
        exact other (Option.mem_toList.mp failed)
      · rfl
    · rw [show after.memories = now.memories ++ [row] from added,
        show output = some success from recorded, List.countP_append, List.countP_singleton]
      congr 1
      by_cases own : call.agentId = agentId ∧ call.subtask.tool = tool
      · cases success <;> simp [AgentMemory.isFailure, agent, tool', outcome, outcomeText, own]
      · rw [if_neg own]
        simp only [AgentMemory.isFailure, agent, tool', Option.some.injEq]
        simp only [← and_assoc, own, false_and, decide_false, Bool.false_eq_true, if_false]
        rfl

/-- A tool is a known failure after five failures on record, whatever else is. -/
theorem knownFailure_after (table : Table) (calls : List (Call V)) (agentId tool : String) :
    KnownFailure (history column percent table calls).now.memories agentId tool ↔
      5 ≤ (attempts agentId tool (history column percent table calls).past).count false := by
  rw [knownFailure_iff, failures_counted]

end

section

variable [DecidableEq V] (table : Table) (calls : List (Call V)) (agentId : String)

/-- Each subtask that is missing from the agent's optimized plan, after some calls of `reflect`,
has a tool whose last five attempts failed. -/
def OnlyFailingDropped (plan : List (Subtask V)) : Prop :=
  ∀ subtask ∈ plan,
    Missing (optimize (history column percent table calls).now.memories agentId plan) subtask →
      LastFailed 5 (attempts agentId subtask.tool (history column percent table calls).past)

/-- What is dropped keeps failing exactly where each tool with five failures on record failed the
last five times, or where every tool of the plan has as many. -/
theorem onlyFailingDropped_iff (plan : List (Subtask V)) :
    OnlyFailingDropped column percent table calls agentId plan ↔
      (∀ subtask ∈ plan,
        5 ≤ (attempts agentId subtask.tool
          (history column percent table calls).past).count false →
        LastFailed 5 (attempts agentId subtask.tool
          (history column percent table calls).past)) ∨
      ∀ subtask ∈ plan,
        5 ≤ (attempts agentId subtask.tool
          (history column percent table calls).past).count false := by
  simp only [← knownFailure_after]
  constructor
  · intro dropped
    by_cases all : ∀ subtask ∈ plan,
        KnownFailure (history column percent table calls).now.memories agentId subtask.tool
    · exact .inr all
    · refine .inl fun subtask member fails => dropped subtask member ?_
      refine (missing_iff _ _ member).mpr ⟨fails, ?_⟩
      simpa using all
  · rintro (failing | all) subtask member missing
    · exact failing subtask member ((missing_iff _ _ member).mp missing).1
    · obtain ⟨other, named, works⟩ := ((missing_iff _ _ member).mp missing).2
      exact absurd (all other named) works

end

section Sample

/-- An execution of the tool, with the gas that was estimated. -/
def executed (status : String) : Call String where
  agentId := "1"
  taskId := "t"
  subtask := subtask "swap_tool" "swap" "asset" "BTC" 50
  simulation := some ⟨100000, 50⟩
  execution := some ⟨status, some 100000, none⟩
  recorded := true
  llm := none
  written := true
  now := 0

/-- Five swaps fail, and the next five succeed. -/
def recovered : List (Call String) :=
  List.replicate 5 (executed "failed") ++ List.replicate 5 (executed "confirmed")

/-- The swap is dropped nevertheless. -/
theorem recovered_dropped :
    attempts "1" "swap_tool" (history id toString [] recovered).past =
        List.replicate 5 false ++ List.replicate 5 true ∧
      ¬ OnlyFailingDropped id toString [] recovered "1" swapCheckSwap := by
  have recorded : attempts "1" "swap_tool" (history id toString [] recovered).past =
      List.replicate 5 false ++ List.replicate 5 true := by decide +kernel
  have unused : attempts "1" "price_feed_tool" (history id toString [] recovered).past = [] := by
    decide +kernel
  have fails : KnownFailure (history id toString [] recovered).now.memories "1" "swap_tool" := by
    rw [knownFailure_after, recorded]
    decide
  have works :
      ¬ KnownFailure (history id toString [] recovered).now.memories "1" "price_feed_tool" := by
    rw [knownFailure_after, unused]
    decide
  refine ⟨recorded, fun dropped => ?_⟩
  have failing := dropped (subtask "swap_tool" "swap" "asset" "BTC" 50) List.mem_cons_self
    ((missing_iff _ _ List.mem_cons_self).mpr ⟨fails, _, List.mem_cons_of_mem _ List.mem_cons_self,
      works⟩)
  rw [show (subtask "swap_tool" "swap" "asset" "BTC" 50).tool = "swap_tool" from rfl,
    recorded] at failing
  exact absurd failing (by decide)

end Sample

end BigX.Reasoning.Reflection
