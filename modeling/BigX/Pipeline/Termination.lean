import BigX.Pipeline.Frames
import Mathlib.Data.Prod.Lex
import Mathlib.Order.WellFounded

set_option autoImplicit false

/- The graph reaches its end whatever its dependencies do. Each retry uses up one of the
retries that are left, and between two retries each round of the critic uses up a subtask. -/
namespace BigX.Pipeline

/-- What the dependencies do during a visit, whichever node is visited. -/
structure Behaviour where
  planner : PlannerVisit
  memory : MemoryVisit
  simulator : SimulatorVisit
  executor : ExecutorVisit

def Behaviour.visit (behaviour : Behaviour) : Node → Visit
  | .planner => .planner behaviour.planner
  | .memory => .memory behaviour.memory
  | .simulator => .simulator behaviour.simulator
  | .executor => .executor behaviour.executor
  | .critic => .critic

@[simp] theorem Behaviour.visit_node (behaviour : Behaviour) (node : Node) :
    (behaviour.visit node).node = node := by
  cases node <;> rfl

/-- The compiled graph enters the node that comes next, unless it is at its end. -/
def advance (behaviour : Behaviour) (trace : Run.Trace Config Visit (List Event)) :
    Run.Trace Config Visit (List Event) :=
  match trace.now.next with
  | none => trace
  | some node => trace.extend step (behaviour.visit node)

/-- The compiled graph after so many visits, or at its end if it takes fewer. -/
def invoke (start : Config) (behaviours : Nat → Behaviour) :
    Nat → Run.Trace Config Visit (List Event)
  | 0 => ⟨[], start⟩
  | visits + 1 => advance (behaviours visits) (invoke start behaviours visits)

def plannerEntered (past : List Entry) : Nat :=
  past.countP fun entry => decide (entry.input.node = .planner)

theorem invoke_history (start : Config) (behaviours : Nat → Behaviour) (count : Nat) :
    ∃ visits, invoke start behaviours count = history start visits := by
  induction count with
  | zero => exact ⟨[], rfl⟩
  | succ count ih =>
    obtain ⟨visits, same⟩ := ih
    unfold invoke advance
    split
    · exact ⟨visits, same⟩
    · rename_i node entered
      refine ⟨visits ++ [(behaviours count).visit node], ?_⟩
      rw [history, Run.run_snoc, same]

/-- The planner is the next node to be entered. -/
def pending (config : Config) : Nat := if config.next = some .planner then 1 else 0

theorem plannerEntered_snoc {past : List Entry} {now after : Config} {visit : Visit}
    {events : List Event} (accepted : step visit now = .ok (after, events)) :
    plannerEntered (past ++ [⟨now, visit, events, after⟩]) = plannerEntered past + pending now := by
  unfold plannerEntered pending
  rw [List.countP_append, List.countP_singleton, (step_ok accepted).1]
  simp only [decide_eq_true_eq, Option.some.injEq]

/-- The visits up to the critic's. -/
def Node.toCritic : Node → Nat
  | .planner => 4
  | .memory => 3
  | .simulator => 2
  | .executor => 1
  | .critic => 0

/-- How a visit moves the counters. A retry is one of those that are left, and the critic
goes on to a subtask only while there is one. -/
inductive Moved (now after : Config) : Visit → Prop
  | planned (visit : PlannerVisit) (next : after.next = some .memory)
      (retries : after.state.retryCount = now.state.retryCount) : Moved now after (.planner visit)
  | passed (visit : Visit) (node : Node) (next : after.next = some node)
      (closer : node.toCritic < visit.node.toCritic)
      (subtasks : after.state.subtasks = now.state.subtasks)
      (index : after.state.currentSubtaskIndex = now.state.currentSubtaskIndex)
      (retries : after.state.retryCount = now.state.retryCount) : Moved now after visit
  | advanced (next : after.next = some .simulator)
      (more : now.state.currentSubtaskIndex + 1 < now.state.subtasks.length)
      (subtasks : after.state.subtasks = now.state.subtasks)
      (index : after.state.currentSubtaskIndex = now.state.currentSubtaskIndex + 1)
      (retries : after.state.retryCount = now.state.retryCount) : Moved now after .critic
  | retried (next : after.next = some .planner)
      (left : now.state.retryCount < now.state.maxRetries)
      (retries : after.state.retryCount = now.state.retryCount + 1) : Moved now after .critic
  | ended (next : after.next = none)
      (retries : after.state.retryCount = now.state.retryCount) : Moved now after .critic

/-- The nodes between the planner and the critic. -/
theorem between_moved {now after : Config} {visit : Visit} (node : Node)
    (planner : visit.node ≠ .planner) (critic : visit.node ≠ .critic)
    (state : after.state = wrapNode (visit.run now.state)) (next : after.next = some node)
    (closer : node.toCritic < visit.node.toCritic) : Moved now after visit := by
  obtain ⟨subtasks, index, retries, -⟩ := run_keeps _ now.state planner critic
  apply Moved.passed visit node next closer
  · rw [state, wrapNode_subtasks]
    exact subtasks
  · rw [state, wrapNode_currentSubtaskIndex]
    exact index
  · rw [state, wrapNode_retryCount]
    exact retries

theorem critic_moved {now after : Config} (state : after.state = wrapNode (criticRun now.state))
    (next : after.next = routeAfterCritic after.state) : Moved now after .critic := by
  have subtasks : after.state.subtasks = now.state.subtasks := by
    rw [state, wrapNode_subtasks]
    exact (criticRun_keeps now.state).1
  have reviewed := criticRun_reviewed now.state
  rw [← state] at reviewed
  cases reviewed with
  | unexecuted _ retries status =>
    exact .ended (by simp only [next, routeAfterCritic, status]) retries
  | advanced execution _ _ more index retries status =>
    exact .advanced (by simp only [next, routeAfterCritic, status]) more subtasks index retries
  | finished execution _ _ _ retries status =>
    exact .ended (by simp only [next, routeAfterCritic, status]) retries
  | retried execution _ retry _ count status =>
    exact .retried (by simp only [next, routeAfterCritic, status]) retry.2.2 count
  | abandoned execution _ _ retries status =>
    exact .ended (by simp only [next, routeAfterCritic, status]) retries

theorem step_moved {now after : Config} {visit : Visit} {events : List Event}
    (accepted : step visit now = .ok (after, events)) : Moved now after visit := by
  obtain ⟨_, state, next, _⟩ := step_ok accepted
  cases visit with
  | planner visit =>
    apply Moved.planned visit next
    rw [state, wrapNode_retryCount, Visit.run]
    rcases plannerRun_state visit now.state with ⟨_, exc, ran⟩ | ⟨_, subtasks, _, ran⟩
    · rw [ran]
    · rw [ran]
  | memory visit =>
    apply between_moved .simulator (by simp [Visit.node]) (by simp [Visit.node]) state next
    simp [Visit.node, Node.toCritic]
  | simulator visit =>
    apply between_moved .executor (by simp [Visit.node]) (by simp [Visit.node]) state next
    simp [Visit.node, Node.toCritic]
  | executor visit =>
    apply between_moved .critic (by simp [Visit.node]) (by simp [Visit.node]) state next
    simp [Visit.node, Node.toCritic]
  | critic => exact critic_moved state next

theorem step_maxRetries {now after : Config} {visit : Visit} {events : List Event}
    (accepted : step visit now = .ok (after, events)) :
    after.state.maxRetries = now.state.maxRetries := by
  obtain ⟨_, state, _, _⟩ := step_ok accepted
  rw [state, wrapNode_maxRetries]
  cases visit with
  | planner visit =>
    rcases plannerRun_state visit now.state with ⟨_, exc, ran⟩ | ⟨_, subtasks, _, ran⟩
    · rw [Visit.run, ran]
    · rw [Visit.run, ran]
  | critic => exact (criticRun_keeps now.state).2.2
  | memory visit =>
    have kept := run_keeps (.memory visit) now.state (by simp [Visit.node]) (by simp [Visit.node])
    exact kept.2.2.2
  | simulator visit =>
    have kept := run_keeps (.simulator visit) now.state (by simp [Visit.node]) (by simp [Visit.node])
    exact kept.2.2.2
  | executor visit =>
    have kept := run_keeps (.executor visit) now.state (by simp [Visit.node]) (by simp [Visit.node])
    exact kept.2.2.2

/-- The planner is entered at the start and once more for each retry. -/
structure Budgeted (maxRetries : Int) (past : List Entry) (now : Config) : Prop where
  limit : now.state.maxRetries = maxRetries
  within : now.state.retryCount ≤ maxRetries
  entered : (plannerEntered past : Int) + pending now ≤ now.state.retryCount + 1

/-- Only a retry leads back to the planner. -/
theorem Moved.pending_le {now after : Config} {visit : Visit} (moved : Moved now after visit) :
    now.state.retryCount + pending after ≤ after.state.retryCount ∧
      (after.state.retryCount = now.state.retryCount ∨
        now.state.retryCount < now.state.maxRetries ∧
          after.state.retryCount = now.state.retryCount + 1) := by
  have elsewhere : ∀ node, node ≠ Node.planner → after.next = some node → pending after = 0 := by
    intro node other next
    simp [pending, next, other]
  cases moved with
  | planned visit next retries =>
    rw [elsewhere .memory (by simp) next]
    omega
  | passed visit node next closer _ _ retries =>
    have other : node ≠ .planner := by
      rintro rfl
      have most : visit.node.toCritic ≤ 4 := by cases visit <;> simp [Visit.node, Node.toCritic]
      have farthest : Node.planner.toCritic = 4 := rfl
      omega
    rw [elsewhere node other next]
    omega
  | advanced next _ _ _ retries =>
    rw [elsewhere .simulator (by simp) next]
    omega
  | retried next left retries =>
    have one : pending after = 1 := by simp [pending, next]
    rw [one]
    omega
  | ended next retries =>
    have zero : pending after = 0 := by simp [pending, next]
    rw [zero]
    omega

theorem step_budgeted {maxRetries : Int} {past : List Entry} {now after : Config} {visit : Visit}
    {events : List Event} (held : Budgeted maxRetries past now)
    (accepted : step visit now = .ok (after, events)) :
    Budgeted maxRetries (past ++ [⟨now, visit, events, after⟩]) after := by
  obtain ⟨limit, within, entered⟩ := held
  obtain ⟨ahead, retries⟩ := (step_moved accepted).pending_le
  refine ⟨(step_maxRetries accepted).trans limit, by omega, ?_⟩
  rw [plannerEntered_snoc accepted]
  omega

/-- What a run has left: retries first, then subtasks and the nodes up to the critic. -/
def left (config : Config) : Nat ×ₗ Nat :=
  toLex (2 * (config.state.maxRetries - config.state.retryCount).toNat + pending config,
    4 * (config.state.subtasks.length - config.state.currentSubtaskIndex) +
      match config.next with
      | some node => node.toCritic
      | none => 0)

theorem step_left {now after : Config} {visit : Visit} {events : List Event}
    (accepted : step visit now = .ok (after, events)) (onward : after.next ≠ none) :
    left after < left now := by
  have limit := step_maxRetries accepted
  have entering := (step_ok accepted).1
  have moved := step_moved accepted
  obtain ⟨ahead, counted⟩ := moved.pending_le
  simp only [left, entering, limit, Prod.Lex.toLex_lt_toLex]
  cases moved with
  | planned visit next retries =>
    have before : pending now = 1 := by simp [pending, entering, Visit.node]
    left
    omega
  | passed visit node next closer subtasks index retries =>
    have before : pending now = 0 ∨ pending now = 1 := by
      unfold pending
      split <;> simp
    rw [next, subtasks, index, retries]
    rcases before with elsewhere | entered
    · right
      constructor
      · omega
      · dsimp only
        omega
    · left
      omega
  | advanced next more subtasks index retries =>
    rw [next, subtasks, index, retries]
    have before : pending now = 0 := by simp [pending, entering, Visit.node]
    right
    simp only [Visit.node, Node.toCritic]
    omega
  | retried next remaining retries =>
    left
    have before : pending now = 0 := by simp [pending, entering, Visit.node]
    omega
  | ended next retries => exact absurd next onward

theorem step_entered {visit : Visit} {now : Config} (entered : now.next = some visit.node) :
    ∃ after events, step visit now = .ok (after, events) := by
  unfold step
  rw [if_pos entered]
  exact ⟨_, _, rfl⟩

/-- Short of its end the graph makes one more visit. -/
theorem invoke_succ (start : Config) (behaviours : Nat → Behaviour) (count : Nat)
    (going : (invoke start behaviours count).now.next ≠ none) :
    ∃ visit events, step visit (invoke start behaviours count).now =
      .ok ((invoke start behaviours (count + 1)).now, events) := by
  cases entering : (invoke start behaviours count).now.next with
  | none => exact absurd entering going
  | some node =>
    obtain ⟨after, events, accepted⟩ := step_entered (entering.trans
      (congrArg some (Behaviour.visit_node (behaviours count) node).symm))
    refine ⟨(behaviours count).visit node, events, ?_⟩
    rw [accepted, invoke, advance, entering]
    dsimp only
    rw [Run.extend_ok step _ _ after events accepted]

/-- The graph comes to its end after finitely many visits, within its retries. -/
theorem graph_terminates (taskId agentId userRequest : String) (maxRetries : Int)
    (nonneg : 0 ≤ maxRetries) (behaviours : Nat → Behaviour) :
    (∃ count, (invoke (begin_ taskId agentId userRequest maxRetries) behaviours count).now.next =
      none) ∧
    ∀ count,
      (invoke (begin_ taskId agentId userRequest maxRetries) behaviours count).now.state.retryCount ≤
        maxRetries ∧
      (plannerEntered
        (invoke (begin_ taskId agentId userRequest maxRetries) behaviours count).past : Int) ≤
          maxRetries + 1 := by
  constructor
  · by_contra endless
    have going := not_exists.mp endless
    obtain ⟨count, stuck⟩ := WellFounded.not_rel_apply_succ (r := (· < ·)) fun count =>
      left (invoke (begin_ taskId agentId userRequest maxRetries) behaviours count).now
    obtain ⟨visit, events, accepted⟩ := invoke_succ _ behaviours count (going count)
    exact stuck (step_left accepted (going (count + 1)))
  · intro count
    obtain ⟨visits, same⟩ := invoke_history (begin_ taskId agentId userRequest maxRetries)
      behaviours count
    have rule := Run.run_induction step (begin_ taskId agentId userRequest maxRetries)
      (Budgeted maxRetries) ⟨rfl, nonneg, Int.le_refl 1⟩
    obtain ⟨limit, within, entered⟩ := rule (fun _ _ _ _ _ => step_budgeted) visits
    rw [same, history]
    exact ⟨within, by omega⟩

/-- Every transaction reverts. -/
theorem graph_terminates_reverting :
    let reverting : Behaviour :=
      { planner := planBoth
        memory := remember
        simulator := simulateWith (.ok (true, none))
        executor := { executeAs "0x01" with
          waitForReceipt := fun _ => .always (some .new) (.ok (false, 21000)) } }
    ∃ count, (invoke (begin_ "task" "7" "swap it" 2) (fun _ => reverting) count).now.next = none :=
  (graph_terminates "task" "7" "swap it" 2 (by decide) _).1

end BigX.Pipeline
