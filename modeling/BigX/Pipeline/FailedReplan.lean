import BigX.Pipeline.Frames

set_option autoImplicit false

/- What is dispatched after a visit of the planner that failed. The fixed edges lead on to
the simulator and the executor, which find whatever plan an earlier visit left. -/
namespace BigX.Pipeline

/-- In this visit the planner raised. -/
def PlanningFailed (entry : Entry) : Prop :=
  ∃ visit, entry.input = .planner visit ∧ (plannerRun visit entry.before.state).raised ≠ none

/-- Nothing is dispatched once a visit of the planner has failed. -/
def SilentAfterFailure (earlier : List Entry) (entry : Entry) : Prop :=
  (∃ failed ∈ earlier, PlanningFailed failed) →
    ∀ index subtask answer, .dispatched index subtask answer ∉ entry.output

/-- A visit of the planner that gets no plan finds none in the state either. -/
def failsUnplanned (config : Config) : Visit → Prop
  | .planner visit => ¬ visit.Delivers config.state.agentId → config.state.subtasks = []
  | _ => True

/-- Without a plan there is no execution, and after a failure there is no plan and no way
back to the planner. -/
structure Unplanned (past : List Entry) (now : Config) : Prop where
  unexecuted : now.state.subtasks = [] → now.state.execution = none
  failed : (∃ failed ∈ past, PlanningFailed failed) →
    now.state.subtasks = [] ∧ now.next ≠ some .planner

theorem planningFailed_iff (visit : PlannerVisit) (now after : Config) (events : List Event) :
    PlanningFailed ⟨now, .planner visit, events, after⟩ ↔
      ¬ visit.Delivers now.state.agentId := by
  have raised : PlanningFailed ⟨now, .planner visit, events, after⟩ ↔
      (plannerRun visit now.state).raised ≠ none := by
    constructor
    · rintro ⟨same, planner, raised⟩
      cases planner
      exact raised
    · intro raised
      exact ⟨visit, rfl, raised⟩
  rw [raised]
  rcases plannerRun_state visit now.state with ⟨denied, exc, ran⟩ | ⟨delivers, subtasks, _, ran⟩
  · rw [ran]
    exact iff_of_true (by simp) denied
  · rw [ran]
    exact iff_of_false (fun raised => raised rfl) (fun denied => denied delivers)

/-- A task without a plan has no current subtask, so nothing can be dispatched for it. -/
theorem unplanned_silent {visit : Visit} {state : AgentState} (unplanned : state.subtasks = [])
    (index : Nat) (subtask : SubTask) (answer : Except Exc String) :
    .dispatched index subtask answer ∉ (visit.run state).events := by
  intro dispatched
  obtain ⟨-, -, current, -⟩ := run_dispatched dispatched
  have within := (currentSubtask_ok_iff state).mp ⟨subtask, current⟩
  rw [unplanned] at within
  exact absurd within (Nat.not_lt_zero _)

/-- What the other nodes do to a state without a plan. -/
theorem run_unplanned {visit : Visit} {state : AgentState} (planner : visit.node ≠ .planner)
    (unplanned : state.subtasks = []) (unexecuted : state.execution = none) :
    (visit.run state).state.subtasks = [] ∧ (visit.run state).state.execution = none := by
  cases visit with
  | planner visit => exact absurd rfl planner
  | critic =>
    obtain ⟨subtasks, execution, -⟩ := criticRun_keeps state
    exact ⟨subtasks.trans unplanned, execution.trans unexecuted⟩
  | executor visit =>
    rcases executorRun_state visit state with ⟨exc, _, ran⟩ | ⟨subtask, _, current, -⟩
    · rw [Visit.run, ran]
      exact ⟨unplanned, unexecuted⟩
    · have within := (currentSubtask_ok_iff state).mp ⟨subtask, current⟩
      rw [unplanned] at within
      exact absurd within (Nat.not_lt_zero _)
  | _ =>
    constructor
    · exact (run_keeps _ state planner fun critic => by cases critic).1.trans unplanned
    · exact (run_execution _ state fun executor => by cases executor).trans unexecuted

/-- Without an execution the critic ends the run. -/
theorem unexecuted_successor {visit : Visit} {state : AgentState}
    (unexecuted : state.execution = none) :
    visit.node.successor (wrapNode (visit.run state)) ≠ some .planner := by
  cases visit with
  | critic =>
    have reviewed := criticRun_reviewed state
    have status : (wrapNode (criticRun state)).status = .failed := by
      cases reviewed with
      | unexecuted _ _ status => exact status
      | abandoned _ _ _ _ status => exact status
      | advanced execution stored => rw [unexecuted] at stored; cases stored
      | finished execution stored => rw [unexecuted] at stored; cases stored
      | retried execution stored => rw [unexecuted] at stored; cases stored
    simp only [Visit.node, Node.successor, routeAfterCritic, Visit.run, status]
    intro same
    cases same
  | planner visit => simp [Visit.node, Node.successor]
  | memory visit => simp [Visit.node, Node.successor]
  | simulator visit => simp [Visit.node, Node.successor]
  | executor visit => simp [Visit.node, Node.successor]

theorem step_silent {past : List Entry} {now after : Config} {visit : Visit}
    {events : List Event} (held : Unplanned past now)
    (accepted : step visit now = .ok (after, events)) :
    SilentAfterFailure past ⟨now, visit, events, after⟩ := by
  obtain ⟨_, _, _, rfl⟩ := step_ok accepted
  intro failed index subtask answer
  exact unplanned_silent (held.failed failed).1 index subtask answer

theorem planner_unplanned {past : List Entry} {now after : Config} {visit : PlannerVisit}
    (held : Unplanned past now) (condition : failsUnplanned now (.planner visit))
    (entered : now.next = some .planner)
    (state : after.state = wrapNode (plannerRun visit now.state))
    (next : after.next = some .memory) :
    Unplanned (past ++ [⟨now, .planner visit, (plannerRun visit now.state).events, after⟩])
      after := by
  have none_before : ¬ ∃ failed ∈ past, PlanningFailed failed :=
    fun failed => (held.failed failed).2 entered
  rcases plannerRun_state visit now.state with ⟨denied, exc, ran⟩ | ⟨delivers, subtasks, some_, ran⟩
  · have unplanned := condition denied
    have stays : after.state.subtasks = [] := by
      rw [state, wrapNode_subtasks, ran]
      exact unplanned
    have unexecuted : after.state.execution = none := by
      rw [state, wrapNode_execution, ran]
      exact held.unexecuted unplanned
    refine ⟨fun _ => unexecuted, fun _ => ⟨stays, ?_⟩⟩
    rw [next]
    intro same
    cases same
  · have planned : after.state.subtasks ≠ [] := by
      rw [state, wrapNode_subtasks, ran]
      exact some_
    refine ⟨fun empty => absurd empty planned, ?_⟩
    rintro ⟨failed, member, failure⟩
    rcases List.mem_append.mp member with earlier | last
    · exact absurd ⟨failed, earlier, failure⟩ none_before
    · rw [List.mem_singleton.mp last] at failure
      exact absurd delivers ((planningFailed_iff visit now after _).mp failure)

theorem step_unplanned {past : List Entry} {now after : Config} {visit : Visit}
    {events : List Event} (held : Unplanned past now) (condition : failsUnplanned now visit)
    (accepted : step visit now = .ok (after, events)) :
    Unplanned (past ++ [⟨now, visit, events, after⟩]) after := by
  obtain ⟨entered, state, next, rfl⟩ := step_ok accepted
  by_cases planner : visit.node = .planner
  · cases visit with
    | planner visit => exact planner_unplanned held condition entered state next
    | _ => cases planner
  · have earlier : (∃ failed ∈ past ++ [⟨now, visit, (visit.run now.state).events, after⟩],
        PlanningFailed failed) → ∃ failed ∈ past, PlanningFailed failed := by
      rintro ⟨failed, member, failure⟩
      refine ⟨failed, Run.mem_past_of_not_last PlanningFailed member failure ?_, failure⟩
      rintro ⟨same, entry, -⟩
      cases entry
      exact planner rfl
    have empty_kept : now.state.subtasks = [] →
        after.state.subtasks = [] ∧ after.state.execution = none := by
      intro empty
      rw [state, wrapNode_subtasks, wrapNode_execution]
      exact run_unplanned planner empty (held.unexecuted empty)
    constructor
    · intro empty
      have before : now.state.subtasks = [] := by
        rw [state, wrapNode_subtasks] at empty
        by_cases critic : visit.node = .critic
        · cases visit with
          | critic => exact (criticRun_keeps now.state).1.symm.trans empty
          | _ => cases critic
        · exact (run_keeps _ now.state planner critic).1.symm.trans empty
      exact (empty_kept before).2
    · intro failed
      obtain ⟨unplanned, -⟩ := held.failed (earlier failed)
      refine ⟨(empty_kept unplanned).1, ?_⟩
      rw [next, state]
      exact unexecuted_successor (held.unexecuted unplanned)

/-- In the runs whose planner fails only while there is no plan, nothing is dispatched after
a failure of the planner. -/
theorem failed_plan_dispatches_nothing (taskId agentId userRequest : String) (maxRetries : Int)
    (visits : List Visit)
    (unplanned : Run.Meets failsUnplanned
      (history (begin_ taskId agentId userRequest maxRetries) visits).past) :
    Run.Throughout SilentAfterFailure
      (history (begin_ taskId agentId userRequest maxRetries) visits).past := by
  have rule := Run.run_throughout_of_meets step
    (begin_ taskId agentId userRequest maxRetries) Unplanned failsUnplanned SilentAfterFailure
    ⟨fun _ => rfl, fun ⟨_, member, _⟩ => by cases member⟩
  refine (rule ?_ visits unplanned).1
  intro past now visit after events held condition accepted
  exact ⟨step_silent held accepted, step_unplanned held condition accepted⟩

section Sample

/-- The model cannot be reached. -/
def planNothing : PlannerVisit :=
  { planBoth with complete := .always none (.error (.other "connection refused")) }

/-- The first planner visit fails, and the other nodes are entered all the same. -/
theorem failed_plan_dispatches_nothing_first :
    Run.Throughout SilentAfterFailure (history (begin_ "task" "7" "swap it" 2)
      [.planner planNothing, .memory remember, .simulator (simulateWith (.ok (true, none))),
        .executor (executeAs "0x01"), .critic]).past := by
  apply failed_plan_dispatches_nothing
  intro entry member
  change entry ∈ [_, _, _, _, _] at member
  simp only [List.mem_cons, List.not_mem_nil, or_false] at member
  rcases member with rfl | rfl | rfl | rfl | rfl
  · exact fun _ => rfl
  all_goals trivial

/-- The first transaction reverts, and the planner that is asked again fails. -/
def revertedReplan : List Visit :=
  [.planner planBoth, .memory remember, .simulator (simulateWith (.ok (true, none))),
    .executor { executeAs "0x01" with
      waitForReceipt := fun _ => .always (some .new) (.ok (false, 21000)) }, .critic,
    .planner planNothing, .memory remember, .simulator (simulateWith (.ok (true, none))),
    .executor (executeAs "0x02")]

/-- The first subtask of the old plan is dispatched again after the planner failed. -/
theorem failed_plan_dispatches_old :
    ¬ Run.Throughout SilentAfterFailure
      (history (begin_ "task" "7" "swap it" 2) revertedReplan).past := by
  intro silent
  apply silent.at_index 8 (by decide) _ 0 transfer (.ok "0x02") (List.mem_cons_self ..)
  refine ⟨_, @List.getElem_mem _ _ 5 (by decide), planNothing, rfl, ?_⟩
  intro raised
  cases raised

end Sample

end BigX.Pipeline
