import BigX.Pipeline.Frames
import Mathlib.Data.List.DropRight

set_option autoImplicit false

/- What a task that is done has executed. The critic sees one execution record and one
index, which stand for all visits since the current plan was made. -/
namespace BigX.Pipeline

/-- In this visit the planner returned a plan. -/
def planned (entry : Entry) : Bool :=
  match entry.input with
  | .planner visit => (plannerRun visit entry.before.state).raised.isNone
  | _ => false

/-- The visits after the last one that returned a plan. -/
def sincePlan (past : List Entry) : List Entry :=
  past.rtakeWhile fun entry => !planned entry

def AgentState.confirmed (state : AgentState) : Bool :=
  match state.execution with
  | some execution => execution.status = .confirmed
  | none => false

/-- The subtask of a dispatch that returned a transaction. -/
def Event.submitted : Event → Option (SubTask × Nat)
  | .dispatched index subtask (.ok _) => some (subtask, index)
  | _ => none

/-- What an executor visit that records a confirmed execution has dispatched, each subtask
with its index. -/
def confirmedIn (entry : Entry) : List (SubTask × Nat) :=
  match entry.input with
  | .executor _ =>
      if entry.after.state.confirmed then entry.output.filterMap Event.submitted else []
  | _ => []

def confirmedSincePlan (past : List Entry) : List (SubTask × Nat) :=
  (sincePlan past).flatMap confirmedIn

theorem confirmedSincePlan_snoc (past : List Entry) (entry : Entry) :
    confirmedSincePlan (past ++ [entry]) =
      if planned entry then [] else confirmedSincePlan past ++ confirmedIn entry := by
  unfold confirmedSincePlan sincePlan
  rw [List.rtakeWhile_concat]
  cases planned entry <;> simp

/-- Among the attempts of a call that returns, only the last one counts. -/
theorem retryLoop_filterMap {α β : Type} (count : Except Exc α → Option β)
    (errors : ∀ exc, count (.error exc) = none) (calls : Attempts α) (maxRetries : Nat)
    (circuit : Option CircuitBreaker) (lastError : String) (attempt remaining : Nat) (value : α)
    (returned : (retryLoop calls maxRetries circuit lastError attempt remaining).result =
      .ok value) :
    (retryLoop calls maxRetries circuit lastError attempt remaining).made.filterMap count =
      (count (.ok value)).toList := by
  induction remaining generalizing circuit lastError attempt with
  | zero => cases returned
  | succ remaining ih =>
    unfold retryLoop at returned ⊢
    split at returned
    · cases returned
      cases counted : count (.ok value) <;> simp [counted]
    · rename_i exc failed
      simp only [List.filterMap_cons, errors]
      exact ih _ _ _ returned

theorem withRetry_filterMap {α β : Type} (count : Except Exc α → Option β)
    (errors : ∀ exc, count (.error exc) = none) (maxRetries : Nat) (calls : Attempts α)
    (value : α) (returned : (withRetry maxRetries calls).result = .ok value) :
    (withRetry maxRetries calls).made.filterMap count = (count (.ok value)).toList := by
  unfold withRetry at returned ⊢
  split at returned
  · exact retryLoop_filterMap count errors calls maxRetries _ _ _ _ value returned
  · rename_i circuit _
    by_cases allowed : (circuit.allow calls.asked).1 = true
    · simp only [allowed, ↓reduceIte] at returned ⊢
      exact retryLoop_filterMap count errors calls maxRetries _ _ _ _ value returned
    · simp only [allowed] at returned
      cases returned

/-- A confirmed execution comes from one dispatch, of the subtask it was asked for. -/
theorem submit_submitted {visit : ExecutorVisit} {index : Nat} {subtask : SubTask}
    {result : ExecutionResult} (returned : (submit visit index subtask).2 = .ok result) :
    (submit visit index subtask).1.filterMap Event.submitted = [(subtask, index)] := by
  have awaits : ∀ (txHash : String) (made : List (Except Exc (Bool × Nat))),
      (made.map (Event.awaitedReceipt txHash)).filterMap Event.submitted = [] := by
    intro txHash made
    simp [List.filterMap_map, Event.submitted, Function.comp_def]
  have spends : ∀ (value : Json) (made : List (Except Exc Unit)),
      (made.map (Event.recordedSpend value)).filterMap Event.submitted = [] := by
    intro value made
    simp [List.filterMap_map, Event.submitted, Function.comp_def]
  cases dispatches : (withRetry 2 visit.dispatch).result with
  | error exc =>
    simp only [submit, dispatches] at returned
    cases returned
  | ok txHash =>
    have once : ((withRetry 2 visit.dispatch).made.map (.dispatched index subtask)).filterMap
        Event.submitted = [(subtask, index)] := by
      rw [List.filterMap_map]
      exact withRetry_filterMap _ (fun _ => rfl) 2 visit.dispatch txHash dispatches
    simp only [submit, dispatches]
    repeat' split
    all_goals simp only [List.filterMap_append, once, awaits, spends, List.append_nil]

/-- The executor records a confirmed execution for the current subtask alone. -/
theorem executorRun_confirmed {visit : ExecutorVisit} {state : AgentState} {subtask : SubTask}
    (current : state.currentSubtask = .ok subtask)
    (confirmed : (executorRun visit state).state.confirmed = true) :
    (executorRun visit state).events.filterMap Event.submitted =
      [(subtask, state.currentSubtaskIndex)] := by
  unfold executorRun at confirmed ⊢
  simp only [current] at confirmed ⊢
  split at confirmed
  · cases confirmed
  · rename_i cleared
    rw [if_neg cleared]
    cases returned : (submit visit state.currentSubtaskIndex subtask).2 with
    | error exc =>
      simp only [returned] at confirmed
      cases confirmed
    | ok result => exact submit_submitted returned

/-- How far the confirmed subtasks reach at `config`. -/
def executedTo (config : Config) : Nat :=
  if config.next = some .critic ∧ config.state.confirmed = true then
    config.state.currentSubtaskIndex + 1
  else config.state.currentSubtaskIndex

/-- The confirmed subtasks are the plan's, from the first up to where the task stands, and
all of them once the task is done. -/
structure Executed (past : List Entry) (now : Config) : Prop where
  index : now.next ≠ none → now.state.currentSubtaskIndex < now.state.subtasks.length ∨
    now.state.subtasks = [] ∧ now.state.currentSubtaskIndex = 0 ∧ now.state.execution = none
  undone : now.next ≠ none → now.state.status ≠ .done
  upTo : now.next ≠ none →
    confirmedSincePlan past = now.state.subtasks.zipIdx.take (executedTo now)
  all : now.state.status = .done → confirmedSincePlan past = now.state.subtasks.zipIdx

theorem executedTo_index {config : Config} (elsewhere : config.next ≠ some .critic) :
    executedTo config = config.state.currentSubtaskIndex := by
  unfold executedTo
  rw [if_neg fun reviewed => elsewhere reviewed.1]

theorem Executed.of_undone {past : List Entry} {now : Config} (undone : now.state.status ≠ .done)
    (index : now.state.currentSubtaskIndex < now.state.subtasks.length ∨
      now.state.subtasks = [] ∧ now.state.currentSubtaskIndex = 0 ∧ now.state.execution = none)
    (upTo : confirmedSincePlan past = now.state.subtasks.zipIdx.take (executedTo now)) :
    Executed past now :=
  ⟨fun _ => index, fun _ => undone, fun _ => upTo, fun done => absurd done undone⟩

theorem Executed.of_ended {past : List Entry} {now : Config} (ended : now.next = none)
    (all : now.state.status = .done → confirmedSincePlan past = now.state.subtasks.zipIdx) :
    Executed past now :=
  ⟨fun on => absurd ended on, fun on => absurd ended on, fun on => absurd ended on, all⟩

/-- A visit that confirms nothing and leaves plan, index and execution as they were. -/
theorem Executed.unchanged {past : List Entry} {now : Config} {entry : Entry} {after : Config}
    (held : Executed past now) (going : now.next ≠ none) (from_ : now.next ≠ some .critic)
    (toward : after.next ≠ some .critic)
    (unplanned : planned entry = false) (unconfirmed : confirmedIn entry = [])
    (subtasks : after.state.subtasks = now.state.subtasks)
    (index : after.state.currentSubtaskIndex = now.state.currentSubtaskIndex)
    (execution : after.state.execution = now.state.execution)
    (undone : after.state.status ≠ .done) : Executed (past ++ [entry]) after := by
  apply Executed.of_undone undone
  · rw [index, subtasks, execution]
    exact held.index going
  · rw [confirmedSincePlan_snoc, unplanned, unconfirmed, executedTo_index toward, index, subtasks]
    have before := held.upTo going
    rw [executedTo_index from_] at before
    simpa using before

theorem planner_executed {past : List Entry} {now after : Config} {visit : PlannerVisit}
    (held : Executed past now) (entered : now.next = some .planner)
    (state : after.state = wrapNode (plannerRun visit now.state))
    (next : after.next = some .memory) :
    Executed (past ++ [⟨now, .planner visit, (plannerRun visit now.state).events, after⟩])
      after := by
  rcases plannerRun_state visit now.state with ⟨_, exc, ran⟩ | ⟨_, subtasks, nonempty, ran⟩
  · apply held.unchanged
    · simp [entered]
    · simp [entered]
    · simp [next]
    · simp only [planned, ran, Option.isNone_some]
    · rfl
    · rw [state, wrapNode_subtasks, ran]
    · rw [state, wrapNode_currentSubtaskIndex, ran]
    · rw [state, wrapNode_execution, ran]
    · rw [state, ran]
      intro same
      cases same
  · have fresh : planned ⟨now, .planner visit, (plannerRun visit now.state).events, after⟩ =
        true := by
      simp only [planned, ran, Option.isNone_none]
    have undone : after.state.status ≠ .done := by
      rw [state, ran]
      intro same
      cases same
    apply Executed.of_undone undone
    · rw [state, wrapNode_currentSubtaskIndex, wrapNode_subtasks, ran]
      exact Or.inl (List.length_pos_iff.mpr nonempty)
    · have first : executedTo after = 0 := by
        rw [executedTo_index (by simp [next]), state, wrapNode_currentSubtaskIndex, ran]
      rw [confirmedSincePlan_snoc, fresh, first]
      rfl

/-- The executor confirms the subtask at the index, or leaves an unconfirmed execution. -/
theorem executor_executed {past : List Entry} {now after : Config} {visit : ExecutorVisit}
    (held : Executed past now) (entered : now.next = some .executor)
    (state : after.state = wrapNode (executorRun visit now.state))
    (next : after.next = some .critic) :
    Executed (past ++ [⟨now, .executor visit, (executorRun visit now.state).events, after⟩])
      after := by
  have going : now.next ≠ none := by simp [entered]
  have before := held.upTo going
  rw [executedTo_index (by simp [entered])] at before
  have subtasks : after.state.subtasks = now.state.subtasks := by
    rw [state, wrapNode_subtasks]
    have kept := run_keeps (.executor visit) now.state (by simp [Visit.node]) (by simp [Visit.node])
    exact kept.1
  have index : after.state.currentSubtaskIndex = now.state.currentSubtaskIndex := by
    rw [state, wrapNode_currentSubtaskIndex, executorRun_currentSubtaskIndex]
  rcases executorRun_state visit now.state with
    ⟨exc, missing, ran⟩ | ⟨subtask, execution, current, raised, wrote⟩
  · -- Only a task without a plan has no current subtask, and it has no execution either.
    have empty : now.state.subtasks = [] ∧ now.state.currentSubtaskIndex = 0 ∧
        now.state.execution = none := by
      rcases held.index going with within | empty
      · obtain ⟨subtask, current⟩ := (currentSubtask_ok_iff now.state).mpr within
        rw [missing] at current
        cases current
      · exact empty
    have unexecuted : after.state.execution = none := by
      rw [state, wrapNode_execution, ran]
      exact empty.2.2
    have undone : after.state.status ≠ .done := by
      rw [state, ran]
      intro same
      cases same
    apply Executed.of_undone undone
      (Or.inr ⟨subtasks.trans empty.1, index.trans empty.2.1, unexecuted⟩)
    rw [confirmedSincePlan_snoc, before, subtasks, empty.1]
    simp [planned, confirmedIn, AgentState.confirmed, unexecuted]
  · have within := (currentSubtask_ok_iff now.state).mp ⟨subtask, current⟩
    have undone : after.state.status ≠ .done := by
      rw [state]
      apply wrapNode_not_done
      rw [wrote]
      intro same
      cases same
    have same : after.state.confirmed = (executorRun visit now.state).state.confirmed := by
      simp only [AgentState.confirmed, state, wrapNode_execution]
    apply Executed.of_undone undone (Or.inl (by rw [index, subtasks]; exact within))
    rw [confirmedSincePlan_snoc, before, subtasks]
    simp only [planned, confirmedIn, executedTo, next, index, same, true_and]
    cases confirmed : (executorRun visit now.state).state.confirmed with
    | false => simp
    | true =>
      have element : now.state.subtasks[now.state.currentSubtaskIndex] = subtask := by
        simp only [AgentState.currentSubtask, List.getElem?_eq_getElem within] at current
        exact Except.ok.inj current
      simp only [executorRun_confirmed current confirmed, ↓reduceIte, Bool.false_eq_true]
      rw [List.take_succ_eq_append_getElem (by simpa using within)]
      simp [element]

/-- The critic moves on, calls the task done or gives it up by the execution it finds. -/
theorem critic_executed {past : List Entry} {now after : Config}
    (held : Executed past now) (entered : now.next = some .critic)
    (state : after.state = wrapNode (criticRun now.state))
    (next : after.next = routeAfterCritic after.state) :
    Executed (past ++ [⟨now, .critic, (criticRun now.state).events, after⟩]) after := by
  have before := held.upTo (by simp [entered])
  have subtasks : after.state.subtasks = now.state.subtasks := by
    rw [state, wrapNode_subtasks]
    exact (criticRun_keeps now.state).1
  have kept : confirmedSincePlan
      (past ++ [⟨now, .critic, (criticRun now.state).events, after⟩]) =
        now.state.subtasks.zipIdx.take (executedTo now) := by
    rw [confirmedSincePlan_snoc, before]
    simp [planned, confirmedIn]
  have confirmed_iff : ∀ execution, now.state.execution = some execution →
      (now.state.confirmed = true ↔ execution.status = .confirmed) := by
    intro execution stored
    simp [AgentState.confirmed, stored]
  have going : now.next ≠ none := by simp [entered]
  have reviewed := criticRun_reviewed now.state
  rw [← state] at reviewed
  have failing : after.state.status = .failed → Executed
      (past ++ [⟨now, .critic, (criticRun now.state).events, after⟩]) after := by
    intro status
    have ended : after.next = none := by simp only [next, routeAfterCritic, status]
    apply Executed.of_ended ended
    intro done
    rw [status] at done
    cases done
  cases reviewed with
  | unexecuted _ _ status => exact failing status
  | abandoned _ _ _ _ status => exact failing status
  | advanced execution stored confirmed more index _ status =>
    have undone : after.state.status ≠ .done := by simp [status]
    have onward : after.next = some .simulator := by simp only [next, routeAfterCritic, status]
    apply Executed.of_undone undone
    · rw [index, subtasks]
      exact Or.inl more
    · have reach : executedTo after = after.state.currentSubtaskIndex :=
        executedTo_index (by simp [onward])
      rw [kept, reach, subtasks, index, executedTo,
        if_pos ⟨entered, (confirmed_iff execution stored).mpr confirmed⟩]
  | finished execution stored confirmed last _ status =>
    have ended : after.next = none := by simp only [next, routeAfterCritic, status]
    apply Executed.of_ended ended
    intro _
    rw [kept, subtasks, executedTo,
      if_pos ⟨entered, (confirmed_iff execution stored).mpr confirmed⟩]
    exact List.take_of_length_le (by simpa using last)
  | retried execution stored retries index _ status =>
    have undone : after.state.status ≠ .done := by simp [status]
    have back : after.next = some .planner := by simp only [next, routeAfterCritic, status]
    have unconfirmed : ¬ now.state.confirmed = true := by
      rw [confirmed_iff execution stored]
      exact retries.1
    apply Executed.of_undone undone
    · have execution_kept : after.state.execution = now.state.execution := by
        rw [state, wrapNode_execution]
        exact (criticRun_keeps now.state).2.1
      rw [index, subtasks, execution_kept]
      exact held.index going
    · have reach : executedTo after = after.state.currentSubtaskIndex :=
        executedTo_index (by simp [back])
      rw [kept, reach, subtasks, index, executedTo, if_neg fun both => unconfirmed both.2]

theorem step_executed {past : List Entry} {now after : Config} {visit : Visit}
    {events : List Event} (held : Executed past now)
    (accepted : step visit now = .ok (after, events)) :
    Executed (past ++ [⟨now, visit, events, after⟩]) after := by
  obtain ⟨entered, state, next, rfl⟩ := step_ok accepted
  have going : now.next ≠ none := by simp [entered]
  cases visit with
  | planner visit => exact planner_executed held entered state next
  | executor visit => exact executor_executed held entered state next
  | critic => exact critic_executed held entered state next
  | memory visit =>
    obtain ⟨context, wrote⟩ := memoryRun_state visit now.state
    apply held.unchanged going (by simp [entered, Visit.node])
      (by simp [next, Visit.node, Node.successor]) rfl rfl
    · rw [state, wrapNode_subtasks, Visit.run, wrote]
    · rw [state, wrapNode_currentSubtaskIndex, Visit.run, wrote]
    · rw [state, wrapNode_execution, Visit.run, wrote]
    · rw [state]
      apply wrapNode_not_done
      rw [Visit.run, wrote]
      exact held.undone going
  | simulator visit =>
    apply held.unchanged going (by simp [entered, Visit.node])
      (by simp [next, Visit.node, Node.successor]) rfl rfl
    · rw [state, wrapNode_subtasks]
      exact simulatorRun_subtasks visit now.state
    · rw [state, wrapNode_currentSubtaskIndex]
      exact simulatorRun_currentSubtaskIndex visit now.state
    · rw [state, wrapNode_execution]
      exact run_execution (.simulator visit) now.state (by simp [Visit.node])
    · rw [state]
      apply wrapNode_not_done
      rcases simulatorRun_state visit now.state with same | ⟨simulation, status, undone, wrote⟩
      · rw [Visit.run, same]
        exact held.undone going
      · rw [Visit.run, wrote]
        exact undone

/-- A task that is done has executed its whole plan, in order, since the plan was made. -/
theorem done_executed (taskId agentId userRequest : String) (maxRetries : Int)
    (visits : List Visit)
    (done : (history (begin_ taskId agentId userRequest maxRetries) visits).now.state.status =
      .done) :
    confirmedSincePlan (history (begin_ taskId agentId userRequest maxRetries) visits).past =
      (history (begin_ taskId agentId userRequest maxRetries) visits).now.state.subtasks.zipIdx := by
  have rule := Run.run_induction step (begin_ taskId agentId userRequest maxRetries) Executed
    ⟨fun _ => Or.inr ⟨rfl, rfl, rfl⟩, fun _ => by simp [begin_, buildInitialState], fun _ => rfl,
      fun done => by cases done⟩
  refine (rule ?_ visits).all done
  intro past now visit after events held accepted
  exact step_executed held accepted

/-- The second transaction reverts, and the plan that replaces the first has one subtask. -/
theorem done_executed_replanned :
    confirmedSincePlan (history (begin_ "task" "7" "swap it" 2)
      (revertedSecond.take 8 ++ [.planner { planBoth with decode := fun _ => .ok [swap] },
        .memory remember, .simulator (simulateWith (.ok (true, none))),
        .executor (executeAs "0x03"), .critic])).past = [(swap, 0)] :=
  done_executed "task" "7" "swap it" 2 _ rfl

end BigX.Pipeline
