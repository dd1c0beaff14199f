import BigX.Evm.CallStack
set_option autoImplicit false

/- What undoing a call restores. -/
namespace BigX.Evm

variable {σ ι κ ε ο : Type}

/-- How one move changes the calls under way. -/
inductive StackStep (before after : Config σ κ) : Move ι → Effect ο → Prop
  | ended (input : ι) (output : ο) (same : after.stack = before.stack) :
      StackStep before after (.call input) (.wrote output)
  | opened (input : ι) (output : ο) (rest : κ)
      (pushed : after.stack = ⟨rest, before.state⟩ :: before.stack) :
      StackStep before after (.call input) (.wrote output)
  | finished (frame : Frame σ κ) (output : ο) (popped : before.stack = frame :: after.stack) :
      StackStep before after .returned (.wrote output)
  | onward (frame : Frame σ κ) (outer : List (Frame σ κ)) (rest : κ) (output : ο)
      (popped : before.stack = frame :: outer)
      (pushed : after.stack = ⟨rest, frame.snapshot⟩ :: outer) :
      StackStep before after .returned (.wrote output)
  | undone (move : Move ι) (rest : κ)
      (popped : before.stack = ⟨rest, after.state⟩ :: after.stack) :
      StackStep before after move .undone

theorem Machine.step_stack (machine : Machine σ ι κ ε ο) (move : Move ι)
    (before after : Config σ κ) (effect : Effect ο)
    (accepted : machine.step move before = .ok (after, effect)) :
    StackStep before after move effect := by
  cases move with
  | call input =>
    simp only [Machine.step] at accepted
    split at accepted
    · rename_i progress _
      cases progress with
      | done state output =>
        cases accepted
        exact .ended input output rfl
      | calling state rest output =>
        cases accepted
        exact .opened input output rest rfl
    · cases accepted
  | returned =>
    simp only [Machine.step] at accepted
    split at accepted
    · cases accepted
    · rename_i frame outer stacked
      split at accepted
      · rename_i progress _
        cases progress with
        | done state output =>
          cases accepted
          exact .finished frame output stacked
        | calling state rest output =>
          cases accepted
          exact .onward frame outer rest output stacked rfl
      · cases accepted
        exact .undone _ frame.rest stacked
  | failed =>
    simp only [Machine.step] at accepted
    split at accepted
    · cases accepted
    · rename_i frame outer stacked
      cases accepted
      exact .undone _ frame.rest stacked

/-- `opened` is the configuration before a call of the past that has been under way ever since. -/
def OpenedAt (past : List (Run.Entry (Config σ κ) (Move ι) (Effect ο))) (opened : Config σ κ) :
    Prop :=
  ∃ earlier opening between, past = earlier ++ opening :: between ∧
    (∃ input, opening.input = .call input) ∧ opening.before = opened ∧
    ∀ entry ∈ opening :: between, opened.stack.length < entry.after.stack.length

theorem OpenedAt.extend {past : List (Run.Entry (Config σ κ) (Move ι) (Effect ο))}
    {opened : Config σ κ} (held : OpenedAt past opened)
    (last : Run.Entry (Config σ κ) (Move ι) (Effect ο))
    (deeper : opened.stack.length < last.after.stack.length) :
    OpenedAt (past ++ [last]) opened := by
  obtain ⟨earlier, opening, between, rfl, called, same, under⟩ := held
  refine ⟨earlier, opening, between ++ [last], by simp, called, same, ?_⟩
  intro entry member
  rw [← List.cons_append] at member
  rcases List.mem_append.mp member with within | final
  · exact under entry within
  · rw [List.mem_singleton.mp final]
    exact deeper

/-- Each call under way was opened by a call of the past. -/
def AllOpened (past : List (Run.Entry (Config σ κ) (Move ι) (Effect ο)))
    (stack : List (Frame σ κ)) : Prop :=
  ∀ upper frame outer, stack = upper ++ frame :: outer → OpenedAt past ⟨frame.snapshot, outer⟩

theorem AllOpened.extend {past : List (Run.Entry (Config σ κ) (Move ι) (Effect ο))}
    {stack : List (Frame σ κ)} (held : AllOpened past stack)
    (last : Run.Entry (Config σ κ) (Move ι) (Effect ο))
    (deep : stack.length ≤ last.after.stack.length) : AllOpened (past ++ [last]) stack := by
  intro upper frame outer split_stack
  refine (held upper frame outer split_stack).extend last ?_
  have length := congrArg List.length split_stack
  rw [List.length_append, List.length_cons] at length
  dsimp only
  omega

theorem AllOpened.push {past : List (Run.Entry (Config σ κ) (Move ι) (Effect ο))}
    {frame : Frame σ κ} {outer : List (Frame σ κ)}
    (top : OpenedAt past ⟨frame.snapshot, outer⟩) (below : AllOpened past outer) :
    AllOpened past (frame :: outer) := by
  intro upper other deeper split_stack
  cases upper with
  | nil =>
    cases split_stack
    exact top
  | cons first upper =>
    injection split_stack with _ rest
    exact below upper other deeper rest

theorem AllOpened.pop {past : List (Run.Entry (Config σ κ) (Move ι) (Effect ο))}
    {frame : Frame σ κ} {outer : List (Frame σ κ)} (held : AllOpened past (frame :: outer)) :
    OpenedAt past ⟨frame.snapshot, outer⟩ ∧ AllOpened past outer := by
  refine ⟨held [] frame outer rfl, ?_⟩
  rintro upper other deeper rfl
  exact held (frame :: upper) other deeper rfl

/-- A move that undoes a call returns to the configuration before that call. -/
theorem Machine.run_undone (machine : Machine σ ι κ ε ο) (start : σ) (moves : List (Move ι)) :
    Run.Throughout (fun earlier entry => entry.output = .undone → OpenedAt earlier entry.after)
      (Run.run machine.step ⟨start, []⟩ moves).past := by
  suffices both : Run.Throughout
      (fun earlier entry => entry.output = .undone → OpenedAt earlier entry.after)
      (Run.run machine.step ⟨start, []⟩ moves).past ∧
      AllOpened (Run.run machine.step ⟨start, []⟩ moves).past
        (Run.run machine.step ⟨start, []⟩ moves).now.stack from both.1
  apply Run.run_induction machine.step ⟨start, []⟩ (fun past now => Run.Throughout
    (fun earlier entry => entry.output = .undone → OpenedAt earlier entry.after) past ∧
      AllOpened past now.stack)
  · refine ⟨Run.throughout_nil _, ?_⟩
    intro upper frame outer split_stack
    cases upper <;> cases split_stack
  · rintro past now move after effect ⟨held, opened⟩ accepted
    rw [Run.throughout_snoc]
    have grown : ∀ stack, AllOpened past stack → stack.length ≤ after.stack.length →
        AllOpened (past ++ [⟨now, move, effect, after⟩]) stack :=
      fun stack all deep => all.extend ⟨now, move, effect, after⟩ deep
    cases machine.step_stack move now after effect accepted with
    | ended input output same =>
      refine ⟨⟨held, fun undone => by cases undone⟩, ?_⟩
      rw [same]
      exact grown _ opened (Nat.le_of_eq (by rw [same]))
    | opened input output rest pushed =>
      refine ⟨⟨held, fun undone => by cases undone⟩, ?_⟩
      rw [pushed]
      refine AllOpened.push ?_ (grown _ opened (by rw [pushed, List.length_cons]; omega))
      refine ⟨past, _, [], rfl, ⟨input, rfl⟩, rfl, ?_⟩
      intro entry member
      rw [List.mem_singleton.mp member, pushed, List.length_cons]
      exact Nat.lt_succ_self _
    | finished frame output popped =>
      refine ⟨⟨held, fun undone => by cases undone⟩, ?_⟩
      rw [popped] at opened
      exact grown _ opened.pop.2 (Nat.le_refl _)
    | onward frame outer rest output popped pushed =>
      refine ⟨⟨held, fun undone => by cases undone⟩, ?_⟩
      rw [popped] at opened
      rw [pushed]
      refine AllOpened.push ?_ (grown _ opened.pop.2 (by rw [pushed, List.length_cons]; omega))
      refine opened.pop.1.extend _ ?_
      rw [pushed, List.length_cons]
      exact Nat.lt_succ_self _
    | undone _ rest popped =>
      rw [popped] at opened
      exact ⟨⟨held, fun _ => opened.pop.1⟩, grown _ opened.pop.2 (Nat.le_refl _)⟩

end BigX.Evm
