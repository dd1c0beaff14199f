import BigX.Evm.CallStack

set_option autoImplicit false

/- What a contract has done that was not undone. A move may undo a call with everything
that happened inside it, so the past moves say little about the present state; the journal
keeps the stretches that still count, and the present state is their result. -/
namespace BigX.Evm

variable {σ ι κ ε ο : Type}

/-- What a contract runs without leaving it: a call's start, or a pending rest. -/
inductive Stretch (ι κ : Type)
  | start (input : ι)
  | rest (pending : κ)
  deriving DecidableEq

def Machine.advance (machine : Machine σ ι κ ε ο) : Stretch ι κ → σ → Except ε (Progress σ κ ο)
  | .start input => machine.enter input
  | .rest pending => machine.resume pending

/-- The stretches that led to a state, oldest first. -/
abbrev Journal (σ ι κ ο : Type) : Type := Run.Trace σ (Stretch ι κ) ο

/-- The same progress, on a state of another kind. -/
def Progress.withState {τ : Type} (progress : Progress σ κ ο) (state : τ) : Progress τ κ ο :=
  match progress with
  | .done _ output => .done state output
  | .calling _ rest output => .calling state rest output

/-- Run one stretch and write it down. -/
def Machine.record (machine : Machine σ ι κ ε ο) (stretch : Stretch ι κ)
    (journal : Journal σ ι κ ο) : Except ε (Progress (Journal σ ι κ ο) κ ο) :=
  match machine.advance stretch journal.now with
  | .ok progress => .ok (progress.withState
      ⟨journal.past ++ [⟨journal.now, stretch, progress.output, progress.state⟩], progress.state⟩)
  | .error reason => .error reason

/-- The same contract, keeping a journal. An undone call takes its entries with it. -/
def Machine.journaled (machine : Machine σ ι κ ε ο) :
    Machine (Journal σ ι κ ο) ι κ ε ο where
  enter := fun input => machine.record (.start input)
  resume := fun pending => machine.record (.rest pending)

/-- Without the journal. -/
def forget (config : Config (Journal σ ι κ ο) κ) : Config σ κ :=
  ⟨config.state.now, config.stack.map fun frame => ⟨frame.rest, frame.snapshot.now⟩⟩

/-- Keeping a journal changes nothing a contract does. -/
theorem journaled_step (machine : Machine σ ι κ ε ο) (move : Move ι)
    (config : Config (Journal σ ι κ ο) κ) :
    machine.step move (forget config) =
      (machine.journaled.step move config).map fun result => (forget result.1, result.2) := by
  obtain ⟨journal, stack⟩ := config
  cases move with
  | call input =>
    simp only [Machine.step, Machine.journaled, Machine.record, Machine.advance, forget]
    cases machine.enter input journal.now with
    | error reason => rfl
    | ok progress => cases progress <;> rfl
  | returned =>
    cases stack with
    | nil => rfl
    | cons frame outer =>
      simp only [Machine.step, Machine.journaled, Machine.record, Machine.advance, forget,
        List.map_cons]
      cases machine.resume frame.rest journal.now with
      | error reason => rfl
      | ok progress => cases progress <;> rfl
  | failed => cases stack <;> rfl

/-- A run that keeps a journal is a run. -/
theorem forget_run (machine : Machine σ ι κ ε ο) (start : σ) (moves : List (Move ι)) :
    forget (Run.run machine.journaled.step ⟨⟨[], start⟩, []⟩ moves).now =
      (Run.run machine.step ⟨start, []⟩ moves).now := by
  induction moves using List.reverseRecOn with
  | nil => rfl
  | append_singleton moves move ih =>
    have step := journaled_step machine move
      (Run.run machine.journaled.step ⟨⟨[], start⟩, []⟩ moves).now
    rw [ih] at step
    rw [Run.run_snoc, Run.run_snoc]
    cases attempt : machine.journaled.step move
        (Run.run machine.journaled.step ⟨⟨[], start⟩, []⟩ moves).now with
    | error reason =>
      rw [attempt] at step
      rw [Run.extend_error _ _ _ reason attempt, Run.extend_error _ _ _ reason step]
      exact ih
    | ok result =>
      rw [attempt] at step
      rw [Run.extend_ok _ _ _ result.1 result.2 attempt, Run.extend_ok _ _ _ _ _ step]

/-- The stretches of a run that were not undone, oldest first. -/
def Machine.journal (machine : Machine σ ι κ ε ο) (start : σ) (moves : List (Move ι)) :
    List (Run.Entry σ (Stretch ι κ) ο) :=
  (Run.run machine.journaled.step ⟨⟨[], start⟩, []⟩ moves).now.state.past

/-- The journal with one more stretch. -/
def Journal.add (journal : Journal σ ι κ ο) (stretch : Stretch ι κ) (progress : Progress σ κ ο) :
    Journal σ ι κ ο :=
  ⟨journal.past ++ [⟨journal.now, stretch, progress.output, progress.state⟩], progress.state⟩

/-- The calls under way after a stretch of a call that began at `snapshot`. -/
def Progress.pending {τ : Type} (progress : Progress σ κ ο) (snapshot : τ)
    (outer : List (Frame τ κ)) : List (Frame τ κ) :=
  match progress with
  | .done _ _ => outer
  | .calling _ rest _ => ⟨rest, snapshot⟩ :: outer

/-- `invariant` of the journal and the calls under way, and of each call's journal as it was
when the call began, with the calls outside it. -/
def Nested (invariant : Journal σ ι κ ο → List (Frame (Journal σ ι κ ο) κ) → Prop) :
    Journal σ ι κ ο → List (Frame (Journal σ ι κ ο) κ) → Prop
  | journal, [] => invariant journal []
  | journal, frame :: outer =>
      invariant journal (frame :: outer) ∧ Nested invariant frame.snapshot outer

theorem Nested.here {invariant : Journal σ ι κ ο → List (Frame (Journal σ ι κ ο) κ) → Prop}
    {journal : Journal σ ι κ ο} {stack : List (Frame (Journal σ ι κ ο) κ)}
    (held : Nested invariant journal stack) : invariant journal stack := by
  cases stack with
  | nil => exact held
  | cons frame outer => exact held.1

theorem Nested.replace {invariant : Journal σ ι κ ο → List (Frame (Journal σ ι κ ο) κ) → Prop}
    {journal longer : Journal σ ι κ ο} {stack : List (Frame (Journal σ ι κ ο) κ)}
    (held : Nested invariant journal stack) (next : invariant longer stack) :
    Nested invariant longer stack := by
  cases stack with
  | nil => exact next
  | cons frame outer => exact ⟨next, held.2⟩

/-- What recording a stretch does to the configuration. -/
theorem record_settle (machine : Machine σ ι κ ε ο) (stretch : Stretch ι κ)
    (journal snapshot : Journal σ ι κ ο) (outer : List (Frame (Journal σ ι κ ο) κ))
    (recorded : Progress (Journal σ ι κ ο) κ ο)
    (accepted : machine.record stretch journal = .ok recorded) :
    ∃ progress, machine.advance stretch journal.now = .ok progress ∧
      (recorded.settle snapshot outer).1 =
        ⟨journal.add stretch progress, progress.pending snapshot outer⟩ := by
  simp only [Machine.record] at accepted
  split at accepted
  · rename_i progress advanced
    refine ⟨progress, advanced, ?_⟩
    cases progress <;> cases accepted <;> rfl
  · cases accepted

/-- The journal rule with the calls under way: a stretch is looked at together with the calls
that wait, and an undone call leaves what held when it began. -/
theorem journal_induction_stack (machine : Machine σ ι κ ε ο) (start : σ)
    (invariant : Journal σ ι κ ο → List (Frame (Journal σ ι κ ο) κ) → Prop)
    (base : invariant ⟨[], start⟩ [])
    (calls : ∀ journal stack input progress, invariant journal stack →
      machine.enter input journal.now = .ok progress →
      invariant (journal.add (.start input) progress) (progress.pending journal stack))
    (returns : ∀ journal frame outer progress, invariant journal (frame :: outer) →
      invariant frame.snapshot outer → machine.resume frame.rest journal.now = .ok progress →
      invariant (journal.add (.rest frame.rest) progress) (progress.pending frame.snapshot outer))
    (moves : List (Move ι)) :
    ∃ journal stack, invariant journal stack ∧ journal.past = machine.journal start moves ∧
      journal.now = (Run.run machine.step ⟨start, []⟩ moves).now.state := by
  suffices nested : Nested invariant
      (Run.run machine.journaled.step ⟨⟨[], start⟩, []⟩ moves).now.state
      (Run.run machine.journaled.step ⟨⟨[], start⟩, []⟩ moves).now.stack by
    refine ⟨_, _, nested.here, rfl, ?_⟩
    rw [← forget_run machine start moves]
    rfl
  apply Run.run_induction machine.journaled.step ⟨⟨[], start⟩, []⟩
    (fun _ now => Nested invariant now.state now.stack)
  · exact base
  have settled : ∀ (journal : Journal σ ι κ ο) (progress : Progress σ κ ο) stretch snapshot outer,
      Nested invariant snapshot outer →
      invariant (journal.add stretch progress) (progress.pending snapshot outer) →
      Nested invariant (journal.add stretch progress) (progress.pending snapshot outer) := by
    intro journal progress stretch snapshot outer below next
    cases progress with
    | done state output => exact below.replace next
    | calling state rest output => exact ⟨next, below⟩
  intro past now move after effect held accepted
  cases move with
  | call input =>
    simp only [Machine.step] at accepted
    split at accepted
    · rename_i recorded entered
      obtain ⟨progress, advanced, same⟩ := record_settle machine (.start input) now.state now.state
        now.stack recorded entered
      have reached := congrArg Prod.fst (Except.ok.inj accepted)
      rw [← show _ = after from reached, same]
      exact settled now.state progress (.start input) now.state now.stack held
        (calls now.state now.stack input progress held.here advanced)
    · cases accepted
  | returned =>
    simp only [Machine.step] at accepted
    split at accepted
    · cases accepted
    · rename_i frame outer stacked
      rw [stacked] at held
      obtain ⟨current, below⟩ := held
      split at accepted
      · rename_i recorded resumed
        obtain ⟨progress, advanced, same⟩ := record_settle machine (.rest frame.rest) now.state
          frame.snapshot outer recorded resumed
        have reached := congrArg Prod.fst (Except.ok.inj accepted)
        rw [← show _ = after from reached, same]
        exact settled now.state progress (.rest frame.rest) frame.snapshot outer below
          (returns now.state frame outer progress current below.here advanced)
      · cases accepted
        exact below
  | failed =>
    simp only [Machine.step] at accepted
    split at accepted
    · cases accepted
    · rename_i frame outer stacked
      rw [stacked] at held
      cases accepted
      exact held.2

/-- Each pending rest is accounted for by the journal as it was when the rest was left. -/
def Accounted (owes : List (Run.Entry σ (Stretch ι κ) ο) → κ → Prop)
    (good : Journal σ ι κ ο → Prop) :
    Journal σ ι κ ο → List (Frame (Journal σ ι κ ο) κ) → Prop
  | journal, [] => good journal
  | journal, frame :: outer => good journal ∧ owes journal.past frame.rest ∧
      frame.snapshot.past <+: journal.past ∧ Accounted owes good frame.snapshot outer

variable {owes : List (Run.Entry σ (Stretch ι κ) ο) → κ → Prop} {good : Journal σ ι κ ο → Prop}

theorem Accounted.reached {journal : Journal σ ι κ ο} {stack : List (Frame (Journal σ ι κ ο) κ)}
    (held : Accounted owes good journal stack) : good journal := by
  cases stack with
  | nil => exact held
  | cons frame outer => exact held.1

/-- A longer journal accounts for what a shorter one accounts for. -/
theorem Accounted.extend {journal longer : Journal σ ι κ ο}
    {stack : List (Frame (Journal σ ι κ ο) κ)} (held : Accounted owes good journal stack)
    (reached : good longer) (grown : journal.past <+: longer.past)
    (mono : ∀ past more rest, past <+: more → owes past rest → owes more rest) :
    Accounted owes good longer stack := by
  cases stack with
  | nil => exact reached
  | cons frame outer =>
    obtain ⟨-, owed, before, deeper⟩ := held
    exact ⟨reached, mono _ _ _ grown owed, before.trans grown, deeper⟩

/-- The journal rule with pending rests: a rest that goes on was left by the stretches of
the journal, whatever was undone in between. -/
theorem journal_induction_pending (machine : Machine σ ι κ ε ο) (start : σ)
    (motive : List (Run.Entry σ (Stretch ι κ) ο) → σ → Prop)
    (owes : List (Run.Entry σ (Stretch ι κ) ο) → κ → Prop) (base : motive [] start)
    (mono : ∀ past more rest, past <+: more → owes past rest → owes more rest)
    (keeps : ∀ past now stretch progress, motive past now →
      (∀ pending, stretch = .rest pending → owes past pending) →
      machine.advance stretch now = .ok progress →
      motive (past ++ [⟨now, stretch, progress.output, progress.state⟩]) progress.state ∧
        ∀ state rest output, progress = .calling state rest output →
          owes (past ++ [⟨now, stretch, output, state⟩]) rest)
    (moves : List (Move ι)) :
    motive (machine.journal start moves) (Run.run machine.step ⟨start, []⟩ moves).now.state := by
  have grown : ∀ stretch (journal snapshot : Journal σ ι κ ο) progress outer,
      machine.advance stretch journal.now = .ok progress → motive journal.past journal.now →
      (∀ pending, stretch = .rest pending → owes journal.past pending) →
      snapshot.past <+: journal.past →
      Accounted owes (fun journal => motive journal.past journal.now) snapshot outer →
      Accounted owes (fun journal => motive journal.past journal.now)
        (journal.add stretch progress) (progress.pending snapshot outer) := by
    intro stretch journal snapshot progress outer advanced held owed before below
    obtain ⟨reached, pending⟩ := keeps journal.past journal.now stretch progress held owed advanced
    have longer : snapshot.past <+: (journal.add stretch progress).past :=
      before.trans (List.prefix_append _ _)
    cases progress with
    | done state output => exact below.extend reached longer mono
    | calling state rest output => exact ⟨reached, pending state rest output rfl, longer, below⟩
  have rule := journal_induction_stack machine start
    (Accounted owes fun journal => motive journal.past journal.now) base ?_ ?_ moves
  · obtain ⟨journal, stack, accounted, past, now⟩ := rule
    rw [← past, ← now]
    exact accounted.reached
  · intro journal stack input progress held entered
    exact grown (.start input) journal journal progress stack entered held.reached
      (fun pending other => by cases other) List.prefix_rfl held
  · rintro journal frame outer progress ⟨held, owed, before, below⟩ - resumed
    refine grown (.rest frame.rest) journal frame.snapshot progress outer resumed held ?_ before
      below
    intro pending other
    cases other
    exact owed

/-- What holds of the empty journal and is kept by each stretch holds of the journal and the
state of every run. -/
theorem journal_induction (machine : Machine σ ι κ ε ο) (start : σ)
    (motive : List (Run.Entry σ (Stretch ι κ) ο) → σ → Prop) (base : motive [] start)
    (keeps : ∀ past now stretch progress, motive past now →
      machine.advance stretch now = .ok progress →
      motive (past ++ [⟨now, stretch, progress.output, progress.state⟩]) progress.state)
    (moves : List (Move ι)) :
    motive (machine.journal start moves) (Run.run machine.step ⟨start, []⟩ moves).now.state := by
  apply journal_induction_pending machine start motive (fun _ _ => True) base
  · intro past more rest _ _
    trivial
  · intro past now stretch progress held _ advanced
    exact ⟨keeps past now stretch progress held advanced, fun _ _ _ _ => trivial⟩

/-- When a good state stays good under a stretch exactly if the stretch meets `condition`, the
states of a journal are all good exactly if its stretches all do, and then so is the present
one. -/
theorem journal_always_iff (machine : Machine σ ι κ ε ο) (start : σ) (good : σ → Prop)
    (condition : σ → Stretch ι κ → Prop) (base : good start)
    (exact : ∀ now stretch progress, good now → machine.advance stretch now = .ok progress →
      (good progress.state ↔ condition now stretch)) (moves : List (Move ι)) :
    ((∀ entry ∈ machine.journal start moves, good entry.after) ↔
        Run.Meets condition (machine.journal start moves)) ∧
      (Run.Meets condition (machine.journal start moves) →
        good (Run.run machine.step ⟨start, []⟩ moves).now.state) := by
  apply journal_induction machine start (fun past now =>
    ((∀ entry ∈ past, good entry.after) ↔ Run.Meets condition past) ∧
      (Run.Meets condition past → good now))
  · exact ⟨by simp [Run.Meets], fun _ => base⟩
  · rintro past now stretch progress ⟨same, current⟩ advanced
    have split_last : (∀ entry ∈ past ++ [⟨now, stretch, progress.output, progress.state⟩],
        good entry.after) ↔ (∀ entry ∈ past, good entry.after) ∧ good progress.state := by
      simp only [List.mem_append, List.mem_singleton, or_imp, forall_and, forall_eq]
    rw [split_last, Run.meets_snoc, same]
    constructor
    · constructor
      · rintro ⟨meets, last⟩
        exact ⟨meets, (exact now stretch progress (current meets) advanced).mp last⟩
      · rintro ⟨meets, last⟩
        exact ⟨meets, (exact now stretch progress (current meets) advanced).mpr last⟩
    · rintro ⟨meets, last⟩
      exact (exact now stretch progress (current meets) advanced).mpr last

end BigX.Evm
