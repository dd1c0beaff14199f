import BigX.Messaging.NoLoss

set_option autoImplicit false

/- How often the handler completes an event when the idempotency check and mark are backed
by one durable store. The check is read, the handler runs and the mark is written one after
the other, while other deliveries of the same event go on. -/
namespace BigX.Messaging

open Amqp

variable {Event : Type} {consumer : Consumer Event}

/-- The consumer, the event ids in the store, and what the store has answered to the checks. -/
structure Backed (Event : Type) where
  state : State Event
  store : List String
  answers : Nat → Option Bool

def Backed.begin_ (ready : Queue → List Message) (store : List String) : Backed Event :=
  ⟨.begin_ ready, store, fun _ => none⟩

/-- The consumer moves, or the store reads for a check or writes a mark that is awaited. -/
inductive BackedMove
  | consumer (move : Move)
  | read (tag : Nat)
  | written (tag : Nat)

/-- The event id that a delivery's check asks for and the store has not answered yet. -/
def Backed.asking (now : Backed Event) (tag : Nat) : Option String :=
  match now.state.tasks tag, now.answers tag with
  | some ⟨message, .checking⟩, none => message.eventId
  | _, _ => none

/-- The event id that a delivery's mark is to write. -/
def Backed.marking (now : Backed Event) (tag : Nat) : Option String :=
  match now.state.tasks tag with
  | some ⟨message, .marking⟩ => message.eventId
  | _ => none

/-- A check returns what the store has answered, and a mark returns once it is written. -/
def Backed.admits (now : Backed Event) : Move → Bool
  | .stepped tag (.returned value) _ =>
      match now.state.tasks tag with
      | some ⟨_, .checking⟩ => now.answers tag = some value
      | some ⟨message, .marking⟩ => message.eventId.all fun id => id ∈ now.store
      | _ => true
  | _ => true

def backedStep (consumer : Consumer Event) (move : BackedMove) (now : Backed Event) :
    Except Impossible (Backed Event × Unit) :=
  match move with
  | .consumer move =>
      if now.admits move = true then
        match step consumer move now.state with
        | .ok (state, _) => .ok ({ now with state := state }, ())
        | .error reason => .error reason
      else .error .impossible
  | .read tag =>
      match now.asking tag with
      | some id => .ok ({ now with
          answers := Function.update now.answers tag (some (decide (id ∈ now.store))) }, ())
      | none => .error .impossible
  | .written tag =>
      match now.marking tag with
      | some id => .ok ({ now with store := now.store ++ [id] }, ())
      | none => .error .impossible

abbrev backedHistory (consumer : Consumer Event) (ready : Queue → List Message)
    (store : List String) (moves : List BackedMove) : Run.Trace (Backed Event) BackedMove Unit :=
  Run.run (backedStep consumer) (Backed.begin_ ready store) moves

/-- How often the handler completed the event. -/
def State.completions (state : State Event) (id : String) : Nat :=
  state.completed.countP fun message => message.eventId = some id

/-- The delivery is past a check that found nothing, and its mark has not returned. -/
def Point.engaged (answer : Option Bool) : Point Event → Bool
  | .checking => answer = some false
  | .handling _ => true
  | .marking => true
  | _ => false

def Backed.Engaged (now : Backed Event) (id : String) (tag : Nat) : Prop :=
  ∃ task, now.state.tasks tag = some task ∧ task.message.eventId = some id ∧
    task.point.engaged (now.answers tag) = true

/-- No check finds nothing while another delivery of the event is between its check and its
mark, and no delivery leaves its mark before it is written. -/
def oneAtATime (now : Backed Event) : BackedMove → Prop
  | .read tag => ∀ id, now.asking tag = some id → id ∉ now.store → ∀ other, ¬ now.Engaged id other
  | .consumer (.stepped tag (.raised _) _) => ∀ id, now.marking tag = some id → id ∈ now.store
  | .consumer (.abandoned tag) => ∀ id, now.marking tag = some id → id ∈ now.store
  | _ => True

/-- The handler completes no event twice. -/
def CompletedOnce (state : State Event) : Prop :=
  ∀ id, state.completions id ≤ 1

/-- What one move does to the callbacks and to what is completed. -/
inductive Touched (consumer : Consumer Event) (before after : State Event) : Move → Prop
  | nothing (move : Move) (tasks : after.tasks = before.tasks)
      (completed : after.completed = before.completed)
      (nextTag : after.broker.nextTag = before.broker.nextTag) : Touched consumer before after move
  | opened (index : Nat) (message : Message)
      (tasks : after.tasks = Function.update before.tasks before.broker.nextTag
        ((consumer.processMessage message).map (Task.mk message)))
      (completed : after.completed = before.completed)
      (nextTag : after.broker.nextTag = before.broker.nextTag + 1) :
      Touched consumer before after (.delivered index)
  | stepped (tag : Nat) (answer : Answer) (lost : Bool) (task : Task Event)
      (running : before.tasks tag = some task)
      (tasks : after.tasks = Function.update before.tasks tag
        ((consumer.resume task.message task.point answer).map (Task.mk task.message)))
      (completed : after.completed = before.completed ++ task.completes answer)
      (nextTag : after.broker.nextTag = before.broker.nextTag) :
      Touched consumer before after (.stepped tag answer lost)
  | abandoned (tag : Nat) (tasks : after.tasks = Function.update before.tasks tag none)
      (completed : after.completed = before.completed)
      (nextTag : after.broker.nextTag = before.broker.nextTag) :
      Touched consumer before after (.abandoned tag)

theorem step_touched {before after : State Event} {move : Move}
    (accepted : step consumer move before = .ok (after, ())) :
    Touched consumer before after move := by
  cases move with
  | published exchange key message =>
    cases accepted
    exact .nothing _ rfl rfl rfl
  | delivered index =>
    simp only [step] at accepted
    split at accepted
    · cases accepted
    · rename_i delivery broker delivered
      cases accepted
      obtain ⟨tag, -, nextTag, -⟩ := Broker.deliver_ok delivered
      exact .opened index delivery.message (by rw [tag]) rfl nextTag
  | expired index death =>
    simp only [step] at accepted
    split at accepted
    · cases accepted
    · rename_i broker expired
      cases accepted
      exact .nothing _ rfl rfl (Broker.deadLetter_ok expired).2
  | givenBack tag =>
    cases accepted
    exact .nothing _ rfl rfl rfl
  | stepped tag answer lost =>
    simp only [step] at accepted
    split at accepted
    · cases accepted
    · rename_i task running
      cases accepted
      exact .stepped tag answer lost task running rfl rfl perform_unacked.2
  | abandoned tag =>
    cases accepted
    exact .abandoned tag rfl rfl rfl

theorem marking_eq {now : Backed Event} {id : String} {tag : Nat} :
    now.marking tag = some id ↔ ∃ task, now.state.tasks tag = some task ∧
      task.message.eventId = some id ∧ task.point = .marking := by
  unfold Backed.marking
  constructor
  · intro marking
    split at marking
    · rename_i message running
      exact ⟨_, running, marking, rfl⟩
    · cases marking
  · rintro ⟨⟨message, point⟩, running, named, rfl⟩
    simp only [running]
    exact named

theorem engaged_of_marking {now : Backed Event} {id : String} {tag : Nat}
    (marking : now.marking tag = some id) : now.Engaged id tag := by
  obtain ⟨⟨message, point⟩, running, named, rfl⟩ := marking_eq.mp marking
  exact ⟨_, running, named, rfl⟩

theorem handleFailure_engaged {message : Message} {error : String} {next : Point Event}
    (reached : consumer.handleFailure message error = some next) (answer : Option Bool) :
    next.engaged answer = false := by
  unfold Consumer.handleFailure at reached
  split at reached
  · cases reached
  · dsimp only at reached
    split at reached <;> cases reached <;> rfl

theorem decodeBody_engaged {message : Message} {next : Point Event}
    (reached : consumer.decodeBody message = some next) (answer : Option Bool) :
    next.engaged answer = false ∨ ∃ event, next = .handling event := by
  unfold Consumer.decodeBody at reached
  split at reached
  · rename_i event _
    cases reached
    exact Or.inr ⟨event, rfl⟩
  · cases reached
    exact Or.inl rfl
  · exact Or.inl (handleFailure_engaged reached answer)

/-- A callback gets between check and mark by a check that finds nothing, and stays there
only when the handler returns. -/
theorem resume_engaged {message : Message} {point next : Point Event} {answer : Answer}
    {stored : Option Bool} (reached : consumer.resume message point answer = some next)
    (engaged : next.engaged stored = true) :
    (point = .checking ∧ answer = .returned false ∧ ∃ event, next = .handling event) ∨
      ∃ event value, point = .handling event ∧ answer = .returned value ∧ next = .marking := by
  have failed : ∀ error, consumer.handleFailure message error ≠ some next := by
    intro error reached
    rw [handleFailure_engaged reached stored] at engaged
    cases engaged
  cases answer with
  | raised error =>
    cases point with
    | skipping => exact absurd reached (failed error)
    | checking => exact absurd reached (failed error)
    | handling event => exact absurd reached (failed error)
    | marking => exact absurd reached (failed error)
    | acking => exact absurd reached (failed error)
    | rejectingPoison => exact absurd reached (failed error)
    | _ =>
      cases reached
      try cases engaged
  | returned value =>
    cases point with
    | checking =>
      cases value with
      | true =>
        cases reached
        cases engaged
      | false =>
        rcases decodeBody_engaged reached stored with idle | handling
        · rw [idle] at engaged
          cases engaged
        · exact Or.inl ⟨rfl, rfl, handling⟩
    | handling event =>
      simp only [Consumer.resume] at reached
      split at reached
      · cases reached
        exact Or.inr ⟨event, value, rfl, rfl, rfl⟩
      · cases reached
        cases engaged
    | _ =>
      cases reached
      try cases engaged

/-- At most one delivery of an event is between its check and its mark, the event is not
completed before it, and a completed event is marked or about to be. -/
structure OnceOrderly (now : Backed Event) : Prop where
  unused : ∀ tag, now.state.broker.nextTag ≤ tag →
    now.state.tasks tag = none ∧ now.answers tag = none
  alone : ∀ id first second, now.Engaged id first → now.Engaged id second → first = second
  fresh : ∀ id tag, now.Engaged id tag → now.marking tag ≠ some id →
    now.state.completions id = 0
  once : CompletedOnce now.state
  marked : ∀ id, 0 < now.state.completions id →
    id ∈ now.store ∨ ∃ tag, now.marking tag = some id

theorem engaged_congr {before after : Backed Event} {id : String} {tag : Nat}
    (task : after.state.tasks tag = before.state.tasks tag)
    (answer : after.answers tag = before.answers tag) :
    after.Engaged id tag ↔ before.Engaged id tag := by
  unfold Backed.Engaged
  rw [task, answer]

theorem marking_congr {before after : Backed Event} {tag : Nat}
    (task : after.state.tasks tag = before.state.tasks tag) :
    after.marking tag = before.marking tag := by
  unfold Backed.marking
  rw [task]

theorem asking_eq {now : Backed Event} {tag : Nat} {id : String}
    (asking : now.asking tag = some id) : ∃ message,
      now.state.tasks tag = some ⟨message, .checking⟩ ∧ message.eventId = some id ∧
        now.answers tag = none := by
  unfold Backed.asking at asking
  split at asking
  · rename_i message running unanswered
    exact ⟨message, running, asking, unanswered⟩
  · cases asking

/-- The delivery that was answered is between check and mark exactly if nothing was found. -/
theorem engaged_answered {now : Backed Event} {tag : Nat} {id name : String}
    (asking : now.asking tag = some id)
    (engaged : Backed.Engaged { now with
      answers := Function.update now.answers tag (some (decide (id ∈ now.store))) } name tag) :
    name = id ∧ id ∉ now.store := by
  obtain ⟨message, running, named, _⟩ := asking_eq asking
  obtain ⟨task, current, called, between⟩ := engaged
  rw [running] at current
  cases current
  rw [named] at called
  refine ⟨(Option.some.inj called).symm, ?_⟩
  simpa [Point.engaged, Function.update_self] using between

theorem read_orderly {now : Backed Event} {tag : Nat} {id : String} (held : OnceOrderly now)
    (condition : oneAtATime now (.read tag)) (asking : now.asking tag = some id) :
    OnceOrderly { now with
      answers := Function.update now.answers tag (some (decide (id ∈ now.store))) } := by
  obtain ⟨message, running, _, _⟩ := asking_eq asking
  have others : ∀ {other name}, other ≠ tag → (Backed.Engaged { now with
      answers := Function.update now.answers tag (some (decide (id ∈ now.store))) } name other ↔
        now.Engaged name other) := fun different =>
    engaged_congr rfl (Function.update_of_ne different ..)
  have no_other : ∀ {other name}, other ≠ tag → now.Engaged name other → Backed.Engaged { now with
      answers := Function.update now.answers tag (some (decide (id ∈ now.store))) } name tag →
        False := by
    intro other name different engaged newly
    obtain ⟨rfl, missing⟩ := engaged_answered asking newly
    exact condition name asking missing other engaged
  refine ⟨?_, ?_, ?_, held.once, held.marked⟩
  · intro other later
    refine ⟨(held.unused other later).1, ?_⟩
    have different : other ≠ tag := by
      rintro rfl
      rw [(held.unused other later).1] at running
      cases running
    exact (Function.update_of_ne different ..).trans (held.unused other later).2
  · intro name first second engagedFirst engagedSecond
    by_cases sameFirst : first = tag
    · by_cases sameSecond : second = tag
      · rw [sameFirst, sameSecond]
      · rw [sameFirst] at engagedFirst
        exact (no_other sameSecond ((others sameSecond).mp engagedSecond) engagedFirst).elim
    · by_cases sameSecond : second = tag
      · rw [sameSecond] at engagedSecond
        exact (no_other sameFirst ((others sameFirst).mp engagedFirst) engagedSecond).elim
      · exact held.alone name first second ((others sameFirst).mp engagedFirst)
          ((others sameSecond).mp engagedSecond)
  · intro name other engaged unmarked
    by_cases same : other = tag
    · rw [same] at engaged
      obtain ⟨rfl, missing⟩ := engaged_answered asking engaged
      by_contra completed
      rcases held.marked name (Nat.pos_of_ne_zero completed) with stored | ⟨marker, marking⟩
      · exact missing stored
      · exact condition name asking missing marker (engaged_of_marking marking)
    · exact held.fresh name other ((others same).mp engaged) unmarked

theorem written_orderly {now : Backed Event} (id : String) (held : OnceOrderly now) :
    OnceOrderly { now with store := now.store ++ [id] } := by
  refine ⟨held.unused, held.alone, held.fresh, held.once, ?_⟩
  intro name completed
  rcases held.marked name completed with stored | marking
  · exact Or.inl (List.mem_append_left _ stored)
  · exact Or.inr marking

theorem completions_congr {before after : State Event}
    (completed : after.completed = before.completed) (id : String) :
    after.completions id = before.completions id := by
  unfold State.completions
  rw [completed]

/-- If one callback gets between check and mark only where it was, and the others stay as they
are, then none gets there. -/
theorem engaged_before {before : Backed Event} {state : State Event} {tag : Nat}
    (others : ∀ other, other ≠ tag → state.tasks other = before.state.tasks other)
    (own : ∀ id, Backed.Engaged { before with state := state } id tag → before.Engaged id tag)
    {id : String} {other : Nat} (engaged : Backed.Engaged { before with state := state } id other) :
    before.Engaged id other := by
  by_cases same : other = tag
  · rw [same] at engaged ⊢
    exact own id engaged
  · have unchanged : Backed.Engaged { before with state := state } id other ↔
        before.Engaged id other := engaged_congr (others other same) rfl
    exact unchanged.mp engaged

/-- Nothing is completed, nothing gets between check and mark, and no mark is given up. -/
theorem OnceOrderly.of_uncompleted {before : Backed Event} {state : State Event}
    (held : OnceOrderly before)
    (unused : ∀ tag, state.broker.nextTag ≤ tag →
      state.tasks tag = none ∧ before.answers tag = none)
    (engaged : ∀ {id other}, Backed.Engaged { before with state := state } id other →
      before.Engaged id other)
    (marking : ∀ {id other}, before.marking other = some id →
      Backed.marking { before with state := state } other = some id)
    (completed : state.completed = before.state.completed) :
    OnceOrderly { before with state := state } := by
  have same := completions_congr completed
  refine ⟨unused, ?_, ?_, ?_, ?_⟩
  · intro id first second engagedFirst engagedSecond
    exact held.alone id first second (engaged engagedFirst) (engaged engagedSecond)
  · intro id other engagedOther unmarked
    refine (same id).trans (held.fresh id other (engaged engagedOther) ?_)
    intro marked
    exact unmarked (marking marked)
  · intro id
    exact (same id).trans_le (held.once id)
  · intro id positive
    rcases held.marked id (same id ▸ positive) with stored | ⟨marker, marked⟩
    · exact Or.inl stored
    · exact Or.inr ⟨marker, marking marked⟩

/-- Nothing about the callbacks changes. -/
theorem still_orderly {before : Backed Event} {state : State Event} (held : OnceOrderly before)
    (tasks : state.tasks = before.state.tasks) (completed : state.completed = before.state.completed)
    (nextTag : state.broker.nextTag = before.state.broker.nextTag) :
    OnceOrderly { before with state := state } := by
  apply held.of_uncompleted ?_ ?_ ?_ completed
  · intro other later
    rw [tasks]
    exact held.unused other (nextTag ▸ later)
  · intro id other engaged
    have unchanged : Backed.Engaged { before with state := state } id other ↔
        before.Engaged id other := engaged_congr (congrFun tasks other) rfl
    exact unchanged.mp engaged
  · intro id other marked
    rw [← marked, marking_congr (congrFun tasks other)]

/-- A callback goes on or ends: it never gets between check and mark by that, and if its
handler completed the event it is about to mark it. -/
theorem task_orderly {before : Backed Event} {state : State Event} {tag : Nat}
    (held : OnceOrderly before)
    (nextTag : state.broker.nextTag = before.state.broker.nextTag)
    (own : before.state.tasks tag ≠ none)
    (others : ∀ other, other ≠ tag → state.tasks other = before.state.tasks other)
    (stays : ∀ id, Backed.Engaged { before with state := state } id tag → before.Engaged id tag)
    (leaves : ∀ id, before.marking tag = some id →
      id ∈ before.store ∧ ¬ Backed.Engaged { before with state := state } id tag)
    (completes : ∀ id, state.completions id = before.state.completions id ∨
      state.completions id = before.state.completions id + 1 ∧ before.Engaged id tag ∧
        before.marking tag ≠ some id ∧
        Backed.marking { before with state := state } tag = some id) :
    OnceOrderly { before with state := state } := by
  have unmoved : ∀ other, other ≠ tag →
      Backed.marking { before with state := state } other = before.marking other :=
    fun other different => marking_congr (others other different)
  have before_of : ∀ {id other}, Backed.Engaged { before with state := state } id other →
      before.Engaged id other := engaged_before others stays
  refine ⟨?_, ?_, ?_, ?_, ?_⟩
  · intro other later
    obtain ⟨idle, unread⟩ := held.unused other (nextTag ▸ later)
    have different : other ≠ tag := by
      rintro rfl
      exact own idle
    exact ⟨(others other different).trans idle, unread⟩
  · intro id first second engagedFirst engagedSecond
    exact held.alone id first second (before_of engagedFirst) (before_of engagedSecond)
  · intro id other engaged unmarked
    rcases completes id with same | ⟨_, mine, _, marking⟩
    · refine same.trans (held.fresh id other (before_of engaged) ?_)
      intro marking
      by_cases own : other = tag
      · rw [own] at marking engaged
        exact (leaves id marking).2 engaged
      · rw [unmoved other own] at unmarked
        exact unmarked marking
    · have own := held.alone id other tag (before_of engaged) mine
      rw [own] at unmarked
      exact absurd marking unmarked
  · intro id
    rcases completes id with same | ⟨more, mine, unmarked, _⟩
    · exact same.trans_le (held.once id)
    · rw [held.fresh id tag mine unmarked] at more
      exact Nat.le_of_eq more
  · intro id completed
    rcases completes id with same | ⟨_, _, _, marking⟩
    · rcases held.marked id (same ▸ completed) with stored | ⟨marker, marking⟩
      · exact Or.inl stored
      · by_cases own : marker = tag
        · rw [own] at marking
          exact Or.inl (leaves id marking).1
        · exact Or.inr ⟨marker, (unmoved marker own).trans marking⟩
    · exact Or.inr ⟨tag, marking⟩

/-- A delivery that arrives has no answer to its check yet. -/
theorem opened_orderly {before : Backed Event} {state : State Event} {message : Message}
    (held : OnceOrderly before) (checks : consumer.isProcessed = true)
    (tasks : state.tasks = Function.update before.state.tasks before.state.broker.nextTag
      ((consumer.processMessage message).map (Task.mk message)))
    (completed : state.completed = before.state.completed)
    (nextTag : state.broker.nextTag = before.state.broker.nextTag + 1) :
    OnceOrderly { before with state := state } := by
  obtain ⟨idle, unread⟩ := held.unused _ (Nat.le_refl before.state.broker.nextTag)
  have others : ∀ other, other ≠ before.state.broker.nextTag →
      state.tasks other = before.state.tasks other := by
    intro other different
    rw [tasks]
    exact Function.update_of_ne different ..
  have unengaged : ∀ id,
      ¬ Backed.Engaged { before with state := state } id before.state.broker.nextTag := by
    rintro id ⟨task, running, named, engaged⟩
    rw [tasks, Function.update_self] at running
    obtain ⟨point, reached, rfl⟩ := Option.map_eq_some_iff.mp running
    unfold Consumer.processMessage at reached
    split at reached
    · cases reached
      simp [Point.engaged, unread] at engaged
    · rename_i unchecked
      exact unchecked ⟨by rw [named]; rfl, checks⟩
  have unmarked : before.marking before.state.broker.nextTag = none := by
    unfold Backed.marking
    rw [idle]
  apply held.of_uncompleted ?_ ?_ ?_ completed
  · intro other later
    have after_ : before.state.broker.nextTag + 1 ≤ other := nextTag ▸ later
    obtain ⟨idle, unread⟩ := held.unused other (by omega)
    exact ⟨(others other (by omega)).trans idle, unread⟩
  · intro id other engaged
    exact engaged_before others (fun id engaged => absurd engaged (unengaged id)) engaged
  · intro id other marking
    have different : other ≠ before.state.broker.nextTag := by
      rintro rfl
      rw [unmarked] at marking
      cases marking
    rw [← marking, marking_congr (others other different)]

theorem completes_completions (state : State Event) (task : Task Event) (answer : Answer)
    (id : String) :
    (state.completed ++ task.completes answer).countP (fun message => message.eventId = some id) =
        state.completions id ∨
      (state.completed ++ task.completes answer).countP
          (fun message => message.eventId = some id) = state.completions id + 1 ∧
        (∃ event, task.point = .handling event) ∧ (∃ value, answer = .returned value) ∧
        task.message.eventId = some id := by
  rw [List.countP_append]
  cases point : task.point with
  | handling event =>
    cases answer with
    | raised error =>
      simp only [Task.completes, point]
      exact Or.inl rfl
    | returned value =>
      simp only [Task.completes, point, List.countP_singleton, decide_eq_true_eq]
      by_cases named : task.message.eventId = some id
      · rw [if_pos named]
        exact Or.inr ⟨rfl, ⟨event, rfl⟩, ⟨value, rfl⟩, named⟩
      · rw [if_neg named]
        exact Or.inl rfl
  | _ =>
    simp only [Task.completes, point]
    exact Or.inl rfl

theorem stepped_orderly {before : Backed Event} {state : State Event} {tag : Nat}
    {answer : Answer} {lost : Bool} {task : Task Event} (held : OnceOrderly before)
    (marks : consumer.markProcessed = true)
    (condition : oneAtATime before (.consumer (.stepped tag answer lost)))
    (admitted : before.admits (.stepped tag answer lost) = true)
    (running : before.state.tasks tag = some task)
    (tasks : state.tasks = Function.update before.state.tasks tag
      ((consumer.resume task.message task.point answer).map (Task.mk task.message)))
    (completed : state.completed = before.state.completed ++ task.completes answer)
    (nextTag : state.broker.nextTag = before.state.broker.nextTag) :
    OnceOrderly { before with state := state } := by
  have now : state.tasks tag =
      (consumer.resume task.message task.point answer).map (Task.mk task.message) := by
    rw [tasks, Function.update_self]
  have reached : ∀ {id}, Backed.Engaged { before with state := state } id tag →
      task.message.eventId = some id ∧ ∃ next,
        consumer.resume task.message task.point answer = some next ∧
          next.engaged (before.answers tag) = true := by
    rintro id ⟨after, current, named, engaged⟩
    rw [now] at current
    obtain ⟨next, resumed, rfl⟩ := Option.map_eq_some_iff.mp current
    exact ⟨named, next, resumed, engaged⟩
  apply task_orderly held nextTag (by rw [running]; nofun)
  · intro other different
    rw [tasks]
    exact Function.update_of_ne different ..
  · intro id engaged
    obtain ⟨named, next, resumed, between⟩ := reached engaged
    refine ⟨task, running, named, ?_⟩
    rcases resume_engaged resumed between with
      ⟨checking, rfl, _⟩ | ⟨event, value, handling, _⟩
    · obtain ⟨message, point⟩ := task
      cases checking
      simpa only [Backed.admits, running, Point.engaged] using admitted
    · rw [handling]
      rfl
  · intro id marking
    obtain ⟨same, current, named, point⟩ := marking_eq.mp marking
    rw [running] at current
    cases current
    constructor
    · cases answer with
      | raised error => exact condition id marking
      | returned value =>
        obtain ⟨message, point⟩ := task
        cases point
        simpa only [Backed.admits, running, named, Option.all_some, decide_eq_true_eq]
          using admitted
    · intro engaged
      obtain ⟨_, next, resumed, between⟩ := reached engaged
      rcases resume_engaged resumed between with
        ⟨checking, _⟩ | ⟨event, value, handling, _⟩
      · rw [point] at checking
        cases checking
      · rw [point] at handling
        cases handling
  · intro id
    have counted : state.completions id = (before.state.completed ++ task.completes answer).countP
        (fun message => message.eventId = some id) := by
      unfold State.completions
      rw [completed]
    rcases completes_completions before.state task answer id with
      same | ⟨more, ⟨event, handling⟩, ⟨value, rfl⟩, named⟩
    · exact Or.inl (counted.trans same)
    · refine Or.inr ⟨counted.trans more, ⟨task, running, named, by rw [handling]; rfl⟩, ?_, ?_⟩
      · intro marking
        obtain ⟨same, current, -, point⟩ := marking_eq.mp marking
        rw [running] at current
        cases current
        rw [handling] at point
        cases point
      · apply marking_eq.mpr
        refine ⟨⟨task.message, .marking⟩, ?_, named, rfl⟩
        rw [now, handling]
        simp only [Consumer.resume, named, Option.isSome_some, marks, and_self, ↓reduceIte,
          Option.map_some]

/-- A process that ends takes its callbacks with it. -/
theorem abandoned_orderly {before : Backed Event} {state : State Event} {tag : Nat}
    (held : OnceOrderly before) (condition : oneAtATime before (.consumer (.abandoned tag)))
    (tasks : state.tasks = Function.update before.state.tasks tag none)
    (completed : state.completed = before.state.completed)
    (nextTag : state.broker.nextTag = before.state.broker.nextTag) :
    OnceOrderly { before with state := state } := by
  by_cases own : before.state.tasks tag = none
  · rw [← own, Function.update_eq_self] at tasks
    exact still_orderly held tasks completed nextTag
  · have gone : ∀ id, ¬ Backed.Engaged { before with state := state } id tag := by
      rintro id ⟨task, running, -⟩
      rw [tasks, Function.update_self] at running
      cases running
    apply task_orderly held nextTag own
    · intro other different
      rw [tasks]
      exact Function.update_of_ne different ..
    · intro id engaged
      exact absurd engaged (gone id)
    · intro id marking
      exact ⟨condition id marking, gone id⟩
    · intro id
      exact Or.inl (completions_congr completed id)

theorem backedStep_orderly {now after : Backed Event} {move : BackedMove} {output : Unit}
    (checks : consumer.isProcessed = true) (marks : consumer.markProcessed = true)
    (held : OnceOrderly now) (condition : oneAtATime now move)
    (accepted : backedStep consumer move now = .ok (after, output)) : OnceOrderly after := by
  cases move with
  | read tag =>
    simp only [backedStep] at accepted
    split at accepted
    · rename_i id asking
      cases accepted
      exact read_orderly held condition asking
    · cases accepted
  | written tag =>
    simp only [backedStep] at accepted
    split at accepted
    · rename_i id _
      cases accepted
      exact written_orderly id held
    · cases accepted
  | consumer move =>
    simp only [backedStep] at accepted
    split at accepted
    · rename_i admitted
      split at accepted
      · rename_i state moved
        cases accepted
        cases step_touched moved with
        | nothing _ tasks completed nextTag => exact still_orderly held tasks completed nextTag
        | opened index message tasks completed nextTag =>
          exact opened_orderly held checks tasks completed nextTag
        | stepped tag answer lost task running tasks completed nextTag =>
          exact stepped_orderly held marks condition admitted running tasks completed nextTag
        | abandoned tag tasks completed nextTag =>
          exact abandoned_orderly held condition tasks completed nextTag
      · cases accepted
    · cases accepted

theorem begin_onceOrderly (ready : Queue → List Message) (store : List String) :
    OnceOrderly (Backed.begin_ ready store : Backed Event) := by
  have nobody : ∀ id tag, ¬ (Backed.begin_ ready store : Backed Event).Engaged id tag := by
    rintro id tag ⟨task, running, -⟩
    cases running
  refine ⟨fun _ _ => ⟨rfl, rfl⟩, ?_, ?_, fun _ => Nat.zero_le 1, ?_⟩
  · intro id first second engaged
    exact absurd engaged (nobody id first)
  · intro id tag engaged
    exact absurd engaged (nobody id tag)
  · intro id completed
    exact absurd completed (Nat.lt_irrefl 0)

/-- In the runs in which the deliveries of one event are checked one at a time and no mark is
given up, no event is completed twice. -/
theorem completed_once (consumer : Consumer Event) (checks : consumer.isProcessed = true)
    (marks : consumer.markProcessed = true) (ready : Queue → List Message) (store : List String)
    (moves : List BackedMove)
    (condition : Run.Meets oneAtATime (backedHistory consumer ready store moves).past) :
    CompletedOnce (backedHistory consumer ready store moves).now.state := by
  have rule := Run.run_of_meets (backedStep consumer) (Backed.begin_ ready store)
    (fun _ now => OnceOrderly now) oneAtATime (begin_onceOrderly ready store)
  refine (rule ?_ moves condition).once
  intro past now move after output held condition accepted
  exact backedStep_orderly checks marks held condition accepted

section Sample

/-- Two copies of one event. -/
def copies (queue : Queue) : List Message :=
  match queue with
  | .main => [order, order]
  | _ => []

/-- The second copy is delivered once the first is marked. -/
def inTurn : List BackedMove :=
  [.consumer (.delivered 0), .read 0, .consumer (.stepped 0 (.returned false) false),
   .consumer (.stepped 0 (.returned true) false), .written 0,
   .consumer (.stepped 0 (.returned true) false), .consumer (.stepped 0 (.returned true) false),
   .consumer (.delivered 0), .read 1, .consumer (.stepped 1 (.returned true) false),
   .consumer (.stepped 1 (.returned true) false)]

theorem completed_once_inTurn : CompletedOnce (backedHistory orders copies [] inTurn).now.state := by
  apply completed_once orders rfl rfl
  intro entry member
  change entry ∈ [_, _, _, _, _, _, _, _, _, _, _] at member
  simp only [List.mem_cons, List.not_mem_nil, or_false] at member
  rcases member with rfl | rfl | rfl | rfl | rfl | rfl | rfl | rfl | rfl | rfl | rfl
  · trivial
  · rintro id _ _ other ⟨task, running, _, engaged⟩
    by_cases first : other = 0
    · subst first
      cases running
      cases engaged
    · change Function.update (fun _ => none) 0 _ other = some task at running
      rw [Function.update_of_ne first] at running
      cases running
  · trivial
  · trivial
  · trivial
  · trivial
  · trivial
  · trivial
  · intro id asking missing
    cases asking
    exact absurd (List.mem_singleton_self _) missing
  · trivial
  · trivial

/-- The second copy is checked while the handler works on the first. -/
def overlapping : List BackedMove :=
  [.consumer (.delivered 0), .consumer (.delivered 0), .read 0, .read 1,
   .consumer (.stepped 0 (.returned false) false), .consumer (.stepped 1 (.returned false) false),
   .consumer (.stepped 0 (.returned true) false), .consumer (.stepped 1 (.returned true) false)]

/-- The store fails once, when the first copy is to be marked. -/
def markFailed : List BackedMove :=
  [.consumer (.delivered 0), .read 0, .consumer (.stepped 0 (.returned false) false),
   .consumer (.stepped 0 (.returned true) false), .consumer (.stepped 0 (.raised "timeout") false),
   .consumer (.delivered 0), .read 1, .consumer (.stepped 1 (.returned false) false),
   .consumer (.stepped 1 (.returned true) false)]

/-- The handler completes the event twice. -/
theorem completed_once_twice :
    ¬ CompletedOnce (backedHistory orders copies [] overlapping).now.state ∧
      ¬ CompletedOnce (backedHistory orders copies [] markFailed).now.state := by
  constructor
  · intro once
    exact absurd (once "event-1") (by decide +kernel)
  · intro once
    exact absurd (once "event-1") (by decide +kernel)

end Sample

end BigX.Messaging
