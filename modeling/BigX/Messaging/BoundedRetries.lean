import BigX.Messaging.RetryStages

set_option autoImplicit false

/- How often the handler runs for one message: each step of the message takes it to a stage from
which fewer steps are left, and the last stage tells how all invocations ended. -/
namespace BigX.Messaging

open Amqp

variable {Event : Type} {consumer : Consumer Event}

theorem stage_ready {stage : Stage Event} (here : stage.queue = some .main) :
    ∃ failures, stage = .ready failures := by
  cases stage with
  | ready failures => exact ⟨failures, rfl⟩
  | running failures tag point => cases here
  | retrying failures => cases here
  | buried failures => cases here
  | completed failures => cases here

theorem stage_retrying {stage : Stage Event} (here : stage.queue = some .retry) :
    ∃ failures, stage = .retrying failures := by
  cases stage with
  | ready failures => cases here
  | running failures tag point => cases here
  | retrying failures => exact ⟨failures, rfl⟩
  | buried failures => cases here
  | completed failures => cases here

theorem stage_running {stage : Stage Event} {tag : Nat} (here : stage.tag = some tag) :
    ∃ failures point, stage = .running failures tag point := by
  cases stage with
  | ready failures => cases here
  | running failures other point =>
    cases here
    exact ⟨failures, point, rfl⟩
  | retrying failures => cases here
  | buried failures => cases here
  | completed failures => cases here

/-- A copy that is ready shows where the message is. -/
theorem Tracked.queue_eq {message copy : Message} {stage : Stage Event} {state : State Event}
    (tracked : Tracked consumer message stage state) {queue : Queue}
    (member : copy ∈ state.broker.ready queue) (own : copyOf message copy = true) :
    stage.queue = some queue := by
  by_contra elsewhere
  have none_ := tracked.waiting queue
  rw [if_neg elsewhere] at none_
  have other := not_copyOf_of_waiting none_ member
  rw [own] at other
  cases other

theorem Tracked.deliver {message : Message} {stage : Stage Event} {before : State Event}
    (tracked : Tracked consumer message stage before) (tidy : Tidy consumer before) {event : Event}
    (decodes : consumer.decode message.body = .event event) {index : Nat}
    {delivery : Delivery Queue Message} {broker : Broker Queue Message}
    (delivered : before.broker.deliver .main index = some (delivery, broker))
    (found : (before.broker.ready .main)[index]? = some delivery.message)
    (own : copyOf message delivery.message = true) :
    Advances consumer message stage before
      { before with
        broker := broker
        tasks := Function.update before.tasks delivery.tag
          ((consumer.processMessage delivery.message).map (Task.mk delivery.message)) } none := by
  have member := List.mem_of_getElem? found
  have here := tracked.queue_eq member own
  obtain ⟨failures, rfl⟩ := stage_ready here
  obtain ⟨point, starts, apt, outcome, remaining⟩ := processMessage_apt own decodes failures
  obtain ⟨tag, -, -, unacked⟩ := Broker.deliver_ok delivered
  have unused : before.tasks delivery.tag = none := tidy.unused _ (Nat.le_of_eq tag.symm)
  rw [starts, Option.map_some]
  have left_ : ∀ queue, broker.waiting (copyOf message) queue = 0 := by
    intro queue
    have removed := Broker.waiting_deliver (copyOf message) delivered queue
    have earlier := tracked.waiting queue
    simp only [own, and_true, Stage.queue, Option.some.injEq] at removed earlier
    simp only [eq_comm] at removed earlier
    split at removed
    next here =>
      rw [if_pos here] at earlier
      omega
    next elsewhere =>
      rw [if_neg elsewhere] at earlier
      omega
  refine ⟨.running failures delivery.tag point, ?_, ?_, ?_⟩
  · refine ⟨left_, nofun, nofun, tracked.bound, ?_, ?_, ?_, ?_⟩
    · intro failures' tag' point' same
      cases same
      refine ⟨delivery.message, Function.update_self _ _ _, own, ?_, apt⟩
      exact tracked.counted .main rfl nofun _ member own
    · intro other notHere task atTag counted
      have differs : other ≠ delivery.tag := fun same => notHere (same ▸ rfl)
      simp only [Function.update_of_ne differs] at atTag
      exact tracked.others other nofun task atTag counted
    · intro other inUnacked counted
      rw [unacked] at inUnacked
      rcases List.mem_cons.mp inUnacked with rfl | earlier
      · exact ⟨⟨_, point⟩, Function.update_self _ _ _, rfl⟩
      · obtain ⟨task, atTag, same⟩ := tracked.out other earlier counted
        have differs : other.tag ≠ delivery.tag := by
          intro equal
          rw [equal, unused] at atTag
          cases atTag
        exact ⟨task, (Function.update_of_ne differs _ _).trans atTag, same⟩
    · intro other task atTag counted
      rw [unacked]
      rcases mem_update atTag with ⟨rfl, isNew⟩ | ⟨_, there⟩
      · cases isNew
        exact ⟨delivery, List.mem_cons_self, rfl, rfl⟩
      · obtain ⟨earlier, inUnacked, rest⟩ := tracked.held other task there counted
        exact ⟨earlier, List.mem_cons_of_mem _ inUnacked, rest⟩
  · simp only [Stage.outcomes, outcome, Option.toList_none]
  · have within := remaining (consumer.maxRetries.toNat - failures)
    simp only [Stage.remaining, unsettled, unacked, List.countP_cons, own, if_true]
    omega

/-- A retry that expires is ready again, with its count. -/
theorem Tracked.expire {message moved : Message} {stage : Stage Event} {before : State Event}
    (tracked : Tracked consumer message stage before)
    (distinct : Function.Injective consumer.exchange) {index : Nat} {death : Headers}
    (found : (before.broker.ready .retry)[index]? = some moved)
    (own : copyOf message moved = true) (other : ∀ field ∈ death, field.1 ≠ "retry_count") :
    Advances consumer message stage before
      { before with
        broker := (before.broker.remove .retry index).publish consumer.declareQueue
          consumer.mainExchange consumer.routingKey (moved.stamped death) } none := by
  have member := List.mem_of_getElem? found
  have here := tracked.queue_eq member own
  obtain ⟨failures, rfl⟩ := stage_retrying here
  have stamped : copyOf message (moved.stamped death) = true := own
  refine ⟨.ready failures, ?_, ?_, ?_⟩
  · refine ⟨?_, ?_, nofun, tracked.bound, nofun, tracked.others, tracked.out, tracked.held⟩
    · intro queue
      have removed := Broker.waiting_remove (copyOf message) .retry index before.broker found queue
      have published := publish_waiting distinct stamped .main (before.broker.remove .retry index)
        queue
      have earlier := tracked.waiting queue
      simp only [Consumer.exchange] at published
      rw [published]
      cases queue <;> simp [Stage.queue, own] at removed earlier ⊢ <;> omega
    · intro queue isMain _ copy inReady counted
      cases isMain
      rcases mem_publish inReady with rfl | earlier
      · have count := tracked.counted .retry rfl nofun moved member own
        exact (retryCount_congr (stamped_get other moved)).trans count
      · have stays : copy ∈ before.broker.ready .main := earlier
        have elsewhere := tracked.queue_eq stays counted
        cases elsewhere
  · simp [Stage.outcomes]
  · exact Nat.add_lt_add_right (Nat.lt_succ_self _) _

/-- A callback that goes on stays with its delivery. -/
theorem Tracked.out_resumed {message copy : Message} {stage : Stage Event} {before : State Event}
    (tracked : Tracked consumer message stage before) {tag : Nat} {point : Point Event}
    (atTag : before.tasks tag = some ⟨copy, point⟩) (next : Point Event) :
    ∀ delivery ∈ before.broker.unacked, copyOf message delivery.message = true →
      ∃ task ∈ Function.update before.tasks tag (some ⟨copy, next⟩) delivery.tag,
        task.message = delivery.message := by
  intro delivery inUnacked own
  obtain ⟨task, there, same⟩ := tracked.out delivery inUnacked own
  by_cases here : delivery.tag = tag
  · rw [here, atTag] at there
    cases there
    exact ⟨⟨copy, next⟩, by simp [here], same⟩
  · exact ⟨task, (Function.update_of_ne here _ _).trans there, same⟩

theorem Tracked.held_resumed {message copy : Message} {stage : Stage Event} {before : State Event}
    (tracked : Tracked consumer message stage before) {tag : Nat} {point : Point Event}
    (atTag : before.tasks tag = some ⟨copy, point⟩) (own : copyOf message copy = true)
    (next : Point Event) :
    ∀ other, ∀ task ∈ Function.update before.tasks tag (some ⟨copy, next⟩) other,
      copyOf message task.message = true →
        ∃ delivery ∈ before.broker.unacked,
          delivery.tag = other ∧ delivery.message = task.message := by
  intro other task atOther counted
  rcases mem_update atOther with ⟨rfl, isNext⟩ | ⟨_, there⟩
  · cases isNext
    exact tracked.held other ⟨copy, point⟩ atTag own
  · exact tracked.held other task there counted

/-- The callback goes on without asking the broker for anything. -/
theorem Tracked.goOn {message : Message} {before : State Event} {failures tag : Nat}
    {point next : Point Event}
    (tracked : Tracked consumer message (.running failures tag point) before) {copy : Message}
    (atTag : before.tasks tag = some ⟨copy, point⟩) (own : copyOf message copy = true)
    (counted : consumer.retryCount copy = .ok (failures : Int))
    (apt : next.Apt consumer message failures) (completed : List Message) :
    Tracked consumer message (.running failures tag next)
      { before with
        tasks := Function.update before.tasks tag (some ⟨copy, next⟩)
        completed := completed } := by
  refine ⟨tracked.waiting, nofun, nofun, tracked.bound, ?_, ?_, ?_, ?_⟩
  · intro failures' tag' point' same
    cases same
    exact ⟨copy, Function.update_self _ _ _, own, counted, apt⟩
  · intro other notHere task there counted
    have differs : other ≠ tag := fun same => notHere (same ▸ rfl)
    simp only [Function.update_of_ne differs] at there
    exact tracked.others other notHere task there counted
  · exact tracked.out_resumed atTag next
  · exact tracked.held_resumed atTag own next

/-- A callback that is over goes with its delivery. -/
theorem Tracked.out_over {message : Message} {stage : Stage Event} {before : State Event}
    (tracked : Tracked consumer message stage before) (tag : Nat) :
    ∀ delivery ∈ (before.broker.ack tag).unacked, copyOf message delivery.message = true →
      ∃ task ∈ Function.update before.tasks tag none delivery.tag,
        task.message = delivery.message := by
  intro delivery inUnacked own
  obtain ⟨stays, differs⟩ := List.mem_filter.mp inUnacked
  obtain ⟨task, there, same⟩ := tracked.out delivery stays own
  exact ⟨task, (Function.update_of_ne (of_decide_eq_true differs) _ _).trans there, same⟩

theorem Tracked.held_over {message : Message} {stage : Stage Event} {before : State Event}
    (tracked : Tracked consumer message stage before) (tag : Nat) :
    ∀ other, ∀ task ∈ Function.update before.tasks tag none other,
      copyOf message task.message = true →
        ∃ delivery ∈ (before.broker.ack tag).unacked,
          delivery.tag = other ∧ delivery.message = task.message := by
  intro other task atOther own
  rcases mem_update atOther with ⟨_, isNone⟩ | ⟨same, there⟩
  · cases isNone
  · obtain ⟨delivery, inUnacked, tagged, equal⟩ := tracked.held other task there own
    refine ⟨delivery, List.mem_filter.mpr ⟨inUnacked, ?_⟩, tagged, equal⟩
    exact decide_eq_true (tagged ▸ same)

/-- The delivery of an attempt that failed before is acknowledged. -/
theorem Tracked.ackFailed {message : Message} {stage : Stage Event} {before : State Event}
    {tag : Nat} (tracked : Tracked consumer message stage before) (elsewhere : stage.tag ≠ some tag)
    (completed : List Message) :
    Tracked consumer message stage
      { before with
        broker := before.broker.ack tag
        tasks := Function.update before.tasks tag none
        completed := completed } := by
  refine ⟨tracked.waiting, tracked.counted, tracked.spent, tracked.bound, ?_, ?_,
    tracked.out_over tag, tracked.held_over tag⟩
  · intro failures other point same
    obtain ⟨copy, there, rest⟩ := tracked.running failures other point same
    have differs : other ≠ tag := by
      rintro rfl
      exact elsewhere (same ▸ rfl)
    exact ⟨copy, (Function.update_of_ne differs _ _).trans there, rest⟩
  · intro other notHere task atOther own
    rcases mem_update atOther with ⟨_, isNone⟩ | ⟨_, there⟩
    · cases isNone
    · exact tracked.others other notHere task there own

/-- The delivery of the last attempt is acknowledged. -/
theorem Tracked.ackLast {message : Message} {before : State Event} {failures tag : Nat}
    {point : Point Event} (tracked : Tracked consumer message (.running failures tag point) before)
    (completed : List Message) :
    Tracked consumer message (.completed failures)
      { before with
        broker := before.broker.ack tag
        tasks := Function.update before.tasks tag none
        completed := completed } := by
  refine ⟨tracked.waiting, ?_, ?_, tracked.bound, ?_, ?_, tracked.out_over tag,
    tracked.held_over tag⟩
  · intro queue here
    cases here
  · intro other same
    cases same
  · intro other otherTag otherPoint same
    cases same
  · intro other _ task atOther own
    rcases mem_update atOther with ⟨_, isNone⟩ | ⟨differs, there⟩
    · cases isNone
    · have notHere : some tag ≠ some other := fun same => differs (Option.some.inj same).symm
      exact tracked.others other notHere task there own

theorem Tracked.unsettled_ack {message : Message} {stage : Stage Event} {before : State Event}
    {tag : Nat} (tracked : Tracked consumer message stage before) {task : Task Event}
    (atTag : before.tasks tag = some task) (own : copyOf message task.message = true)
    (completed : List Message) :
    unsettled message { before with
      broker := before.broker.ack tag
      tasks := Function.update before.tasks tag none
      completed := completed } < unsettled message before := by
  obtain ⟨delivery, inUnacked, tagged, equal⟩ := tracked.held tag task atTag own
  have gone : 0 < (before.broker.unacked.filter fun other =>
      !decide (other.tag ≠ tag)).countP fun other => copyOf message other.message := by
    apply List.countP_pos_iff.mpr
    exact ⟨delivery, List.mem_filter.mpr ⟨inUnacked, by simp [tagged]⟩, equal ▸ own⟩
  have whole := List.countP_eq_countP_filter_add before.broker.unacked
    (fun other => copyOf message other.message) fun other => decide (other.tag ≠ tag)
  simp only [unsettled, Broker.ack]
  omega

/-- The copy is published, and the delivery that failed waits for its acknowledgement. -/
theorem Tracked.passOn {message copy sent : Message} {before : State Event} {failures tag : Nat}
    {point : Point Event} (tracked : Tracked consumer message (.running failures tag point) before)
    (distinct : Function.Injective consumer.exchange)
    (atTag : before.tasks tag = some ⟨copy, point⟩) (own : copyOf message copy = true)
    (target : Queue) (next : Stage Event) (queue : next.queue = some target)
    (idle : next.tag = none) (bound : next.failures ≤ consumer.maxRetries.toNat)
    (sentOwn : copyOf message sent = true)
    (counted : target ≠ .dlq → consumer.retryCount sent = .ok (next.failures : Int))
    (spent : ∀ failures, next = .buried failures →
      ¬ (failures : Int) + 1 ≤ consumer.maxRetries) (completed : List Message) :
    Tracked consumer message next
      { before with
        broker := before.broker.publish consumer.declareQueue (consumer.exchange target)
          consumer.routingKey sent
        tasks := Function.update before.tasks tag (some ⟨copy, .ackingFailed⟩)
        completed := completed } := by
  refine ⟨?_, ?_, spent, bound, ?_, ?_, ?_, ?_⟩
  · intro here
    have nowhere := tracked.waiting here
    rw [if_neg nofun] at nowhere
    rw [publish_waiting distinct sentOwn, nowhere, queue, Nat.zero_add]
    simp only [Option.some.injEq]
  · intro here isTarget notDead other inReady otherOwn
    rw [queue] at isTarget
    cases isTarget
    rcases mem_publish inReady with rfl | earlier
    · exact counted notDead
    · cases tracked.queue_eq earlier otherOwn
  · intro failures' tag' point' same
    rw [same] at idle
    cases idle
  · intro other notHere task atOther otherOwn
    rcases mem_update atOther with ⟨_, isNext⟩ | ⟨differs, there⟩
    · cases isNext
      rfl
    · have elsewhere : some tag ≠ some other := fun same => differs (Option.some.inj same).symm
      exact tracked.others other elsewhere task there otherOwn
  · exact tracked.out_resumed atTag .ackingFailed
  · exact tracked.held_resumed atTag own .ackingFailed

/-- A step of the message's callback. -/
theorem Tracked.ownStep {message : Message} {stage : Stage Event} {before : State Event}
    (tracked : Tracked consumer message stage before)
    (distinct : Function.Injective consumer.exchange) {event : Event}
    (decodes : consumer.decode message.body = .event event) {tag : Nat} {task : Task Event}
    (atTag : before.tasks tag = some task) (own : copyOf message task.message = true)
    {answer : Answer} {lost : Bool} (served : task.point.served answer lost)
    (unhindered : task.point.unhindered answer) (completed : List Message) :
    Advances consumer message stage before
      { before with
        broker := consumer.perform (consumer.command task.point) answer lost tag before.broker
        tasks := Function.update before.tasks tag
          ((consumer.resume task.message task.point answer).map (Task.mk task.message))
        completed := completed } (task.point.handled answer) := by
  obtain ⟨copy, point⟩ := task
  by_cases here : stage.tag = some tag
  · obtain ⟨failures, atPoint, rfl⟩ := stage_running here
    obtain ⟨same, there, -, counted, apt⟩ := tracked.running failures tag atPoint rfl
    rw [atTag] at there
    cases there
    by_cases quiet : consumer.command point = .nothing
    · obtain ⟨next, goesOn, nextApt, outcome, remaining⟩ :=
        resume_apt own counted decodes apt quiet unhindered
      simp only [quiet, goesOn, Option.map_some, Consumer.perform]
      refine ⟨.running failures tag next, tracked.goOn atTag own counted nextApt completed, ?_, ?_⟩
      · simp only [Stage.outcomes, outcome, List.append_assoc]
      · exact Nat.add_lt_add_right (remaining _) _
    · cases point with
      | acking =>
        obtain ⟨rfl, value, rfl⟩ := served
        have fewer := tracked.unsettled_ack atTag own completed
        refine ⟨.completed failures, tracked.ackLast completed, ?_, Nat.add_lt_add_left fewer _⟩
        simp [Stage.outcomes, Point.outcome, Point.handled]
      | publishingRetry sent =>
        obtain ⟨rfl, value, rfl⟩ := served
        obtain ⟨sentOwn, count, within⟩ := apt
        have bound : failures + 1 ≤ consumer.maxRetries.toNat := by omega
        have passed := tracked.passOn distinct atTag own .retry (.retrying (failures + 1)) rfl rfl
          bound sentOwn (fun _ => count) (by intro _ same; cases same) completed
        refine ⟨.retrying (failures + 1), passed, ?_, ?_⟩
        · simp [Stage.outcomes, Point.outcome, Point.handled, List.replicate_succ']
        · apply Nat.add_lt_add_right
          simp only [Stage.remaining, Point.remaining]
          omega
      | publishingDead sent =>
        obtain ⟨rfl, value, rfl⟩ := served
        obtain ⟨sentOwn, beyond⟩ := apt
        have passed := tracked.passOn distinct atTag own .dlq (.buried failures) rfl rfl
          tracked.bound sentOwn (fun dead => absurd rfl dead)
          (fun _ same => by cases same; exact beyond) completed
        refine ⟨.buried failures, passed, ?_, ?_⟩
        · simp [Stage.outcomes, Point.outcome, Point.handled]
        · apply Nat.add_lt_add_right
          exact Nat.succ_pos _
      | checking => exact absurd rfl quiet
      | handling handledEvent => exact absurd rfl quiet
      | marking => exact absurd rfl quiet
      | skipping => exact apt.elim
      | publishingPoison sent => exact apt.elim
      | ackingPoison => exact apt.elim
      | rejectingPoison => exact apt.elim
      | ackingFailed => exact apt.elim
      | rejectingFailed => exact apt.elim
  · have failed : point = .ackingFailed := tracked.others tag here _ atTag own
    subst failed
    obtain ⟨rfl, value, rfl⟩ := served
    have fewer := tracked.unsettled_ack atTag own completed
    refine ⟨stage, tracked.ackFailed here completed, ?_, Nat.add_lt_add_left fewer _⟩
    simp [Point.handled]

theorem step_advances {message : Message} {stage : Stage Event} {before after : State Event}
    (tracked : Tracked consumer message stage before) (tidy : Tidy consumer before)
    (distinct : Function.Injective consumer.exchange) {event : Event}
    (decodes : consumer.decode message.body = .event event) {move : Move}
    (accepted : step consumer move before = .ok (after, ()))
    (faultless : Faultless message before move) (unhindered : Unhindered message before move)
    (concern : concerns message before move = true) :
    Advances consumer message stage before after (outcome message ⟨before, move, (), after⟩) := by
  cases move with
  | published exchange key other => cases concern
  | givenBack tag => cases concern
  | abandoned tag => cases concern
  | delivered index =>
    obtain ⟨copy, found, own⟩ := (Option.any_eq_true _ _).mp concern
    simp only [step] at accepted
    split at accepted
    · cases accepted
    · rename_i delivery broker delivered
      cases accepted
      have same : copy = delivery.message := by
        unfold Broker.deliver at delivered
        rw [found] at delivered
        cases delivered
        rfl
      subst same
      exact tracked.deliver tidy decodes delivered found own
  | expired index death =>
    obtain ⟨moved, found, own⟩ := (Option.any_eq_true _ _).mp concern
    simp only [step] at accepted
    split at accepted
    · cases accepted
    · rename_i broker expired
      cases accepted
      unfold Broker.deadLetter at expired
      rw [found] at expired
      cases expired
      exact tracked.expire distinct found own faultless
  | stepped tag answer lost =>
    obtain ⟨task, atTag, own⟩ := (Option.any_eq_true _ _).mp concern
    simp only [step, atTag] at accepted
    cases accepted
    have handled : ∀ after, outcome message ⟨before, .stepped tag answer lost, (), after⟩ =
        task.point.handled answer := by
      intro after
      simp only [outcome, atTag, own, if_true]
    rw [handled]
    exact tracked.ownStep distinct decodes atTag own (faultless task atTag own)
      (unhindered task atTag own) _

theorem outcome_elsewhere {message : Message} {before after : State Event} {move : Move}
    (quiet : concerns message before move = false) :
    outcome message ⟨before, move, (), after⟩ = none := by
  cases move with
  | stepped tag answer lost =>
    unfold outcome
    dsimp only
    split
    · rfl
    · rename_i task atTag
      have other : copyOf message task.message = false := by simpa [concerns, atTag] using quiet
      rw [if_neg (by simp [other])]
  | _ => rfl

/-- How many steps of the message there were. -/
def ownSteps (message : Message) (past : List (Entry Event)) : Nat :=
  past.countP fun entry => concerns message entry.before entry.input

/-- The message is at some stage, with that stage's outcomes, and has not used up its steps. -/
def Progress (consumer : Consumer Event) (message : Message) (past : List (Entry Event))
    (now : State Event) : Prop :=
  Tidy consumer now ∧ ∃ stage, Tracked consumer message stage now ∧
    outcomes message past = stage.outcomes ∧
      ownSteps message past + stage.remaining consumer.maxRetries.toNat +
        unsettled message now < 6 * consumer.limit

theorem begin_tidy (ready : Queue → List Message) :
    Tidy consumer (State.begin_ ready : State Event) := by
  have idle : ∀ tag, (State.begin_ ready : State Event).tasks tag = none := fun _ => rfl
  constructor
  · intro tag task atTag
    rw [idle tag] at atTag
    cases atTag
  · intro tag _
    exact idle tag

theorem begin_tracked {message : Message} {ready : Queue → List Message}
    (queued : Queued consumer message ready) :
    Tracked consumer message (.ready 0) (.begin_ ready) := by
  have idle : ∀ tag, (State.begin_ ready : State Event).tasks tag = none := fun _ => rfl
  have empty : (State.begin_ ready : State Event).broker.unacked = [] := rfl
  refine ⟨?_, ?_, ?_, Nat.zero_le _, ?_, ?_, ?_, ?_⟩
  · intro queue
    by_cases isMain : queue = .main
    · subst isMain
      exact queued.once
    · have nowhere : (Stage.ready 0 : Stage Event).queue ≠ some queue :=
        fun same => isMain (Option.some.inj same).symm
      rw [if_neg nowhere]
      exact queued.elsewhere queue isMain
  · intro queue isMain _ copy member own
    cases isMain
    exact queued.uncounted copy member own
  · intro failures same
    cases same
  · intro failures tag point same
    cases same
  · intro tag _ task atTag
    rw [idle tag] at atTag
    cases atTag
  · intro delivery inUnacked
    rw [empty] at inUnacked
    cases inUnacked
  · intro tag task atTag
    rw [idle tag] at atTag
    cases atTag

theorem begin_progress {message : Message} {ready : Queue → List Message}
    (queued : Queued consumer message ready) : Progress consumer message [] (.begin_ ready) := by
  refine ⟨begin_tidy ready, .ready 0, begin_tracked queued, rfl, ?_⟩
  simp only [ownSteps, Stage.remaining, unsettled, State.begin_, Broker.holding,
    List.countP_nil, Consumer.limit]
  omega

theorem filterMap_singleton {α β : Type} (f : α → Option β) (only : α) :
    [only].filterMap f = (f only).toList := by
  cases same : f only <;> simp [same]

theorem step_progress {message : Message} (distinct : Function.Injective consumer.exchange)
    {event : Event} (decodes : consumer.decode message.body = .event event)
    {past : List (Entry Event)} {now after : State Event} {move : Move}
    (progress : Progress consumer message past now)
    (accepted : step consumer move now = .ok (after, ()))
    (faultless : Faultless message now move) (unhindered : Unhindered message now move) :
    Progress consumer message (past ++ [⟨now, move, (), after⟩]) after := by
  obtain ⟨tidy, stage, tracked, handled, within⟩ := progress
  refine ⟨step_tidy tidy accepted, ?_⟩
  unfold outcomes ownSteps at *
  cases concern : concerns message now move with
  | false =>
    obtain ⟨still, undisturbed⟩ := tracked.elsewhere tidy accepted faultless concern
    refine ⟨stage, still, ?_, ?_⟩
    · rw [List.filterMap_append, handled]
      simp [outcome_elsewhere concern]
    · have same : unsettled message after = unsettled message now := by
        unfold unsettled
        rw [List.countP_eq_length_filter, undisturbed.unacked, ← List.countP_eq_length_filter]
      simpa [List.countP_append, concern, same] using within
  | true =>
    obtain ⟨next, atNext, nextHandled, fewer⟩ :=
      step_advances tracked tidy distinct decodes accepted faultless unhindered concern
    refine ⟨next, atNext, ?_, ?_⟩
    · rw [List.filterMap_append, handled, nextHandled, filterMap_singleton]
    · simp only [List.countP_append, List.countP_singleton, concern, if_true]
      omega

theorem Stage.outcomes_length (stage : Stage Event) :
    stage.outcomes.length ≤ stage.failures + 1 := by
  cases stage with
  | ready failures => simp [Stage.outcomes, Stage.failures]
  | running failures tag point =>
    cases point <;> simp [Stage.outcomes, Stage.failures, Point.outcome]
  | retrying failures => simp [Stage.outcomes, Stage.failures]
  | buried failures => simp [Stage.outcomes, Stage.failures]
  | completed failures => simp [Stage.outcomes, Stage.failures]

/-- A callback of the message can always go on. -/
theorem canGoOn_of_task {message : Message} {state : State Event} {tag : Nat} {task : Task Event}
    (atTag : state.tasks tag = some task) (own : copyOf message task.message = true) :
    CanGoOn consumer message state := by
  have same : ∀ other ∈ state.tasks tag, other = task := by
    intro other there
    exact Option.some.inj (there.symm.trans atTag)
  refine ⟨.stepped tag (.returned false) false, ?_, ?_, ?_, ?_⟩
  · simp [concerns, atTag, own]
  · intro other there _
    rw [same other there]
    cases task.point <;> trivial
  · intro other there _
    rw [same other there]
    cases task.point <;> first | trivial | rfl | exact ⟨false, rfl⟩
  · simp only [step, atTag]
    exact ⟨_, rfl⟩

theorem Tracked.canGoOn {message : Message} {stage : Stage Event} {state : State Event}
    (tracked : Tracked consumer message stage state) (unsettled : ¬ Settled message state) :
    CanGoOn consumer message state := by
  have ofReady : ∀ queue : Queue, stage.queue = some queue →
      ∃ (index : Nat) (copy : Message),
        (state.broker.ready queue)[index]? = some copy ∧ copyOf message copy = true := by
    intro queue here
    have one := tracked.waiting queue
    rw [if_pos here] at one
    have some_ : 0 < state.broker.waiting (copyOf message) queue := by omega
    obtain ⟨copy, member, own⟩ := List.countP_pos_iff.mp some_
    obtain ⟨index, found⟩ := List.mem_iff_getElem?.mp member
    exact ⟨index, copy, found, own⟩
  have ofOut : stage.queue ≠ some .main → stage.queue ≠ some .retry →
      CanGoOn consumer message state := by
    intro notMain notRetry
    have none_main := (tracked.waiting .main).trans (if_neg notMain)
    have none_retry := (tracked.waiting .retry).trans (if_neg notRetry)
    have out : ∃ delivery ∈ state.broker.unacked, copyOf message delivery.message = true := by
      by_contra none_out
      apply unsettled
      refine ⟨?_, none_main, none_retry⟩
      intro delivery inUnacked
      by_contra own
      exact none_out ⟨delivery, inUnacked, by rwa [Bool.not_eq_false] at own⟩
    obtain ⟨delivery, inUnacked, own⟩ := out
    obtain ⟨task, atTag, same⟩ := tracked.out delivery inUnacked own
    exact canGoOn_of_task atTag (same ▸ own)
  cases stage with
  | ready failures =>
    obtain ⟨index, copy, found, own⟩ := ofReady .main rfl
    refine ⟨.delivered index, by simp [concerns, found, own], trivial, trivial, ?_⟩
    simp only [step, Broker.deliver, found]
    exact ⟨_, rfl⟩
  | retrying failures =>
    obtain ⟨index, copy, found, own⟩ := ofReady .retry rfl
    refine ⟨.expired index [], by simp [concerns, found, own], ?_, trivial, ?_⟩
    · intro _ absent
      exact absurd absent List.not_mem_nil
    · simp only [step, Broker.deadLetter, found, Option.map_some]
      exact ⟨_, rfl⟩
  | running failures tag point => exact ofOut (by simp [Stage.queue]) (by simp [Stage.queue])
  | buried failures => exact ofOut (by simp [Stage.queue]) (by simp [Stage.queue])
  | completed failures => exact ofOut (by simp [Stage.queue]) (by simp [Stage.queue])

theorem follows_get {succeeds : Nat → Bool} {outcomes : List Bool}
    (follows : Follows succeeds outcomes) {index : Nat} (bound : index < outcomes.length) :
    succeeds index = outcomes[index] := by
  have same := congrArg (fun list => list[index]?) follows
  simpa [bound] using same.symm

theorem findIdx_range {succeeds : Nat → Bool} {limit index : Nat} (bound : index < limit)
    (success : succeeds index = true) (before : ∀ earlier < index, succeeds earlier = false) :
    (List.range limit).findIdx succeeds = index := by
  have inRange : index < (List.range limit).length := by simpa using bound
  rw [List.findIdx_eq inRange]
  simpa using ⟨success, before⟩

/-- Once the message is settled, it is completed or buried. -/
theorem Tracked.bounded {message : Message} {stage : Stage Event} {state : State Event}
    (tracked : Tracked consumer message stage state) (settled : Settled message state)
    {succeeds : Nat → Bool} (follows : Follows succeeds stage.outcomes) :
    Bounded consumer.limit succeeds stage.outcomes (deadLetters message state) := by
  have within := tracked.bound
  have buriedCount := tracked.waiting .dlq
  cases stage with
  | ready failures =>
    have one := tracked.waiting .main
    rw [settled.2.1] at one
    cases one
  | retrying failures =>
    have one := tracked.waiting .retry
    rw [settled.2.2] at one
    cases one
  | running failures tag point =>
    obtain ⟨copy, atTag, own, -⟩ := tracked.running failures tag point rfl
    obtain ⟨delivery, inUnacked, -, same⟩ := tracked.held tag _ atTag own
    have other := settled.1 delivery inUnacked
    rw [same, own] at other
    cases other
  | buried failures =>
    have beyond := tracked.spent failures rfl
    have last : failures = consumer.maxRetries.toNat := by
      simp only [Stage.failures] at within
      omega
    have never : ∀ index < consumer.limit, succeeds index = false := by
      intro index bound
      have inOutcomes : index < (Stage.buried failures : Stage Event).outcomes.length := by
        simpa [Stage.outcomes, last, Consumer.limit] using bound
      rw [follows_get follows inOutcomes]
      have all : (Stage.buried failures : Stage Event).outcomes =
          List.replicate (failures + 1) false := List.replicate_succ'.symm
      simp [all]
    refine ⟨?_, buriedCount.trans (if_pos never).symm⟩
    have none_found : (List.range consumer.limit).findIdx succeeds = consumer.limit := by
      have atEnd : (List.range consumer.limit).findIdx succeeds =
          (List.range consumer.limit).length ↔ _ := List.findIdx_eq_length
      rw [List.length_range] at atEnd
      exact atEnd.mpr fun index member => never index (List.mem_range.mp member)
    rw [none_found, Nat.min_eq_right (Nat.le_succ _)]
    simp [Stage.outcomes, last, Consumer.limit]
  | completed failures =>
    have bound : failures < consumer.limit := Nat.lt_succ_of_le within
    have length : (Stage.completed failures : Stage Event).outcomes.length = failures + 1 := by
      simp [Stage.outcomes]
    have success : succeeds failures = true := by
      rw [follows_get follows (by omega)]
      simp [Stage.outcomes]
    have before : ∀ earlier < failures, succeeds earlier = false := by
      intro earlier isBefore
      rw [follows_get follows (by omega)]
      simp [Stage.outcomes, isBefore]
    refine ⟨?_, buriedCount.trans (if_neg ?_).symm⟩
    · rw [findIdx_range bound success before, length, Nat.min_eq_left bound]
    · intro never
      rw [never failures bound] at success
      cases success

/-- The handler runs for a message until its first success, at most `MAX_RETRIES` times more than
once, and only a message that it always fails is dead-lettered, once: this is so when no step of
the message is left, there are boundedly many of them, and until then one is possible. -/
theorem handled_until_success (consumer : Consumer Event) {message : Message} {event : Event}
    (decodes : consumer.decode message.body = .event event) {ready : Queue → List Message}
    (queued : Queued consumer message ready) (moves : List Move)
    (faultless : Run.Meets (Faultless message) (history consumer ready moves).past)
    (unhindered : Run.Meets (Unhindered message) (history consumer ready moves).past) :
    (outcomes message (history consumer ready moves).past).length ≤ consumer.limit ∧
      ownSteps message (history consumer ready moves).past < 6 * consumer.limit ∧
      (¬ Settled message (history consumer ready moves).now →
        CanGoOn consumer message (history consumer ready moves).now) ∧
      (Settled message (history consumer ready moves).now → ∀ succeeds,
        Follows succeeds (outcomes message (history consumer ready moves).past) →
        Bounded consumer.limit succeeds (outcomes message (history consumer ready moves).past)
          (deadLetters message (history consumer ready moves).now)) := by
  have both := (Run.meets_and _ _ _).mpr ⟨faultless, unhindered⟩
  have progress : Progress consumer message (history consumer ready moves).past
      (history consumer ready moves).now :=
    Run.run_of_meets (step consumer) (State.begin_ ready) (Progress consumer message)
      _ (begin_progress queued)
      (fun past now move after output progress condition accepted =>
        step_progress queued.distinct decodes progress accepted condition.1 condition.2) moves both
  obtain ⟨tidy, stage, tracked, handled, within⟩ := progress
  rw [handled]
  refine ⟨?_, by omega, tracked.canGoOn, ?_⟩
  · exact Nat.le_trans stage.outcomes_length (Nat.succ_le_succ tracked.bound)
  · intro settled succeeds follows
    exact tracked.bounded settled follows

instance (answer : Answer) : Decidable (∃ value, answer = .returned value) :=
  match answer with
  | .returned value => isTrue ⟨value, rfl⟩
  | .raised _ => isFalse nofun

instance (answer : Answer) (lost : Bool) (point : Point Event) :
    Decidable (point.served answer lost) :=
  match point with
  | .checking => isTrue trivial
  | .handling _ => isTrue trivial
  | .marking => isTrue trivial
  | .skipping => inferInstanceAs (Decidable (_ ∧ _))
  | .publishingPoison _ => inferInstanceAs (Decidable (_ ∧ _))
  | .ackingPoison => inferInstanceAs (Decidable (_ ∧ _))
  | .rejectingPoison => inferInstanceAs (Decidable (_ ∧ _))
  | .acking => inferInstanceAs (Decidable (_ ∧ _))
  | .publishingRetry _ => inferInstanceAs (Decidable (_ ∧ _))
  | .publishingDead _ => inferInstanceAs (Decidable (_ ∧ _))
  | .ackingFailed => inferInstanceAs (Decidable (_ ∧ _))
  | .rejectingFailed => inferInstanceAs (Decidable (_ ∧ _))

instance (answer : Answer) (point : Point Event) : Decidable (point.unhindered answer) :=
  match point with
  | .checking => inferInstanceAs (Decidable (_ = _))
  | .marking => inferInstanceAs (Decidable (∃ value, answer = .returned value))
  | .handling _ => isTrue trivial
  | .skipping => isTrue trivial
  | .publishingPoison _ => isTrue trivial
  | .ackingPoison => isTrue trivial
  | .rejectingPoison => isTrue trivial
  | .acking => isTrue trivial
  | .publishingRetry _ => isTrue trivial
  | .publishingDead _ => isTrue trivial
  | .ackingFailed => isTrue trivial
  | .rejectingFailed => isTrue trivial

instance (message : Message) (state : State Event) (move : Move) :
    Decidable (Faultless message state move) :=
  match move with
  | .published _ _ _ => inferInstanceAs (Decidable (_ = _))
  | .delivered _ => isTrue trivial
  | .expired _ death => inferInstanceAs (Decidable (∀ field ∈ death, field.1 ≠ "retry_count"))
  | .givenBack tag => inferInstanceAs (Decidable (∀ task ∈ state.tasks tag, _ = _))
  | .stepped tag _ _ => inferInstanceAs (Decidable (∀ task ∈ state.tasks tag, _ → _))
  | .abandoned tag => inferInstanceAs (Decidable (∀ task ∈ state.tasks tag, _ = _))

instance (message : Message) (state : State Event) (move : Move) :
    Decidable (Unhindered message state move) :=
  match move with
  | .stepped tag _ _ => inferInstanceAs (Decidable (∀ task ∈ state.tasks tag, _ → _))
  | .published _ _ _ => isTrue trivial
  | .delivered _ => isTrue trivial
  | .expired _ _ => isTrue trivial
  | .givenBack _ => isTrue trivial
  | .abandoned _ => isTrue trivial

instance (message : Message) (state : State Event) : Decidable (Settled message state) :=
  inferInstanceAs (Decidable ((∀ delivery ∈ state.broker.unacked, _ = _) ∧ _ = _ ∧ _ = _))

instance (succeeds : Nat → Bool) (outcomes : List Bool) : Decidable (Follows succeeds outcomes) :=
  inferInstanceAs (Decidable (_ = _))

instance (limit : Nat) (succeeds : Nat → Bool) (outcomes : List Bool) (deadLetters : Nat) :
    Decidable (Bounded limit succeeds outcomes deadLetters) :=
  inferInstanceAs (Decidable (_ = _ ∧ _ = _))

section Sample

def onlyOrder (queue : Queue) : List Message := if queue = .main then [order] else []

theorem queued_order : Queued orders order onlyOrder := by
  refine ⟨by decide, ?_, ?_, ?_⟩
  · intro queue notMain
    cases queue <;> first | exact absurd rfl notMain | rfl
  · intro copy member own
    cases List.mem_singleton.mp member
    rfl
  · intro first second same
    cases first <;> cases second <;> first | rfl | exact absurd same (by decide)

/-- The handler fails once, and the retry succeeds. -/
def secondTime : List Move :=
  [.delivered 0, .stepped 0 (.returned false) false, .stepped 0 (.raised "timeout") false,
   .stepped 0 (.returned true) false, .stepped 0 (.returned true) false, .expired 0 [],
   .delivered 0, .stepped 1 (.returned false) false, .stepped 1 (.returned true) false,
   .stepped 1 (.returned true) false, .stepped 1 (.returned true) false]

theorem handled_second_time :
    Bounded 4 (fun index => index = 1)
      (outcomes order (history orders onlyOrder secondTime).past)
      (deadLetters order (history orders onlyOrder secondTime).now) :=
  (handled_until_success orders rfl queued_order secondTime (by decide)
    (by decide)).2.2.2 (by decide) _ (by decide)

/-- The body is no JSON, and the message goes to the dead letters at once. -/
def malformed : List Move :=
  [.delivered 0, .stepped 0 (.returned false) false, .stepped 0 (.returned true) false,
   .stepped 0 (.returned true) false]

/-- The check knows the event. -/
def known : List Move :=
  [.delivered 0, .stepped 0 (.returned true) false, .stepped 0 (.returned true) false]

/-- The handler returns and the mark raises, and the handler returns again. -/
def unmarked : List Move :=
  [.delivered 0, .stepped 0 (.returned false) false, .stepped 0 (.returned true) false,
   .stepped 0 (.raised "connection lost") false, .stepped 0 (.returned true) false,
   .stepped 0 (.returned true) false, .expired 0 [], .delivered 0,
   .stepped 1 (.returned false) false, .stepped 1 (.returned true) false,
   .stepped 1 (.returned true) false, .stepped 1 (.returned true) false]

/-- No body is JSON. -/
def mangledOrders : Consumer Unit :=
  { orders with decode := fun _ => .malformed "Expecting value: line 1 column 1 (char 0)" }

/-- After a run without broker faults and a handler that always succeeds, the count is not the
one that the handler's outcomes give. -/
def Miscounted (consumer : Consumer Unit) (moves : List Move) : Prop :=
  Run.Meets (Faultless order) (history consumer onlyOrder moves).past ∧
    Settled order (history consumer onlyOrder moves).now ∧
    Follows (fun _ => true) (outcomes order (history consumer onlyOrder moves).past) ∧
    ¬ Bounded consumer.limit (fun _ => true)
      (outcomes order (history consumer onlyOrder moves).past)
      (deadLetters order (history consumer onlyOrder moves).now)

instance (consumer : Consumer Unit) (moves : List Move) : Decidable (Miscounted consumer moves) :=
  inferInstanceAs (Decidable (_ ∧ _ ∧ _ ∧ ¬ _))

theorem handled_other_times :
    (Queued mangledOrders order onlyOrder ∧ Miscounted mangledOrders malformed) ∧
      Queued orders order onlyOrder ∧ Miscounted orders known ∧ Miscounted orders unmarked := by
  have mangled : Queued mangledOrders order onlyOrder :=
    ⟨queued_order.once, queued_order.elsewhere, queued_order.uncounted, queued_order.distinct⟩
  exact ⟨⟨mangled, by decide⟩, queued_order, by decide, by decide⟩

end Sample

end BigX.Messaging
