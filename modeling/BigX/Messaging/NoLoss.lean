import BigX.Messaging.Consumer

set_option autoImplicit false

/- No message is lost. The callback acknowledges a delivery only once the message is safe
somewhere else: completed, or in a copy that no other callback is about to acknowledge. -/
namespace BigX.Messaging

open Amqp

variable {Event : Type} {consumer : Consumer Event}

/-- A copy of the message: retries and dead letters change the headers only. -/
def Message.Same (copy message : Message) : Prop :=
  copy.body = message.body ∧ copy.messageId = message.messageId

/-- The broker holds the message for the consumer: in one of the three queues, or delivered
and not acknowledged. -/
def State.Held (state : State Event) (message : Message) : Prop :=
  ∃ copy : Message, copy.Same message ∧
    ((∃ queue, copy ∈ state.broker.ready queue) ∨
      ∃ delivery ∈ state.broker.unacked, delivery.message = copy)

/-- The handler completed the event; without an id, this very message. -/
def State.Handled (state : State Event) (message : Message) : Prop :=
  ∃ done ∈ state.completed, done.eventId = message.eventId ∧
    (message.eventId = none → done.Same message)

/-- The message was put into the consumer's queue and is there, or delivered from it. -/
def State.InQueue (state : State Event) (message : Message) : Prop :=
  message ∈ state.broker.ready .main ∨
    ∃ delivery ∈ state.broker.unacked, delivery.message = message

def Point.asks : Point Event → Bool
  | .checking => true
  | _ => false

/-- The idempotency check says yes only to events that the handler completed. -/
def answersTruly (state : State Event) : Move → Prop
  | .stepped tag (.returned true) _ => ∀ task, state.tasks tag = some task →
      task.point.asks = true → ∃ done ∈ state.completed, done.eventId = task.message.eventId
  | _ => True

/-- From these points on the callback counts on the message being safe elsewhere. -/
def Point.settled : Point Event → Bool
  | .skipping => true
  | .ackingPoison => true
  | .marking => true
  | .acking => true
  | .ackingFailed => true
  | _ => false

def State.Claimed (state : State Event) (tag : Nat) : Prop :=
  ∃ task, state.tasks tag = some task ∧ task.point.settled = true

/-- The message is safe without the deliveries that callbacks count out. -/
def State.Kept (state : State Event) (message : Message) : Prop :=
  state.Handled message ∨ ∃ copy : Message, copy.Same message ∧
    state.broker.Loose state.Claimed copy

/-- A point belongs to a message: it publishes a copy of it, or asks about its event. -/
structure Fits (consumer : Consumer Event) (message : Message) (point : Point Event) : Prop where
  copied : ∀ exchange copy, consumer.command point = .publish exchange copy → copy.Same message
  named : point.asks = true → message.eventId ≠ none

/-- Every callback works on its own delivery, and on a settled point the message is safe. -/
structure Orderly (consumer : Consumer Event) (state : State Event) : Prop where
  below : state.broker.TagsBelow
  unused : ∀ tag, state.broker.nextTag ≤ tag → state.tasks tag = none
  own : ∀ delivery ∈ state.broker.unacked, ∀ task, state.tasks delivery.tag = some task →
    task.message = delivery.message
  kept : ∀ tag task, state.tasks tag = some task → task.point.settled = true →
    state.Kept task.message
  fits : ∀ tag task, state.tasks tag = some task → Fits consumer task.message task.point

theorem Message.Same.trans {first second third : Message} (nearer : first.Same second)
    (farther : second.Same third) : first.Same third :=
  ⟨nearer.1.trans farther.1, nearer.2.trans farther.2⟩

theorem Message.Same.eventId {copy message : Message} (same : copy.Same message) :
    copy.eventId = message.eventId := by
  simp only [Message.eventId, same.2]

theorem State.Kept.same {state : State Event} {copy message : Message} (kept : state.Kept copy)
    (same : copy.Same message) : state.Kept message := by
  rcases kept with ⟨done, member, equal, unnamedSame⟩ | ⟨other, alike, loose⟩
  · refine Or.inl ⟨done, member, equal.trans same.eventId, ?_⟩
    intro unnamed
    exact (unnamedSame (same.eventId.trans unnamed)).trans same
  · exact Or.inr ⟨other, alike.trans same, loose⟩

/-- What is safe is held or handled. -/
theorem State.Kept.held {state : State Event} {message : Message} (kept : state.Kept message) :
    state.Held message ∨ state.Handled message := by
  rcases kept with handled | ⟨copy, same, waiting | ⟨delivery, member, equal, -⟩⟩
  · exact Or.inr handled
  · exact Or.inl ⟨copy, same, Or.inl waiting⟩
  · exact Or.inl ⟨copy, same, Or.inr ⟨delivery, member, equal⟩⟩

/-- Whatever is in the queue is safe, delivered or not. -/
theorem Orderly.kept_inQueue {state : State Event} (orderly : Orderly consumer state) {message : Message}
    (queued : state.InQueue message) : state.Kept message := by
  rcases queued with waiting | ⟨delivery, member, rfl⟩
  · exact Or.inr ⟨message, ⟨rfl, rfl⟩, Or.inl ⟨.main, waiting⟩⟩
  · by_cases claimed : state.Claimed delivery.tag
    · obtain ⟨task, running, settled⟩ := claimed
      rw [← orderly.own delivery member task running]
      exact orderly.kept _ task running settled
    · exact Or.inr ⟨_, ⟨rfl, rfl⟩, Or.inr ⟨delivery, member, rfl, claimed⟩⟩

theorem handleFailure_fits {message : Message} {error : String} {point : Point Event}
    (next : consumer.handleFailure message error = some point) :
    Fits consumer message point ∧ point.settled = false := by
  unfold Consumer.handleFailure at next
  split at next
  · cases next
  · dsimp only at next
    split at next
    all_goals
      cases next
      refine ⟨⟨?_, fun asked => by cases asked⟩, rfl⟩
      intro exchange copy published
      cases published
      exact ⟨rfl, rfl⟩

theorem decodeBody_fits {message : Message} {point : Point Event}
    (next : consumer.decodeBody message = some point) :
    Fits consumer message point ∧ point.settled = false := by
  unfold Consumer.decodeBody at next
  split at next
  · cases next
    refine ⟨⟨?_, fun asked => by cases asked⟩, rfl⟩
    intro exchange copy published
    cases published
  · cases next
    refine ⟨⟨?_, fun asked => by cases asked⟩, rfl⟩
    intro exchange copy published
    cases published
    exact ⟨rfl, rfl⟩
  · exact handleFailure_fits next

theorem processMessage_fits {message : Message} {point : Point Event}
    (next : consumer.processMessage message = some point) :
    Fits consumer message point ∧ point.settled = false := by
  unfold Consumer.processMessage at next
  split at next
  · rename_i checked
    cases next
    refine ⟨⟨?_, fun _ => Option.isSome_iff_ne_none.mp checked.1⟩, rfl⟩
    intro exchange copy published
    cases published
  · exact decodeBody_fits next

/-- A settled point belongs to every message: it neither publishes nor asks. -/
theorem fits_of_settled {message : Message} {point : Point Event}
    (settled : point.settled = true) : Fits consumer message point := by
  constructor
  · intro exchange copy published
    cases point <;> first | exact absurd settled Bool.false_ne_true | cases published
  · intro asked
    cases point <;> first | exact absurd settled Bool.false_ne_true | cases asked

theorem fits_of_reject {message : Message} {point : Point Event}
    (rejects : consumer.command point = .reject) :
    Fits consumer message point ∧ point.settled = false := by
  refine ⟨⟨?_, ?_⟩, ?_⟩
  · intro exchange copy published
    rw [rejects] at published
    cases published
  · intro asked
    cases point <;> first | exact absurd asked Bool.false_ne_true | cases rejects
  · cases point <;> first | rfl | cases rejects

/-- Why a callback may count on the message being safe: it already did, the check said so,
the handler returned, or a copy was published. -/
inductive Settles (consumer : Consumer Event) (point : Point Event) : Answer → Prop
  | before (settled : point.settled = true) (answer : Answer) : Settles consumer point answer
  | duplicate (asked : point.asks = true) : Settles consumer point (.returned true)
  | completed (event : Event) (handled : point = .handling event) (value : Bool) :
      Settles consumer point (.returned value)
  | published (exchange : String) (copy : Message) (queue : Queue)
      (command : consumer.command point = .publish exchange copy)
      (reached : reaches consumer.declareQueue exchange consumer.routingKey queue = true)
      (value : Bool) : Settles consumer point (.returned value)

theorem reaches_retry (consumer : Consumer Event) :
    reaches consumer.declareQueue consumer.retryExchange consumer.routingKey .retry = true :=
  reaches_of_binding (List.mem_cons_of_mem _ List.mem_cons_self)

theorem reaches_dlq (consumer : Consumer Event) :
    reaches consumer.declareQueue consumer.dlxExchange consumer.routingKey .dlq = true :=
  reaches_of_binding (List.mem_cons_of_mem _ (List.mem_cons_of_mem _ List.mem_cons_self))

theorem reaches_main (consumer : Consumer Event) :
    reaches consumer.declareQueue consumer.mainExchange consumer.routingKey .main = true :=
  reaches_of_binding List.mem_cons_self

/-- An exception leads to the handling of the failure, or to a rejection. -/
theorem raised_fits {message : Message} {point next : Point Event} {error : String}
    (resumed : consumer.resume message point (.raised error) = some next) :
    Fits consumer message next ∧ next.settled = false := by
  cases point with
  | checking | skipping | rejectingPoison | handling | marking | acking =>
    exact handleFailure_fits resumed
  | publishingPoison | ackingPoison | publishingRetry | publishingDead | ackingFailed =>
    cases resumed
    exact fits_of_reject rfl
  | rejectingFailed => cases resumed

/-- What returns goes on with the body of a new message, or has made the message safe. -/
theorem returned_fits {message : Message} {point next : Point Event} {value : Bool}
    (resumed : consumer.resume message point (.returned value) = some next) :
    (Fits consumer message next ∧ next.settled = false) ∨
      (next.settled = true ∧ Settles consumer point (.returned value)) := by
  cases point with
  | checking =>
    cases value with
    | false => exact .inl (decodeBody_fits resumed)
    | true =>
      cases resumed
      exact .inr ⟨rfl, .duplicate rfl⟩
  | skipping | ackingPoison | rejectingPoison | acking | ackingFailed | rejectingFailed =>
    cases resumed
  | publishingPoison copy =>
    cases resumed
    exact .inr ⟨rfl, .published _ copy .dlq rfl (reaches_dlq consumer) value⟩
  | handling event =>
    simp only [Consumer.resume] at resumed
    split at resumed
    · cases resumed
      exact .inr ⟨rfl, .completed event rfl value⟩
    · cases resumed
      exact .inr ⟨rfl, .completed event rfl value⟩
  | marking =>
    cases resumed
    exact .inr ⟨rfl, .before rfl _⟩
  | publishingRetry copy =>
    cases resumed
    exact .inr ⟨rfl, .published _ copy .retry rfl (reaches_retry consumer) value⟩
  | publishingDead copy =>
    cases resumed
    exact .inr ⟨rfl, .published _ copy .dlq rfl (reaches_dlq consumer) value⟩

/-- What comes after an `await` belongs to the message, and a settled point has its reason. -/
theorem resume_fits {message : Message} {point next : Point Event} {answer : Answer}
    (resumed : consumer.resume message point answer = some next) :
    Fits consumer message next ∧ (next.settled = true → Settles consumer point answer) := by
  have unsettled (held : Fits consumer message next ∧ next.settled = false) :
      Fits consumer message next ∧ (next.settled = true → Settles consumer point answer) := by
    refine ⟨held.1, ?_⟩
    intro settled
    rw [held.2] at settled
    cases settled
  cases answer with
  | raised error => exact unsettled (raised_fits resumed)
  | returned value =>
    rcases returned_fits resumed with held | ⟨settled, reason⟩
    · exact unsettled held
    · exact ⟨fits_of_settled settled, fun _ => reason⟩

theorem command_ack {point : Point Event} (acks : consumer.command point = .ack) :
    point.settled = true := by
  cases point <;> first | rfl | cases acks

/-- A command loses no copy but the delivery that it acknowledges. -/
theorem perform_loose {command : Command} {answer : Answer} {lost : Bool} {tag : Nat}
    {broker : Broker Queue Message} {claimed : Nat → Prop} {copy : Message}
    (loose : broker.Loose claimed copy) (claim : command = .ack → claimed tag) :
    (consumer.perform command answer lost tag broker).Loose claimed copy := by
  cases command with
  | nothing => exact loose
  | publish exchange other =>
    simp only [Consumer.perform]
    split
    · exact loose
    · exact loose.publish _ _ _ _
  | ack =>
    simp only [Consumer.perform]
    split
    · exact loose
    · exact loose.ack (claim rfl)
  | reject =>
    simp only [Consumer.perform]
    split
    · exact loose
    · exact loose.requeue tag

/-- No command delivers anything. -/
theorem perform_unacked {command : Command} {answer : Answer} {lost : Bool} {tag : Nat}
    {broker : Broker Queue Message} :
    (∀ delivery ∈ (consumer.perform command answer lost tag broker).unacked,
      delivery ∈ broker.unacked) ∧
    (consumer.perform command answer lost tag broker).nextTag = broker.nextTag := by
  cases command with
  | nothing => exact ⟨fun _ member => member, rfl⟩
  | publish exchange other =>
    simp only [Consumer.perform]
    split
    · exact ⟨fun _ member => member, rfl⟩
    · exact ⟨fun _ member => member, rfl⟩
  | ack =>
    simp only [Consumer.perform]
    split
    · exact ⟨fun _ member => member, rfl⟩
    · exact ⟨fun _ member => List.mem_of_mem_filter member, rfl⟩
  | reject =>
    simp only [Consumer.perform]
    split
    · exact ⟨fun _ member => member, rfl⟩
    · exact ⟨fun _ member => List.mem_of_mem_filter member, rfl⟩

/-- Nothing that was safe is given up. -/
def Keeps (before after : State Event) : Prop :=
  ∀ message, before.Kept message → after.Kept message

theorem kept_of_loose {before after : State Event} (completed : after.completed = before.completed)
    (loose : ∀ copy, before.broker.Loose before.Claimed copy →
      ∃ other : Message, other.Same copy ∧ after.broker.Loose after.Claimed other) :
    Keeps before after := by
  rintro message (⟨done, member, handled⟩ | ⟨copy, same, free⟩)
  · exact Or.inl ⟨done, completed ▸ member, handled⟩
  · obtain ⟨other, alike, still⟩ := loose copy free
    exact Or.inr ⟨other, alike.trans same, still⟩

/-- The broker moves messages, and no callback goes on. -/
theorem Orderly.move {before : State Event} (orderly : Orderly consumer before)
    {broker : Broker Queue Message}
    (unacked : ∀ delivery ∈ broker.unacked, delivery ∈ before.broker.unacked)
    (nextTag : broker.nextTag = before.broker.nextTag)
    (loose : ∀ copy, before.broker.Loose before.Claimed copy →
      ∃ other : Message, other.Same copy ∧ broker.Loose before.Claimed other) :
    Orderly consumer { before with broker := broker } ∧
      Keeps before { before with broker := broker } := by
  have keeps : Keeps before { before with broker := broker } := kept_of_loose rfl loose
  refine ⟨⟨?_, ?_, ?_, ?_, orderly.fits⟩, keeps⟩
  · intro delivery member
    exact nextTag ▸ orderly.below delivery (unacked delivery member)
  · intro tag unopened
    exact orderly.unused tag (nextTag ▸ unopened)
  · intro delivery member task running
    exact orderly.own delivery (unacked delivery member) task running
  · intro tag task running settled
    exact keeps _ (orderly.kept tag task running settled)

/-- A callback goes on, or ends: what it counts on from now on is safe. -/
theorem Orderly.advance {before after : State Event} (orderly : Orderly consumer before)
    {tag : Nat} {message : Message} {next : Option (Point Event)}
    (unacked : ∀ delivery ∈ after.broker.unacked, delivery ∈ before.broker.unacked)
    (nextTag : after.broker.nextTag = before.broker.nextTag)
    (tasks : after.tasks = Function.update before.tasks tag (next.map (Task.mk message)))
    (running : ∃ task, before.tasks tag = some task ∧ task.message = message)
    (completed : ∀ done ∈ before.completed, done ∈ after.completed)
    (loose : ∀ copy, before.broker.Loose before.Claimed copy →
      after.broker.Loose before.Claimed copy)
    (fits : ∀ point, next = some point → Fits consumer message point)
    (settles : ∀ point, next = some point → point.settled = true →
      before.Claimed tag ∨ after.Kept message) :
    Orderly consumer after ∧ Keeps before after := by
  obtain ⟨task, started, rfl⟩ := running
  have others : ∀ other, other ≠ tag → after.tasks other = before.tasks other := by
    intro other different
    rw [tasks, Function.update_of_ne different]
  have ownNext : after.tasks tag = next.map (Task.mk task.message) := by
    rw [tasks, Function.update_self]
  -- the only delivery that may be counted out anew is the callback's own
  have keeps : Keeps before after := by
    rintro kept (⟨done, member, handled⟩ | ⟨copy, same, free⟩)
    · exact Or.inl ⟨done, completed done member, handled⟩
    · rcases loose copy free with waiting | ⟨delivery, member, rfl, unclaimed⟩
      · exact Or.inr ⟨copy, same, Or.inl waiting⟩
      · by_cases claimed : after.Claimed delivery.tag
        · obtain ⟨later, current, settled⟩ := claimed
          by_cases mine : delivery.tag = tag
          · rw [mine, ownNext] at current
            obtain ⟨point, reached, rfl⟩ := Option.map_eq_some_iff.mp current
            rcases settles point reached settled with already | safe
            · exact absurd (mine ▸ already) unclaimed
            · have owned := orderly.own delivery (unacked delivery member) task (mine ▸ started)
              exact safe.same (owned ▸ same)
          · rw [others _ mine] at current
            exact absurd ⟨later, current, settled⟩ unclaimed
        · exact Or.inr ⟨_, same, Or.inr ⟨delivery, member, rfl, claimed⟩⟩
  refine ⟨⟨?_, ?_, ?_, ?_, ?_⟩, keeps⟩
  · intro delivery member
    exact nextTag ▸ orderly.below delivery (unacked delivery member)
  · intro other unopened
    have idle := orderly.unused other (nextTag ▸ unopened)
    have different : other ≠ tag := by
      rintro rfl
      rw [idle] at started
      cases started
    rw [others other different, idle]
  · intro delivery member later current
    by_cases mine : delivery.tag = tag
    · rw [mine, ownNext] at current
      obtain ⟨point, -, rfl⟩ := Option.map_eq_some_iff.mp current
      exact orderly.own delivery (unacked delivery member) task (mine ▸ started)
    · rw [others _ mine] at current
      exact orderly.own delivery (unacked delivery member) later current
  · intro other later current settled
    by_cases mine : other = tag
    · rw [mine, ownNext] at current
      obtain ⟨point, reached, rfl⟩ := Option.map_eq_some_iff.mp current
      rcases settles point reached settled with ⟨earlier, same, already⟩ | safe
      · rw [started] at same
        cases same
        exact keeps _ (orderly.kept tag task started already)
      · exact safe
    · rw [others other mine] at current
      exact keeps _ (orderly.kept other later current settled)
  · intro other later current
    by_cases mine : other = tag
    · rw [mine, ownNext] at current
      obtain ⟨point, reached, rfl⟩ := Option.map_eq_some_iff.mp current
      exact fits point reached
    · rw [others other mine] at current
      exact orderly.fits other later current

/-- A delivery under a new tag, whose callback counts on nothing yet. -/
structure Opens (consumer : Consumer Event) (before after : State Event)
    (delivery : Delivery Queue Message) : Prop where
  delivered : ∃ index, before.broker.deliver .main index = some (delivery, after.broker)
  started : after.tasks delivery.tag =
    (consumer.processMessage delivery.message).map (Task.mk delivery.message)
  others : ∀ other, other ≠ delivery.tag → after.tasks other = before.tasks other
  completed : after.completed = before.completed

theorem Opens.claims {before after : State Event} {delivery : Delivery Queue Message}
    (opens : Opens consumer before after delivery) {tag : Nat} (claimed : after.Claimed tag) :
    before.Claimed tag := by
  obtain ⟨task, running, settled⟩ := claimed
  by_cases fresh : tag = delivery.tag
  · rw [fresh, opens.started] at running
    obtain ⟨point, reached, rfl⟩ := Option.map_eq_some_iff.mp running
    rw [(processMessage_fits reached).2] at settled
    cases settled
  · rw [opens.others tag fresh] at running
    exact ⟨task, running, settled⟩

theorem Opens.keeps {before after : State Event} {delivery : Delivery Queue Message}
    (opens : Opens consumer before after delivery) (orderly : Orderly consumer before) :
    Keeps before after := by
  obtain ⟨index, delivered⟩ := opens.delivered
  have unclaimed : ¬ before.Claimed before.broker.nextTag := by
    rintro ⟨task, running, -⟩
    rw [orderly.unused _ (Nat.le_refl _)] at running
    cases running
  apply kept_of_loose opens.completed
  intro copy loose
  exact ⟨copy, ⟨rfl, rfl⟩,
    (loose.deliver delivered unclaimed).unclaim fun _ _ claim => opens.claims claim⟩

theorem Opens.orderly {before after : State Event} {delivery : Delivery Queue Message}
    (opens : Opens consumer before after delivery) (orderly : Orderly consumer before) :
    Orderly consumer after := by
  obtain ⟨index, delivered⟩ := opens.delivered
  obtain ⟨tag, -, nextTag, unacked⟩ := Broker.deliver_ok delivered
  refine ⟨?_, ?_, ?_, ?_, ?_⟩
  · intro held member
    rw [unacked] at member
    rw [nextTag]
    rcases List.mem_cons.mp member with rfl | earlier
    · omega
    · exact Nat.lt_succ_of_lt (orderly.below held earlier)
  · intro other unopened
    rw [nextTag] at unopened
    rw [opens.others other (by omega)]
    exact orderly.unused other (by omega)
  · intro held member task running
    rw [unacked] at member
    rcases List.mem_cons.mp member with rfl | earlier
    · rw [opens.started] at running
      obtain ⟨point, -, rfl⟩ := Option.map_eq_some_iff.mp running
      rfl
    · have older := orderly.below held earlier
      rw [opens.others _ (by omega)] at running
      exact orderly.own held earlier task running
  · intro other task running settled
    obtain ⟨earlier, current, already⟩ := opens.claims ⟨task, running, settled⟩
    have older : other ≠ delivery.tag := by
      rintro rfl
      rw [tag, orderly.unused _ (Nat.le_refl _)] at current
      cases current
    rw [opens.others other older] at running
    exact opens.keeps orderly _ (orderly.kept other task running settled)
  · intro other task running
    by_cases fresh : other = delivery.tag
    · rw [fresh, opens.started] at running
      obtain ⟨point, reached, rfl⟩ := Option.map_eq_some_iff.mp running
      exact (processMessage_fits reached).1
    · rw [opens.others other fresh] at running
      exact orderly.fits other task running

/-- What a callback that goes on counts on, by the reason it has. -/
theorem Settles.kept {before after : State Event} {tag : Nat} {task : Task Event}
    {answer : Answer} {lost : Bool} (settles : Settles consumer task.point answer)
    (running : before.tasks tag = some task) (fits : Fits consumer task.message task.point)
    (truly : answersTruly before (.stepped tag answer lost))
    (broker : after.broker =
      consumer.perform (consumer.command task.point) answer lost tag before.broker)
    (completed : after.completed = before.completed ++ task.completes answer) :
    before.Claimed tag ∨ after.Kept task.message := by
  cases settles with
  | before settled => exact Or.inl ⟨task, running, settled⟩
  | duplicate asked =>
    obtain ⟨done, member, same⟩ := truly task running asked
    refine Or.inr (Or.inl ⟨done, ?_, same, fun unnamed => absurd unnamed (fits.named asked)⟩)
    rw [completed]
    exact List.mem_append_left _ member
  | completed event handled value =>
    refine Or.inr (Or.inl ⟨task.message, ?_, rfl, fun _ => ⟨rfl, rfl⟩⟩)
    have done : task.completes (.returned value) = [task.message] := by
      simp only [Task.completes, handled]
    rw [completed, done]
    exact List.mem_append_right _ (List.mem_singleton_self _)
  | published exchange copy queue command reached value =>
    refine Or.inr (Or.inr ⟨copy, fits.copied exchange copy command, ?_⟩)
    rw [broker, command]
    exact Broker.loose_published reached copy before.broker

theorem step_orderly {before after : State Event} {move : Move}
    (orderly : Orderly consumer before) (truly : answersTruly before move)
    (accepted : step consumer move before = .ok (after, ())) :
    Orderly consumer after ∧ Keeps before after := by
  have alike : ∀ {copy : Message} {broker : Broker Queue Message},
      broker.Loose before.Claimed copy →
      ∃ other : Message, other.Same copy ∧ broker.Loose before.Claimed other :=
    fun loose => ⟨_, ⟨rfl, rfl⟩, loose⟩
  cases move with
  | published exchange key message =>
    cases accepted
    exact orderly.move (fun _ member => member) rfl
      fun copy loose => alike (loose.publish _ exchange key message)
  | delivered index =>
    simp only [step] at accepted
    split at accepted
    · cases accepted
    · rename_i delivery broker delivered
      cases accepted
      have opens : Opens consumer before { before with
          broker := broker
          tasks := Function.update before.tasks delivery.tag
            ((consumer.processMessage delivery.message).map (Task.mk delivery.message)) } delivery :=
        ⟨⟨index, delivered⟩, Function.update_self ..,
          fun other different => Function.update_of_ne different .., rfl⟩
      exact ⟨opens.orderly orderly, opens.keeps orderly⟩
  | expired index death =>
    simp only [step] at accepted
    split at accepted
    · cases accepted
    · rename_i broker expired
      cases accepted
      obtain ⟨moved, -, rfl⟩ := Option.map_eq_some_iff.mp expired
      refine orderly.move (fun _ member => member) rfl fun copy loose => ?_
      rcases loose.deadLetter (reaches_main consumer) expired with kept | stamped
      · exact alike kept
      · exact ⟨copy.stamped death, ⟨rfl, rfl⟩, stamped⟩
  | givenBack tag =>
    cases accepted
    exact orderly.move (fun _ member => List.mem_of_mem_filter member) rfl
      fun copy loose => alike (loose.requeue tag)
  | stepped tag answer lost =>
    simp only [step] at accepted
    split at accepted
    · cases accepted
    · rename_i task running
      cases accepted
      have fits := orderly.fits tag task running
      apply orderly.advance perform_unacked.1 perform_unacked.2 rfl ⟨task, running, rfl⟩
      · intro done member
        exact List.mem_append_left _ member
      · intro copy loose
        exact perform_loose loose fun acks => ⟨task, running, command_ack acks⟩
      · intro point reached
        exact (resume_fits reached).1
      · intro point reached settled
        exact ((resume_fits reached).2 settled).kept running fits truly rfl rfl
  | abandoned tag =>
    cases accepted
    by_cases idle : before.tasks tag = none
    · rw [← idle, Function.update_eq_self]
      exact ⟨orderly, fun _ kept => kept⟩
    · obtain ⟨task, running⟩ := Option.ne_none_iff_exists'.mp idle
      apply @Orderly.advance Event consumer before
        { before with tasks := Function.update before.tasks tag none } orderly tag task.message none
        (fun _ member => member) rfl rfl ⟨task, running, rfl⟩ (fun _ member => member)
      · intro copy loose
        exact loose
      · intro point reached
        cases reached
      · intro point reached
        cases reached

theorem begin_orderly (consumer : Consumer Event) (ready : Queue → List Message) :
    Orderly consumer (State.begin_ ready : State Event) := by
  refine ⟨?_, fun _ _ => rfl, ?_, ?_, ?_⟩
  · intro delivery member
    cases member
  · intro delivery member
    cases member
  · intro tag task running
    cases running
  · intro tag task running
    cases running

/-- A message that was ever in the consumer's queue is held for it at every later moment, or
its handler completed the event. -/
theorem never_lost (consumer : Consumer Event) (ready : Queue → List Message)
    (moves later : List Move)
    (truly : Run.Meets answersTruly (history consumer ready (moves ++ later)).past)
    (message : Message) (queued : (history consumer ready moves).now.InQueue message) :
    (history consumer ready (moves ++ later)).now.Held message ∨
      (history consumer ready (moves ++ later)).now.Handled message := by
  suffices safe : Orderly consumer (history consumer ready (moves ++ later)).now ∧
      (history consumer ready (moves ++ later)).now.Kept message from safe.2.held
  induction later using List.reverseRecOn with
  | nil =>
    rw [List.append_nil] at truly ⊢
    have orderly := Run.run_of_meets (step consumer) (State.begin_ ready)
      (fun _ now => Orderly consumer now) answersTruly (begin_orderly consumer ready)
      (fun _ _ _ _ _ held condition accepted => (step_orderly held condition accepted).1)
      moves truly
    exact ⟨orderly, orderly.kept_inQueue queued⟩
  | append_singleton later move ih =>
    rw [← List.append_assoc] at truly ⊢
    simp only [history] at truly ih ⊢
    rw [Run.run_snoc] at truly ⊢
    cases attempt : step consumer move
        (Run.run (step consumer) (State.begin_ ready) (moves ++ later)).now with
    | error reason =>
      rw [Run.extend_error _ _ _ reason attempt] at truly ⊢
      exact ih truly
    | ok result =>
      rw [Run.extend_ok _ _ _ result.1 result.2 attempt] at truly ⊢
      obtain ⟨earlier, last⟩ := (Run.meets_snoc _ _ _).mp truly
      obtain ⟨orderly, kept⟩ := ih earlier
      obtain ⟨next, keeps⟩ := step_orderly orderly last attempt
      exact ⟨next, keeps message kept⟩

section Sample

def orders : Consumer Unit :=
  { mainExchange := "agentic.events"
    retryExchange := "agentic.retry"
    dlxExchange := "agentic.dlx"
    maxRetries := 3
    routingKey := "order.*"
    isProcessed := true
    markProcessed := true
    decode := fun _ => .event ()
    coerce := fun _ => .error "invalid literal for int()" }

def order : Message :=
  ⟨[123, 125], some "application/json", some "event-1", none, [("retry_count", .int 0)]⟩

/-- The handler fails; the retry is published and the delivery acknowledged; the connection
is lost while the retry is handled. -/
def retriedOrder : List Move :=
  [.delivered 0, .stepped 0 (.returned false) false, .stepped 0 (.raised "timeout") false,
   .stepped 0 (.returned false) false, .stepped 0 (.returned false) false, .expired 0 [],
   .delivered 0, .stepped 1 (.returned false) false, .abandoned 1, .givenBack 1]

theorem never_lost_retried :
    (history orders (fun queue => if queue = .main then [order] else []) retriedOrder).now.Held
        order ∨
      (history orders (fun queue => if queue = .main then [order] else []) retriedOrder).now.Handled
        order := by
  apply never_lost orders _ [] retriedOrder
  · apply Run.meets_of_inputs
    intro move member state
    simp only [retriedOrder, List.nil_append, List.mem_cons, List.not_mem_nil, or_false] at member
    rcases member with rfl | rfl | rfl | rfl | rfl | rfl | rfl | rfl | rfl | rfl
    all_goals trivial
  · exact Or.inl (List.mem_singleton_self order)

end Sample

end BigX.Messaging
