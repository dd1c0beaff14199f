import BigX.Messaging.EffectivelyOnce

set_option autoImplicit false

/- Where one message is between its first delivery and its end. The count of its failures travels
in a header, from a delivery to the copy in the retry queue and from there back to the main
queue, while the delivery that failed may still be waiting for its acknowledgement. -/
namespace BigX.Messaging

open Amqp

variable {Event : Type} {consumer : Consumer Event}

/-- Retries and dead letters keep the body and the id. -/
def copyOf (message copy : Message) : Bool :=
  copy.body = message.body && copy.messageId = message.messageId

theorem copyOf_iff {message copy : Message} : copyOf message copy = true ↔ copy.Same message := by
  simp [copyOf, Message.Same]

section Headers

theorem Headers.get_set (headers : Headers) (key : String) (value : HeaderValue) :
    (headers.set key value).get key = some value := by
  unfold Headers.set Headers.get
  split
  · rename_i present
    induction headers with
    | nil => simp at present
    | cons field rest ih =>
      by_cases same : field.1 = key
      · simp [same]
      · simp only [List.any_cons, same, decide_false, Bool.false_or] at present
        simpa [same] using ih present
  · rename_i absent
    have none_here : headers.find? (fun field => decide (field.1 = key)) = none := by
      apply List.find?_eq_none.mpr
      intro field member found
      exact absent (List.any_eq_true.mpr ⟨field, member, found⟩)
    simp [none_here]

theorem Headers.get_set_other (headers : Headers) {key other : String} (differs : other ≠ key)
    (value : HeaderValue) : (headers.set other value).get key = headers.get key := by
  unfold Headers.set Headers.get
  split
  · clear * - differs
    induction headers with
    | nil => rfl
    | cons field rest ih =>
      by_cases changed : field.1 = other
      · simp only [List.map_cons, changed, if_true, List.find?_cons, differs, decide_false]
        exact ih
      · by_cases found : field.1 = key
        · simp [found, Ne.symm differs]
        · simp only [List.map_cons, changed, if_false, List.find?_cons, found, decide_false]
          exact ih
  · simp [List.find?_append, differs]

/-- What the broker adds to an expired message leaves the other headers. -/
theorem stamped_get {death : Headers} {key : String} (other : ∀ field ∈ death, field.1 ≠ key)
    (message : Message) : (message.stamped death).headers.get key = message.headers.get key := by
  unfold Message.stamped
  dsimp only
  induction death generalizing message with
  | nil => rfl
  | cons field rest ih =>
    have later := ih (fun field member => other field (List.mem_cons_of_mem _ member))
      { message with headers := message.headers.set field.1 field.2 }
    rw [List.foldl_cons, later]
    exact Headers.get_set_other message.headers (other field List.mem_cons_self) field.2

theorem retryCount_congr {message other : Message}
    (same : other.headers.get "retry_count" = message.headers.get "retry_count") :
    consumer.retryCount other = consumer.retryCount message := by
  unfold Consumer.retryCount
  rw [same]

end Headers

/-- How many invocations of the handler a message can have. -/
def Consumer.limit (consumer : Consumer Event) : Nat := consumer.maxRetries.toNat + 1

/-- How the handler's invocation ends, where the callback is waiting for it. -/
def Point.handled (answer : Answer) : Point Event → Option Bool
  | .handling _ =>
      match answer with
      | .returned _ => some true
      | .raised _ => some false
  | _ => none

/-- How one step ends an invocation of the handler for the message, if it does. -/
def outcome (message : Message) (entry : Entry Event) : Option Bool :=
  match entry.input with
  | .stepped tag answer _ =>
      match entry.before.tasks tag with
      | none => none
      | some task => if copyOf message task.message = true then task.point.handled answer else none
  | _ => none

abbrev outcomes (message : Message) (past : List (Entry Event)) : List Bool :=
  past.filterMap (outcome message)

/-- The broker does what a callback at this point asks it for. -/
def Point.served (answer : Answer) (lost : Bool) : Point Event → Prop
  | .handling _ => True
  | .checking => True
  | .marking => True
  | _ => lost = false ∧ ∃ value, answer = .returned value

/-- The idempotency callbacks neither know the event nor raise. -/
def Point.unhindered (answer : Answer) : Point Event → Prop
  | .checking => answer = .returned false
  | .marking => ∃ value, answer = .returned value
  | _ => True

/-- No broker fault befalls the message, and nobody publishes it again. -/
def Faultless (message : Message) (state : State Event) : Move → Prop
  | .published _ _ other => copyOf message other = false
  | .delivered _ => True
  | .expired _ death => ∀ field ∈ death, field.1 ≠ "retry_count"
  | .givenBack tag => ∀ task ∈ state.tasks tag, copyOf message task.message = false
  | .stepped tag answer lost => ∀ task ∈ state.tasks tag, copyOf message task.message = true →
      task.point.served answer lost
  | .abandoned tag => ∀ task ∈ state.tasks tag, copyOf message task.message = false

/-- The idempotency callbacks let the handler have the message. -/
def Unhindered (message : Message) (state : State Event) : Move → Prop
  | .stepped tag answer _ => ∀ task ∈ state.tasks tag, copyOf message task.message = true →
      task.point.unhindered answer
  | _ => True

/-- A step of the message: its delivery, the expiry of its retry, or a step of its callback. -/
def concerns (message : Message) (state : State Event) : Move → Bool
  | .delivered index => ((state.broker.ready .main)[index]?).any (copyOf message)
  | .expired index _ => ((state.broker.ready .retry)[index]?).any (copyOf message)
  | .stepped tag _ _ => (state.tasks tag).any fun task => copyOf message task.message
  | _ => false

/-- Every delivery of the message is acknowledged, and it is not on its way to another. -/
def Settled (message : Message) (state : State Event) : Prop :=
  (∀ delivery ∈ state.broker.unacked, copyOf message delivery.message = false) ∧
    state.broker.waiting (copyOf message) .main = 0 ∧
      state.broker.waiting (copyOf message) .retry = 0

def deadLetters (message : Message) (state : State Event) : Nat :=
  state.broker.waiting (copyOf message) .dlq

def Consumer.exchange (consumer : Consumer Event) : Queue → String
  | .main => consumer.mainExchange
  | .retry => consumer.retryExchange
  | .dlq => consumer.dlxExchange

/-- The message is in the main queue once and not retried yet, and the three exchanges are
three. -/
structure Queued (consumer : Consumer Event) (message : Message) (ready : Queue → List Message) :
    Prop where
  once : (ready .main).countP (copyOf message) = 1
  elsewhere : ∀ queue, queue ≠ .main → (ready queue).countP (copyOf message) = 0
  uncounted : ∀ copy ∈ ready .main, copyOf message copy = true → consumer.retryCount copy = .ok 0
  distinct : Function.Injective consumer.exchange

/-- The handler runs up to its first success, or to the limit, and a message whose handler always
fails is dead-lettered once. -/
def Bounded (limit : Nat) (succeeds : Nat → Bool) (outcomes : List Bool) (deadLetters : Nat) :
    Prop :=
  outcomes.length = min ((List.range limit).findIdx succeeds + 1) limit ∧
    deadLetters = if ∀ index < limit, succeeds index = false then 1 else 0

/-- The outcomes are the first ones of the sequence. -/
def Follows (succeeds : Nat → Bool) (outcomes : List Bool) : Prop :=
  outcomes = (List.range outcomes.length).map succeeds

/-- A step of the message is possible. -/
def CanGoOn (consumer : Consumer Event) (message : Message) (state : State Event) : Prop :=
  ∃ move, concerns message state move = true ∧ Faultless message state move ∧
    Unhindered message state move ∧ ∃ after, step consumer move state = .ok (after, ())

/-- Where the message is on its way. -/
inductive Stage (Event : Type)
  | ready (failures : Nat)
  | running (failures tag : Nat) (point : Point Event)
  | retrying (failures : Nat)
  | buried (failures : Nat)
  | completed (failures : Nat)

def Stage.failures : Stage Event → Nat
  | .ready failures => failures
  | .running failures _ _ => failures
  | .retrying failures => failures
  | .buried failures => failures
  | .completed failures => failures

def Stage.queue : Stage Event → Option Queue
  | .ready _ => some .main
  | .retrying _ => some .retry
  | .buried _ => some .dlq
  | _ => none

def Stage.tag : Stage Event → Option Nat
  | .running _ tag _ => some tag
  | _ => none

/-- What a callback at this point adds to the outcomes of the earlier ones. -/
def Point.outcome : Point Event → List Bool
  | .marking => [true]
  | .acking => [true]
  | .publishingRetry _ => [false]
  | .publishingDead _ => [false]
  | _ => []

def Stage.outcomes : Stage Event → List Bool
  | .ready failures => List.replicate failures false
  | .running failures _ point => List.replicate failures false ++ point.outcome
  | .retrying failures => List.replicate failures false
  | .buried failures => List.replicate failures false ++ [false]
  | .completed failures => List.replicate failures false ++ [true]

/-- The steps that a callback and what follows it may take, where `retries` are left. -/
def Point.remaining (retries : Nat) : Point Event → Nat
  | .checking => 6 * retries + 3
  | .handling _ => 6 * retries + 2
  | .publishingRetry _ => 6 * retries + 1
  | .publishingDead _ => 6 * retries + 1
  | .marking => 1
  | _ => 0

/-- The steps that the message may still take, less one for each delivery that is out. -/
def Stage.remaining (maxRetries : Nat) : Stage Event → Nat
  | .ready failures => 6 * (maxRetries - failures) + 5
  | .running failures _ point => point.remaining (maxRetries - failures)
  | .retrying failures => 6 * (maxRetries - failures) + 6
  | _ => 0

/-- The points that a callback without faults gets to before it acknowledges a failure. -/
def Point.Apt (consumer : Consumer Event) (message : Message) (failures : Nat) :
    Point Event → Prop
  | .checking => True
  | .handling _ => True
  | .marking => True
  | .acking => True
  | .publishingRetry copy => copyOf message copy = true ∧
      consumer.retryCount copy = .ok ((failures : Int) + 1) ∧
      (failures : Int) + 1 ≤ consumer.maxRetries
  | .publishingDead copy => copyOf message copy = true ∧
      ¬ (failures : Int) + 1 ≤ consumer.maxRetries
  | _ => False

/-- The message is at the stage, and its other deliveries wait for nothing but their
acknowledgement. -/
structure Tracked (consumer : Consumer Event) (message : Message) (stage : Stage Event)
    (state : State Event) : Prop where
  waiting : ∀ queue, state.broker.waiting (copyOf message) queue =
    if stage.queue = some queue then 1 else 0
  counted : ∀ queue, stage.queue = some queue → queue ≠ .dlq →
    ∀ copy ∈ state.broker.ready queue, copyOf message copy = true →
      consumer.retryCount copy = .ok (stage.failures : Int)
  spent : ∀ failures, stage = .buried failures → ¬ (failures : Int) + 1 ≤ consumer.maxRetries
  bound : stage.failures ≤ consumer.maxRetries.toNat
  running : ∀ failures tag point, stage = .running failures tag point → ∃ copy,
    state.tasks tag = some ⟨copy, point⟩ ∧ copyOf message copy = true ∧
      consumer.retryCount copy = .ok (failures : Int) ∧ point.Apt consumer message failures
  others : ∀ tag, stage.tag ≠ some tag → ∀ task ∈ state.tasks tag,
    copyOf message task.message = true → task.point = .ackingFailed
  out : ∀ delivery ∈ state.broker.unacked, copyOf message delivery.message = true →
    ∃ task ∈ state.tasks delivery.tag, task.message = delivery.message
  held : ∀ tag, ∀ task ∈ state.tasks tag, copyOf message task.message = true →
    ∃ delivery ∈ state.broker.unacked, delivery.tag = tag ∧ delivery.message = task.message

/-- Every callback's points belong to its message, and the tags from the next one on are free. -/
structure Tidy (consumer : Consumer Event) (state : State Event) : Prop where
  fits : ∀ tag, ∀ task ∈ state.tasks tag, Fits consumer task.message task.point
  unused : ∀ tag, state.broker.nextTag ≤ tag → state.tasks tag = none

/-- A callback that is there after one was written. -/
theorem mem_update {tasks : Nat → Option (Task Event)} {changed tag : Nat}
    {next : Option (Task Event)} {task : Task Event}
    (there : task ∈ Function.update tasks changed next tag) :
    tag = changed ∧ task ∈ next ∨ tag ≠ changed ∧ task ∈ tasks tag := by
  by_cases same : tag = changed
  · subst same
    rw [Function.update_self] at there
    exact .inl ⟨rfl, there⟩
  · rw [Function.update_of_ne same] at there
    exact .inr ⟨same, there⟩

theorem Tidy.updated {before after : State Event} (tidy : Tidy consumer before) {changed : Nat}
    {next : Option (Task Event)} (tasks : after.tasks = Function.update before.tasks changed next)
    (fits : ∀ task ∈ next, Fits consumer task.message task.point)
    (grown : before.broker.nextTag ≤ after.broker.nextTag)
    (used : changed < after.broker.nextTag ∨ next = none) : Tidy consumer after := by
  constructor
  · intro tag task atTag
    rw [tasks] at atTag
    rcases mem_update atTag with ⟨_, isNext⟩ | ⟨_, there⟩
    · exact fits task isNext
    · exact tidy.fits tag task there
  · intro tag later
    rw [tasks]
    by_cases same : tag = changed
    · subst same
      rw [Function.update_self]
      exact used.resolve_left (Nat.not_lt.mpr later)
    · rw [Function.update_of_ne same]
      exact tidy.unused tag (Nat.le_trans grown later)

theorem step_tidy {before after : State Event} {move : Move} (tidy : Tidy consumer before)
    (accepted : step consumer move before = .ok (after, ())) : Tidy consumer after := by
  cases step_touched accepted with
  | nothing move tasks completed nextTag =>
    refine ⟨?_, ?_⟩
    · rw [tasks]
      exact tidy.fits
    · rw [tasks, nextTag]
      exact tidy.unused
  | opened index message tasks completed nextTag =>
    refine tidy.updated tasks ?_ (by omega) (.inl (by omega))
    intro task atTag
    obtain ⟨point, next, rfl⟩ := Option.map_eq_some_iff.mp atTag
    exact (processMessage_fits next).1
  | stepped stepTag answer lost task running tasks completed nextTag =>
    have used : stepTag < after.broker.nextTag := by
      by_contra beyond
      rw [nextTag, Nat.not_lt] at beyond
      rw [tidy.unused stepTag beyond] at running
      cases running
    refine tidy.updated tasks ?_ nextTag.ge (.inl used)
    intro other atTag
    obtain ⟨point, next, rfl⟩ := Option.map_eq_some_iff.mp atTag
    exact (resume_fits next).1
  | abandoned gone tasks completed nextTag =>
    refine tidy.updated tasks ?_ nextTag.ge (.inr rfl)
    intro task atTag
    cases atTag

/-- The deliveries of the message that are out. -/
def unsettled (message : Message) (state : State Event) : Nat :=
  state.broker.unacked.countP fun delivery => copyOf message delivery.message

theorem Tracked.quiet {message : Message} {stage : Stage Event} {before after : State Event}
    (tracked : Tracked consumer message stage before)
    (broker : Broker.Undisturbed (copyOf message) before.broker after.broker)
    (tasks : ∀ tag task, copyOf message task.message = true →
      (after.tasks tag = some task ↔ before.tasks tag = some task)) :
    Tracked consumer message stage after where
  waiting queue := (broker.waiting_eq queue).trans (tracked.waiting queue)
  counted := by
    intro queue here notDead copy inReady counted
    exact tracked.counted queue here notDead copy (broker.mem_ready inReady counted) counted
  spent := tracked.spent
  bound := tracked.bound
  running := by
    intro failures tag point same
    obtain ⟨copy, atTag, counted, rest⟩ := tracked.running failures tag point same
    exact ⟨copy, (tasks tag ⟨copy, point⟩ counted).mpr atTag, counted, rest⟩
  others := by
    intro tag notHere task atTag counted
    exact tracked.others tag notHere task ((tasks tag task counted).mp atTag) counted
  out := by
    intro delivery inUnacked counted
    obtain ⟨task, atTag, same⟩ :=
      tracked.out delivery ((broker.mem_unacked counted).mp inUnacked) counted
    exact ⟨task, (tasks _ task (same ▸ counted)).mpr atTag, same⟩
  held := by
    intro tag task atTag counted
    obtain ⟨delivery, inUnacked, tagged, same⟩ :=
      tracked.held tag task ((tasks tag task counted).mp atTag) counted
    exact ⟨delivery, (broker.mem_unacked (same ▸ counted)).mpr inUnacked, tagged, same⟩

/-- A tag whose callback is not the message's has no delivery of the message. -/
theorem Tracked.not_own {message : Message} {stage : Stage Event} {state : State Event}
    (tracked : Tracked consumer message stage state) {tag : Nat}
    (others : ∀ task ∈ state.tasks tag, copyOf message task.message = false) :
    ∀ delivery ∈ state.broker.unacked, delivery.tag = tag →
      copyOf message delivery.message = false := by
  rintro delivery inUnacked rfl
  by_contra counted
  rw [Bool.not_eq_false] at counted
  obtain ⟨task, atTag, same⟩ := tracked.out delivery inUnacked counted
  have other := others task atTag
  rw [same, counted] at other
  cases other

/-- A task that is not the message's may change into another such one. -/
theorem update_quiet {message : Message} {tasks : Nat → Option (Task Event)} {tag : Nat}
    {next : Option (Task Event)} (before : ∀ task ∈ tasks tag, copyOf message task.message = false)
    (after : ∀ task ∈ next, copyOf message task.message = false) :
    ∀ other task, copyOf message task.message = true →
      (Function.update tasks tag next other = some task ↔ tasks other = some task) := by
  intro other task counted
  by_cases same : other = tag
  · subst same
    rw [Function.update_self]
    constructor
    · intro isNext
      rw [after task isNext] at counted
      cases counted
    · intro isTask
      rw [before task isTask] at counted
      cases counted
  · rw [Function.update_of_ne same]

theorem perform_undisturbed {message : Message} {command : Command} {answer : Answer}
    {lost : Bool} {tag : Nat} {broker : Broker Queue Message}
    (copies : ∀ exchange copy, command = .publish exchange copy → copyOf message copy = false)
    (others : ∀ delivery ∈ broker.unacked, delivery.tag = tag →
      copyOf message delivery.message = false) :
    Broker.Undisturbed (copyOf message) broker
      (consumer.perform command answer lost tag broker) := by
  cases command with
  | nothing => exact Broker.undisturbed_refl broker
  | publish exchange copy =>
    simp only [Consumer.perform]
    split
    · exact Broker.undisturbed_refl broker
    · exact Broker.undisturbed_publish _ _ _ (copies exchange copy rfl) broker
  | ack =>
    simp only [Consumer.perform]
    split
    · exact Broker.undisturbed_refl broker
    · exact Broker.undisturbed_ack others
  | reject =>
    simp only [Consumer.perform]
    split
    · exact Broker.undisturbed_refl broker
    · exact Broker.undisturbed_requeue others

theorem copyOf_same {message copy other : Message} (same : copy.Same other) :
    copyOf message copy = copyOf message other := by
  unfold copyOf
  rw [same.1, same.2]

/-- A step that does not concern the message leaves it where it is. -/
theorem Tracked.elsewhere {message : Message} {stage : Stage Event} {before after : State Event}
    {move : Move} (tracked : Tracked consumer message stage before) (tidy : Tidy consumer before)
    (accepted : step consumer move before = .ok (after, ()))
    (faultless : Faultless message before move) (quiet : concerns message before move = false) :
    Tracked consumer message stage after ∧
      Broker.Undisturbed (copyOf message) before.broker after.broker := by
  suffices parts : Broker.Undisturbed (copyOf message) before.broker after.broker ∧
      ∀ tag task, copyOf message task.message = true →
        (after.tasks tag = some task ↔ before.tasks tag = some task) from
    ⟨tracked.quiet parts.1 parts.2, parts.1⟩
  cases move with
  | published exchange key other =>
    cases accepted
    exact ⟨Broker.undisturbed_publish _ _ _ faultless _, fun _ _ _ => Iff.rfl⟩
  | delivered index =>
    simp only [step] at accepted
    split at accepted
    · cases accepted
    · rename_i delivery broker delivered
      cases accepted
      have uncounted : copyOf message delivery.message = false := by
        unfold Broker.deliver at delivered
        split at delivered
        · cases delivered
        · rename_i taken found
          cases delivered
          simpa [concerns, found] using quiet
      refine ⟨Broker.undisturbed_deliver delivered uncounted, ?_⟩
      apply update_quiet
      · intro task atTag
        rw [(Broker.deliver_ok delivered).1, tidy.unused _ (Nat.le_refl _)] at atTag
        cases atTag
      · intro task next
        obtain ⟨point, _, rfl⟩ := Option.map_eq_some_iff.mp next
        exact uncounted
  | expired index death =>
    simp only [step] at accepted
    split at accepted
    · cases accepted
    · rename_i broker expired
      cases accepted
      refine ⟨Broker.undisturbed_deadLetter expired ?_, fun _ _ _ => Iff.rfl⟩
      intro moved found
      have uncounted : copyOf message moved = false := by
        simpa [concerns, found] using quiet
      exact ⟨uncounted, uncounted⟩
  | givenBack tag =>
    cases accepted
    exact ⟨Broker.undisturbed_requeue (tracked.not_own faultless), fun _ _ _ => Iff.rfl⟩
  | stepped tag answer lost =>
    simp only [step] at accepted
    split at accepted
    · cases accepted
    · rename_i task running
      cases accepted
      have uncounted : copyOf message task.message = false := by
        simpa [concerns, running] using quiet
      have own : ∀ other ∈ before.tasks tag, copyOf message other.message = false := by
        intro other atTag
        rw [running] at atTag
        cases atTag
        exact uncounted
      refine ⟨perform_undisturbed ?_ (tracked.not_own own), update_quiet own ?_⟩
      · intro exchange copy published
        rw [copyOf_same ((tidy.fits tag task running).copied exchange copy published)]
        exact uncounted
      · intro other next
        obtain ⟨point, _, rfl⟩ := Option.map_eq_some_iff.mp next
        exact uncounted
  | abandoned tag =>
    cases accepted
    refine ⟨Broker.undisturbed_refl _, update_quiet faultless ?_⟩
    intro task absent
    cases absent

/-- With three exchanges, a copy reaches the queue it is meant for and no other. -/
theorem reaches_iff (distinct : Function.Injective consumer.exchange) (source target : Queue) :
    reaches consumer.declareQueue (consumer.exchange source) consumer.routingKey target = true ↔
      source = target := by
  constructor
  · intro reached
    obtain ⟨binding, member, matched⟩ := List.any_eq_true.mp reached
    simp only [Bool.and_eq_true, decide_eq_true_eq] at matched
    obtain ⟨⟨rfl, exchange⟩, _⟩ := matched
    apply distinct
    simp only [Consumer.declareQueue, List.mem_cons, List.not_mem_nil, or_false] at member
    rcases member with rfl | rfl | rfl <;> exact exchange.symm
  · rintro rfl
    cases source
    · exact reaches_main consumer
    · exact reaches_retry consumer
    · exact reaches_dlq consumer

theorem publish_waiting (distinct : Function.Injective consumer.exchange) {message copy : Message}
    (own : copyOf message copy = true) (source : Queue) (broker : Broker Queue Message)
    (queue : Queue) :
    (broker.publish consumer.declareQueue (consumer.exchange source) consumer.routingKey
      copy).waiting (copyOf message) queue =
        broker.waiting (copyOf message) queue + if source = queue then 1 else 0 := by
  rw [Broker.waiting_publish]
  simp only [reaches_iff distinct, own, and_true]

theorem mem_publish {exchange key : String} {bindings : List (Binding Queue)}
    {broker : Broker Queue Message} {queue : Queue} {copy other : Message}
    (member : other ∈ (broker.publish bindings exchange key copy).ready queue) :
    other = copy ∨ other ∈ broker.ready queue := by
  unfold Broker.publish at member
  dsimp only at member
  split at member
  · rcases List.mem_append.mp member with before | last
    · exact .inr before
    · exact .inl (List.mem_singleton.mp last)
  · exact .inr member

theorem not_copyOf_of_waiting {message copy : Message} {broker : Broker Queue Message}
    {queue : Queue} (none_ : broker.waiting (copyOf message) queue = 0)
    (member : copy ∈ broker.ready queue) : copyOf message copy = false := by
  have absent := List.countP_eq_zero.mp none_ copy member
  rwa [Bool.not_eq_true] at absent

/-- The step takes the message to another stage and uses up some of what remains. -/
def Advances (consumer : Consumer Event) (message : Message) (stage : Stage Event)
    (before after : State Event) (handled : Option Bool) : Prop :=
  ∃ next : Stage Event, Tracked consumer message next after ∧
    next.outcomes = stage.outcomes ++ handled.toList ∧
      next.remaining consumer.maxRetries.toNat + unsettled message after <
        stage.remaining consumer.maxRetries.toNat + unsettled message before

theorem handleFailure_apt {message copy : Message} (own : copyOf message copy = true)
    {failures : Nat} (counted : consumer.retryCount copy = .ok (failures : Int)) (error : String) :
    ∃ next, consumer.handleFailure copy error = some next ∧
      next.Apt consumer message failures ∧ next.outcome = [false] ∧
        ∀ retries, next.remaining retries = 6 * retries + 1 := by
  unfold Consumer.handleFailure
  rw [counted]
  dsimp only
  have same := copyOf_iff.mp own
  split
  · rename_i within
    refine ⟨_, rfl, ⟨?_, ?_, within⟩, rfl, fun _ => rfl⟩
    · exact copyOf_iff.mpr ⟨same.1, same.2⟩
    · unfold Consumer.retryCount
      rw [Headers.get_set]
  · rename_i beyond
    refine ⟨_, rfl, ⟨?_, beyond⟩, rfl, fun _ => rfl⟩
    exact copyOf_iff.mpr ⟨same.1, same.2⟩

theorem decodeBody_event {message copy : Message} (own : copyOf message copy = true)
    {event : Event} (decodes : consumer.decode message.body = .event event) :
    consumer.decodeBody copy = some (.handling event) := by
  unfold Consumer.decodeBody
  rw [(copyOf_iff.mp own).1, decodes]

/-- A callback starts with the check, or with the handler. -/
theorem processMessage_apt {message copy : Message} (own : copyOf message copy = true)
    {event : Event} (decodes : consumer.decode message.body = .event event) (failures : Nat) :
    ∃ point, consumer.processMessage copy = some point ∧ point.Apt consumer message failures ∧
      point.outcome = [] ∧ ∀ retries, point.remaining retries ≤ 6 * retries + 3 := by
  unfold Consumer.processMessage
  split
  · exact ⟨.checking, rfl, trivial, rfl, fun _ => Nat.le_refl _⟩
  · exact ⟨.handling event, decodeBody_event own decodes, trivial, rfl, fun _ => Nat.le_succ _⟩

/-- Up to the publish or the acknowledgement a callback comes closer to it with every step. -/
theorem resume_apt {message copy : Message} (own : copyOf message copy = true) {failures : Nat}
    (counted : consumer.retryCount copy = .ok (failures : Int)) {event : Event}
    (decodes : consumer.decode message.body = .event event) {point : Point Event}
    (apt : point.Apt consumer message failures) (quiet : consumer.command point = .nothing)
    {answer : Answer} (unhindered : point.unhindered answer) :
    ∃ next, consumer.resume copy point answer = some next ∧
      next.Apt consumer message failures ∧
        next.outcome = point.outcome ++ (point.handled answer).toList ∧
          ∀ retries, next.remaining retries < point.remaining retries := by
  cases point with
  | checking =>
    cases unhindered
    refine ⟨.handling event, decodeBody_event own decodes, trivial, rfl, ?_⟩
    exact fun _ => Nat.lt_succ_self _
  | handling handledEvent =>
    cases answer with
    | returned value =>
      simp only [Consumer.resume]
      split
      · exact ⟨.marking, rfl, trivial, rfl, fun retries => by simp [Point.remaining]⟩
      · exact ⟨.acking, rfl, trivial, rfl, fun retries => by simp [Point.remaining]⟩
    | raised error =>
      obtain ⟨next, fails, nextApt, outcome, remaining⟩ := handleFailure_apt own counted error
      refine ⟨next, fails, nextApt, outcome, ?_⟩
      intro retries
      rw [remaining]
      exact Nat.lt_succ_self _
  | marking =>
    obtain ⟨value, rfl⟩ := unhindered
    exact ⟨.acking, rfl, trivial, rfl, fun _ => Nat.lt_succ_self 0⟩
  | acking => cases quiet
  | publishingRetry copy => cases quiet
  | publishingDead copy => cases quiet
  | skipping => exact apt.elim
  | publishingPoison copy => exact apt.elim
  | ackingPoison => exact apt.elim
  | rejectingPoison => exact apt.elim
  | ackingFailed => exact apt.elim
  | rejectingFailed => exact apt.elim

end BigX.Messaging
