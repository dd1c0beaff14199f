import BigX.Json.RoundTrip
import BigX.Messaging.Consumer

set_option autoImplicit false

/- What a handler is given is what was published. A retry and a dead letter change the headers
of a message and nothing else, and the body of an event is JSON that reads back. -/
namespace BigX.Messaging

open Amqp Json

section Publisher

variable {F : Type} (floats : Floats F)

/-- The arguments of `publish`, and what it makes up: two ids and the time. -/
structure Publication (F : Type) where
  eventType : String
  payload : List (List Nat × Value F)
  correlationId : Option String
  eventId : String
  freshId : String
  timestamp : String

def points (text : String) : List Nat := text.toList.map Char.toNat

/-- `correlation_id or str(uuid.uuid4())` -/
def Publication.correlation (publication : Publication F) : String :=
  (publication.correlationId.filter fun id => id ≠ "").getD publication.freshId

def Publication.createEvent (publication : Publication F) : Value F :=
  .dict [(points "event_id", .string (points publication.eventId)),
    (points "event_type", .string (points publication.eventType)),
    (points "correlation_id", .string (points publication.correlation)),
    (points "event_version", .string (points "1.0")),
    (points "timestamp", .string (points publication.timestamp)),
    (points "payload", .dict publication.payload)]

/-- `json.dumps(event).encode()` -/
def encodeBody (event : Value F) : List UInt8 :=
  (event.dumps floats .default).flatMap String.utf8EncodeChar

def Publication.publish (publication : Publication F) : Message where
  body := encodeBody floats publication.createEvent
  contentType := some "application/json"
  messageId := some publication.eventId
  correlationId := some publication.correlation
  headers := [("event_type", .text publication.eventType), ("retry_count", .int 0)]

/-- `json.loads(body.decode())`; `describe` is the text of a `JSONDecodeError`. -/
def decodeBody (describe : Text → String) (body : List UInt8) : Decoded (Value F) :=
  match body.toByteArray.utf8Decode? with
  | none => .raised "'utf-8' codec can't decode bytes"
  | some text =>
      match loads floats text.toList with
      | some event => .event event
      | none => .malformed (describe text.toList)

variable {floats}

theorem createEvent_representable {publication : Publication F}
    (payload : (Value.dict publication.payload).Representable floats) :
    publication.createEvent.Representable floats := by
  refine ⟨?_, ?_⟩
  · show (["event_id", "event_type", "correlation_id", "event_version", "timestamp",
      "payload"].map points).Nodup
    decide +kernel
  · exact ⟨encodable_text _, encodable_text _, encodable_text _, encodable_text _,
      encodable_text _, encodable_text _, encodable_text _, encodable_text _, encodable_text _,
      encodable_text _, encodable_text _, payload, trivial⟩

theorem decodeBody_encodeBody (lawful : floats.Lawful) (describe : Text → String)
    {event : Value F} (representable : event.Representable floats) :
    decodeBody floats describe (encodeBody floats event) = .event event := by
  have whole : (encodeBody floats event).toByteArray.utf8Decode? =
      some (event.dumps floats .default).toArray := List.utf8Decode?_utf8Encode
  unfold decodeBody
  rw [whole]
  dsimp only
  rw [loads_dumps .default lawful Separators.default_plain event representable]

end Publisher

section Copies

variable {Event : Type} {consumer : Consumer Event}

/-- The same message but for its headers and the default of its content type. -/
def Message.Kin (copy message : Message) : Prop :=
  copy.body = message.body ∧ copy.messageId = message.messageId ∧
    copy.correlationId = message.correlationId

theorem Message.Kin.trans {first second third : Message} (nearer : first.Kin second)
    (farther : second.Kin third) : first.Kin third :=
  ⟨nearer.1.trans farther.1, nearer.2.1.trans farther.2.1, nearer.2.2.trans farther.2.2⟩

/-- A point belongs to its message: what it publishes is a copy, the event it handles is in the
body, and it is a poison message only if the body is malformed. -/
def Fitting (consumer : Consumer Event) (message : Message) : Point Event → Prop
  | .handling event => consumer.decode message.body = .event event
  | .publishingRetry copy => copy.Kin message
  | .publishingDead copy => copy.Kin message
  | .publishingPoison copy => copy.Kin message ∧
      ∃ error, consumer.decode message.body = .malformed error
  | _ => True

theorem handleFailure_fitting {message : Message} {error : String} {point : Point Event}
    (next : consumer.handleFailure message error = some point) :
    Fitting consumer message point := by
  unfold Consumer.handleFailure at next
  split at next
  · cases next
  · dsimp only at next
    split at next
    · cases next
      exact ⟨rfl, rfl, rfl⟩
    · cases next
      exact ⟨rfl, rfl, rfl⟩

theorem decodeBody_fitting {message : Message} {point : Point Event}
    (next : consumer.decodeBody message = some point) : Fitting consumer message point := by
  unfold Consumer.decodeBody at next
  split at next
  next event decoded =>
    cases next
    exact decoded
  next error malformed =>
    cases next
    exact ⟨⟨rfl, rfl, rfl⟩, error, malformed⟩
  next => exact handleFailure_fitting next

theorem processMessage_fitting {message : Message} {point : Point Event}
    (next : consumer.processMessage message = some point) : Fitting consumer message point := by
  unfold Consumer.processMessage at next
  split at next
  · cases next
    trivial
  · exact decodeBody_fitting next

theorem resume_fitting {message : Message} {point next : Point Event} {answer : Answer}
    (resumed : consumer.resume message point answer = some next) :
    Fitting consumer message next := by
  cases answer with
  | raised error =>
    cases point with
    | checking | skipping | rejectingPoison | handling | marking | acking =>
      exact handleFailure_fitting resumed
    | publishingPoison | ackingPoison | publishingRetry | publishingDead | ackingFailed =>
      cases resumed
      trivial
    | rejectingFailed => cases resumed
  | returned value =>
    cases point with
    | checking =>
      cases value with
      | false => exact decodeBody_fitting resumed
      | true =>
        cases resumed
        trivial
    | skipping | ackingPoison | rejectingPoison | acking | ackingFailed | rejectingFailed =>
      cases resumed
    | publishingPoison | publishingRetry | publishingDead | marking =>
      cases resumed
      trivial
    | handling event =>
      simp only [Consumer.resume] at resumed
      split at resumed <;> cases resumed <;> trivial

/-- What a point publishes is a copy of its message. -/
theorem command_kin {message copy : Message} {point : Point Event} {exchange : String}
    (fitting : Fitting consumer message point)
    (publishes : consumer.command point = .publish exchange copy) : copy.Kin message := by
  cases point <;> cases publishes
  · exact fitting.1
  · exact fitting
  · exact fitting

end Copies

section Brokers

variable {κ μ : Type} [DecidableEq κ]

/-- All messages that a broker has, ready and delivered. -/
def HasOnly (good : μ → Prop) (broker : Broker κ μ) : Prop :=
  (∀ queue, ∀ message ∈ broker.ready queue, good message) ∧
    ∀ delivery ∈ broker.unacked, good delivery.message

variable {good : μ → Prop} {broker after : Broker κ μ}

theorem HasOnly.publish (only : HasOnly good broker) (bindings : List (Binding κ))
    (exchange key : String) {message : μ} (held : good message) :
    HasOnly good (broker.publish bindings exchange key message) := by
  refine ⟨?_, only.2⟩
  intro queue other member
  unfold Broker.publish at member
  dsimp only at member
  split at member
  · rcases List.mem_append.mp member with before | last
    · exact only.1 queue other before
    · rw [List.mem_singleton.mp last]
      exact held
  · exact only.1 queue other member

theorem HasOnly.remove (only : HasOnly good broker) (queue : κ) (index : Nat) :
    HasOnly good (broker.remove queue index) := by
  refine ⟨?_, only.2⟩
  intro other message member
  unfold Broker.remove at member
  by_cases same : other = queue
  · subst same
    simp only [Function.update_self] at member
    exact only.1 other message (List.mem_of_mem_eraseIdx member)
  · simp only [Function.update_of_ne same] at member
    exact only.1 other message member

theorem HasOnly.deliver (only : HasOnly good broker) {queue : κ} {index : Nat}
    {delivery : Delivery κ μ} (delivered : broker.deliver queue index = some (delivery, after)) :
    HasOnly good after ∧ good delivery.message := by
  unfold Broker.deliver at delivered
  split at delivered
  · cases delivered
  · rename_i message found
    have held : good message := only.1 queue message (List.mem_of_getElem? found)
    cases delivered
    refine ⟨⟨(only.remove queue index).1, ?_⟩, held⟩
    intro other member
    rcases List.mem_cons.mp member with rfl | earlier
    · exact held
    · exact only.2 other earlier

omit [DecidableEq κ] in
theorem HasOnly.ack (only : HasOnly good broker) (tag : Nat) : HasOnly good (broker.ack tag) :=
  ⟨only.1, fun delivery member => only.2 delivery (List.mem_of_mem_filter member)⟩

theorem HasOnly.requeue (only : HasOnly good broker) (tag : Nat) :
    HasOnly good (broker.requeue tag) := by
  refine ⟨?_, (only.ack tag).2⟩
  intro queue message member
  rcases List.mem_append.mp member with back | before
  · obtain ⟨delivery, out, rfl⟩ := List.mem_map.mp back
    exact only.2 delivery (List.mem_of_mem_filter out)
  · exact only.1 queue message before

theorem HasOnly.deadLetter (only : HasOnly good broker) {bindings : List (Binding κ)}
    {exchange key : String} {stamp : μ → μ} {queue : κ} {index : Nat}
    (stamped : ∀ message, good message → good (stamp message))
    (expired : broker.deadLetter bindings exchange key stamp queue index = some after) :
    HasOnly good after := by
  obtain ⟨message, found, rfl⟩ := Option.map_eq_some_iff.mp expired
  have held : good message := only.1 queue message (List.mem_of_getElem? found)
  exact (only.remove queue index).publish bindings exchange key (stamped message held)

end Brokers

section Runs

variable {Event : Type} {consumer : Consumer Event} {good : Message → Prop}
  {before after : State Event}

/-- All messages are `good`, and every callback is at a point of its own message. -/
structure Sound (consumer : Consumer Event) (good : Message → Prop) (state : State Event) :
    Prop where
  broker : HasOnly good state.broker
  running : ∀ tag task, state.tasks tag = some task →
    good task.message ∧ Fitting consumer task.message task.point

theorem Sound.perform (sound : Sound consumer good before) {tag : Nat} {task : Task Event}
    (running : before.tasks tag = some task)
    (closed : ∀ copy message : Message, copy.Kin message → good message → good copy)
    (answer : Answer) (lost : Bool) :
    HasOnly good
      (consumer.perform (consumer.command task.point) answer lost tag before.broker) := by
  obtain ⟨held, fitting⟩ := sound.running tag task running
  cases command : consumer.command task.point with
  | nothing => exact sound.broker
  | publish exchange copy =>
    have published := closed copy task.message (command_kin fitting command) held
    simp only [Consumer.perform]
    split
    · exact sound.broker
    · exact sound.broker.publish _ _ _ published
  | ack =>
    simp only [Consumer.perform]
    split
    · exact sound.broker
    · exact sound.broker.ack tag
  | reject =>
    simp only [Consumer.perform]
    split
    · exact sound.broker
    · exact sound.broker.requeue tag

/-- A callback goes on to a point of its message, or ends. -/
theorem Sound.update (sound : Sound consumer good before) (tag : Nat) {message : Message}
    (held : good message) {next : Option (Point Event)}
    (fitting : ∀ point, next = some point → Fitting consumer message point) :
    ∀ other task, Function.update before.tasks tag (next.map (Task.mk message)) other = some task →
      good task.message ∧ Fitting consumer task.message task.point := by
  intro other task found
  by_cases same : other = tag
  · rw [same, Function.update_self] at found
    obtain ⟨point, reached, rfl⟩ := Option.map_eq_some_iff.mp found
    exact ⟨held, fitting point reached⟩
  · rw [Function.update_of_ne same] at found
    exact sound.running other task found

theorem step_sound {move : Move} (sound : Sound consumer good before)
    (closed : ∀ copy message : Message, copy.Kin message → good message → good copy)
    (published : ∀ exchange key message, move = .published exchange key message → good message)
    (accepted : step consumer move before = .ok (after, ())) : Sound consumer good after := by
  cases move with
  | published exchange key message =>
    cases accepted
    exact ⟨sound.broker.publish _ _ _ (published exchange key message rfl), sound.running⟩
  | delivered index =>
    simp only [step] at accepted
    split at accepted
    · cases accepted
    · rename_i delivery broker delivered
      cases accepted
      obtain ⟨only, held⟩ := sound.broker.deliver delivered
      exact ⟨only, sound.update delivery.tag held fun point reached =>
        processMessage_fitting reached⟩
  | expired index death =>
    simp only [step] at accepted
    split at accepted
    · cases accepted
    · rename_i broker expired
      cases accepted
      refine ⟨sound.broker.deadLetter ?_ expired, sound.running⟩
      intro message held
      exact closed _ message ⟨rfl, rfl, rfl⟩ held
  | givenBack tag =>
    cases accepted
    exact ⟨sound.broker.requeue tag, sound.running⟩
  | stepped tag answer lost =>
    simp only [step] at accepted
    split at accepted
    · cases accepted
    · rename_i task running
      cases accepted
      exact ⟨sound.perform running closed answer lost,
        sound.update tag (sound.running tag task running).1 fun point reached =>
          resume_fitting reached⟩
  | abandoned tag =>
    cases accepted
    refine ⟨sound.broker, ?_⟩
    intro other task found
    dsimp only at found
    by_cases same : other = tag
    · rw [same, Function.update_self] at found
      cases found
    · rw [Function.update_of_ne same] at found
      exact sound.running other task found

end Runs

section Events

variable {F : Type} {floats : Floats F}

/-- The message is one of these, on its way. -/
def Published (floats : Floats F) (published : List (Publication F)) (message : Message) : Prop :=
  ∃ publication ∈ published, message.Kin (publication.publish floats)

/-- Through retries, dead letters, failures and redeliveries in any order, a handler is given
events that were published, under their own ids, and no event is taken for a poison message. -/
theorem handled_as_published (lawful : floats.Lawful) (describe : Text → String)
    (consumer : Consumer (Value F)) (decodes : consumer.decode = decodeBody floats describe)
    (published : List (Publication F))
    (representable : ∀ publication ∈ published,
      (Value.dict publication.payload).Representable floats)
    (ready : Queue → List Message)
    (queued : ∀ queue, ∀ message ∈ ready queue, Published floats published message)
    (moves : List Move)
    (own : ∀ exchange key message, .published exchange key message ∈ moves →
      ∃ publication ∈ published, message = publication.publish floats) :
    (∀ queue, ∀ message ∈ (history consumer ready moves).now.broker.ready queue,
      Published floats published message) ∧
    ∀ tag task, (history consumer ready moves).now.tasks tag = some task →
      (∀ copy, task.point ≠ .publishingPoison copy) ∧
      ∀ event, task.point = .handling event → ∃ publication ∈ published,
        event = publication.createEvent ∧
        task.message.messageId = some publication.eventId ∧
        task.message.correlationId = some publication.correlation := by
  have meets := Run.meets_of_inputs (step consumer) (State.begin_ ready)
    (fun _ move => ∀ exchange key message, move = .published exchange key message →
      Published floats published message) moves (by
      intro move member _ exchange key message same
      obtain ⟨publication, known, rfl⟩ := own exchange key message (same ▸ member)
      exact ⟨publication, known, rfl, rfl, rfl⟩)
  have sound : Sound consumer (Published floats published) (history consumer ready moves).now := by
    apply Run.run_of_meets (step consumer) (State.begin_ ready)
      (fun _ now => Sound consumer (Published floats published) now) _ ?_ ?_ moves meets
    · refine ⟨⟨queued, ?_⟩, ?_⟩
      · intro delivery member
        cases member
      · intro tag task running
        cases running
    · intro past now move after output sound own accepted
      refine step_sound sound ?_ own accepted
      rintro copy message kin ⟨publication, known, same⟩
      exact ⟨publication, known, kin.trans same⟩
  refine ⟨sound.broker.1, ?_⟩
  intro tag task running
  obtain ⟨⟨publication, known, body, messageId, correlationId⟩, fitting⟩ :=
    sound.running tag task running
  have decoded : consumer.decode task.message.body = .event publication.createEvent := by
    rw [decodes, body]
    exact decodeBody_encodeBody lawful describe
      (createEvent_representable (representable publication known))
  constructor
  · intro copy poison
    rw [poison] at fitting
    obtain ⟨-, error, malformed⟩ := fitting
    rw [decoded] at malformed
    cases malformed
  · intro event handling
    rw [handling] at fitting
    have same : publication.createEvent = event := by
      have both := decoded.symm.trans fitting
      exact Decoded.event.inj both
    exact ⟨publication, known, same.symm, messageId, correlationId⟩

end Events

section Sample

def unreadable (_ : Text) : String := "Expecting value: line 1 column 1 (char 0)"

def payments : Consumer (Value Text) :=
  { mainExchange := "agentic.events"
    retryExchange := "agentic.retry"
    dlxExchange := "agentic.dlx"
    maxRetries := 3
    routingKey := "payment.*"
    isProcessed := true
    markProcessed := true
    decode := decodeBody Floats.literal unreadable
    coerce := fun _ => .error "invalid literal for int()" }

def payment : Publication Text :=
  { eventType := "payment.made"
    payload := [(points "amount", .int 7)]
    correlationId := none
    eventId := "event-1"
    freshId := "correlation-1"
    timestamp := "2025-01-01T00:00:00+00:00" }

/-- The handler fails, and the retry is handled while the first delivery is given back. -/
def retriedPayment : List Move :=
  [.published "agentic.events" "payment.made" (payment.publish Floats.literal), .delivered 0,
    .stepped 0 (.returned false) false, .stepped 0 (.raised "timeout") false,
    .stepped 0 (.returned false) false, .givenBack 0, .expired 0 [], .delivered 0,
    .stepped 1 (.returned false) false, .delivered 0, .stepped 2 (.returned false) false]

theorem handled_as_published_retried :
    (∀ queue, ∀ message ∈ (history payments (fun _ => []) retriedPayment).now.broker.ready queue,
      Published Floats.literal [payment] message) ∧
    ∀ tag task, (history payments (fun _ => []) retriedPayment).now.tasks tag = some task →
      ∀ event, task.point = .handling event →
        event = payment.createEvent ∧ task.message.messageId = some "event-1" := by
  have small : (Value.dict payment.payload).Representable Floats.literal :=
    ⟨by simp [payment], encodable_text _, trivial, trivial⟩
  obtain ⟨queued, running⟩ := handled_as_published Floats.literal_lawful unreadable
    payments rfl [payment]
    (by
      intro publication known
      rw [List.mem_singleton.mp known]
      exact small)
    (fun _ => []) (by
      intro queue message member
      cases member) retriedPayment (by
      intro exchange key message member
      simp only [retriedPayment, List.mem_cons, List.not_mem_nil, reduceCtorEq, or_false,
        Move.published.injEq] at member
      exact ⟨payment, List.mem_singleton_self payment, member.2.2⟩)
  refine ⟨queued, ?_⟩
  intro tag task found event handling
  obtain ⟨-, events⟩ := running tag task found
  obtain ⟨publication, known, same, messageId, -⟩ := events event handling
  rw [List.mem_singleton.mp known] at same messageId
  exact ⟨same, messageId⟩

end Sample

end BigX.Messaging
