import BigX.Amqp.Broker
import BigX.Run.Trace

set_option autoImplicit false

/- The consumer wrapper over three queues: its own, one for retries that lead back to it,
and one for messages that are given up. Every `await` is a point where other deliveries,
the broker and the network go on. -/
namespace BigX.Messaging

open Amqp

inductive HeaderValue
  | int (value : Int)
  | text (value : String)
  | other (shown : String)
  deriving DecidableEq

abbrev Headers : Type := List (String × HeaderValue)

/-- `headers.get(key)` -/
def Headers.get (headers : Headers) (key : String) : Option HeaderValue :=
  (headers.find? fun field => field.1 = key).map Prod.snd

/-- `headers[key] = value` -/
def Headers.set (headers : Headers) (key : String) (value : HeaderValue) : Headers :=
  if headers.any fun field => field.1 = key then
    headers.map fun field => if field.1 = key then (key, value) else field
  else headers ++ [(key, value)]

structure Message where
  body : List UInt8
  contentType : Option String
  messageId : Option String
  correlationId : Option String
  headers : Headers
  deriving DecidableEq

/-- `event_id`, where it is not empty. -/
def Message.eventId (message : Message) : Option String :=
  message.messageId.filter fun id => id ≠ ""

/-- `message.content_type or "application/json"` -/
def Message.contentTypeOrJson (message : Message) : String :=
  (message.contentType.filter fun contentType => contentType ≠ "").getD "application/json"

/-- What `json.loads(body.decode())` does; only a `JSONDecodeError` makes a message malformed. -/
inductive Decoded (Event : Type)
  | event (event : Event)
  | malformed (error : String)
  | raised (error : String)

/-- The settings, the arguments of `consume`, and the two conversions: of a body, and of a
header that is not a number. -/
structure Consumer (Event : Type) where
  mainExchange : String
  retryExchange : String
  dlxExchange : String
  maxRetries : Int
  routingKey : String
  isProcessed : Bool
  markProcessed : Bool
  decode : List UInt8 → Decoded Event
  coerce : HeaderValue → Except String Int

inductive Queue
  | main
  | retry
  | dlq
  deriving DecidableEq

variable {Event : Type}

/-- The bindings of `declare_queue`. -/
def Consumer.declareQueue (consumer : Consumer Event) : List (Binding Queue) :=
  [⟨consumer.mainExchange, consumer.routingKey, .main⟩,
   ⟨consumer.retryExchange, consumer.routingKey, .retry⟩,
   ⟨consumer.dlxExchange, consumer.routingKey, .dlq⟩]

/-- What a delivery's callback is waiting for. -/
inductive Point (Event : Type)
  | checking
  | skipping
  | publishingPoison (copy : Message)
  | ackingPoison
  | rejectingPoison
  | handling (event : Event)
  | marking
  | acking
  | publishingRetry (copy : Message)
  | publishingDead (copy : Message)
  | ackingFailed
  | rejectingFailed

/-- `int(headers.get("retry_count", 0))` -/
def Consumer.retryCount (consumer : Consumer Event) (message : Message) : Except String Int :=
  match message.headers.get "retry_count" with
  | none => .ok 0
  | some (.int count) => .ok count
  | some value => consumer.coerce value

/-- `_handle_failure` up to its publish; nothing is left to do when the count is no number. -/
def Consumer.handleFailure (consumer : Consumer Event) (message : Message) (error : String) :
    Option (Point Event) :=
  match consumer.retryCount message with
  | .error _ => none
  | .ok retryCount =>
      let nextRetry := retryCount + 1
      let headers := message.headers.set "retry_count" (.int nextRetry)
      let copy : Message :=
        { message with contentType := some message.contentTypeOrJson, headers := headers }
      if nextRetry ≤ consumer.maxRetries then some (.publishingRetry copy)
      else some (.publishingDead { copy with
        headers := headers.set "failure_reason" (.text ("Max retries exceeded: " ++ error)) })

/-- The copy of `_route_to_dlq_explicitly`. -/
def Message.poison (message : Message) (reason : String) : Message :=
  { message with
    contentType := some message.contentTypeOrJson
    headers := message.headers.set "failure_reason" (.text reason) }

/-- From the decoding of the body on. -/
def Consumer.decodeBody (consumer : Consumer Event) (message : Message) : Option (Point Event) :=
  match consumer.decode message.body with
  | .event event => some (.handling event)
  | .malformed error => some (.publishingPoison (message.poison ("Malformed JSON: " ++ error)))
  | .raised error => consumer.handleFailure message error

/-- `process_message` up to its first `await`. -/
def Consumer.processMessage (consumer : Consumer Event) (message : Message) :
    Option (Point Event) :=
  if message.eventId.isSome ∧ consumer.isProcessed = true then some .checking
  else consumer.decodeBody message

/-- How an awaited call ends. Only the idempotency check looks at the value. -/
inductive Answer
  | returned (value : Bool)
  | raised (error : String)
  deriving DecidableEq

/-- `process_message` after an `await`, up to the next; `none` at its end, or when an
exception leaves it. -/
def Consumer.resume (consumer : Consumer Event) (message : Message) :
    Point Event → Answer → Option (Point Event)
  | .checking, .returned true => some .skipping
  | .checking, .returned false => consumer.decodeBody message
  | .skipping, .returned _ => none
  | .publishingPoison _, .returned _ => some .ackingPoison
  | .publishingPoison _, .raised _ => some .rejectingPoison
  | .ackingPoison, .returned _ => none
  | .ackingPoison, .raised _ => some .rejectingPoison
  | .rejectingPoison, .returned _ => none
  | .handling _, .returned _ =>
      if message.eventId.isSome ∧ consumer.markProcessed = true then some .marking
      else some .acking
  | .marking, .returned _ => some .acking
  | .acking, .returned _ => none
  | .publishingRetry _, .returned _ => some .ackingFailed
  | .publishingRetry _, .raised _ => some .rejectingFailed
  | .publishingDead _, .returned _ => some .ackingFailed
  | .publishingDead _, .raised _ => some .rejectingFailed
  | .ackingFailed, .returned _ => none
  | .ackingFailed, .raised _ => some .rejectingFailed
  | .rejectingFailed, _ => none
  | _, .raised error => consumer.handleFailure message error

/-- What a point asks the broker to do. -/
inductive Command
  | nothing
  | publish (exchange : String) (copy : Message)
  | ack
  | reject

def Consumer.command (consumer : Consumer Event) : Point Event → Command
  | .publishingPoison copy => .publish consumer.dlxExchange copy
  | .publishingRetry copy => .publish consumer.retryExchange copy
  | .publishingDead copy => .publish consumer.dlxExchange copy
  | .skipping => .ack
  | .ackingPoison => .ack
  | .acking => .ack
  | .ackingFailed => .ack
  | .rejectingPoison => .reject
  | .rejectingFailed => .reject
  | .checking => .nothing
  | .handling _ => .nothing
  | .marking => .nothing

/-- The broker carries a command out, or `lost` it. A publish that returns was confirmed. -/
def Consumer.perform (consumer : Consumer Event) (command : Command) (answer : Answer)
    (lost : Bool) (tag : Nat) (broker : Broker Queue Message) : Broker Queue Message :=
  match command with
  | .nothing => broker
  | .publish exchange copy =>
      match answer, lost with
      | .raised _, true => broker
      | _, _ => broker.publish consumer.declareQueue exchange consumer.routingKey copy
  | .ack => if lost then broker else broker.ack tag
  | .reject => if lost then broker else broker.requeue tag

/-- A delivery's callback under way. -/
structure Task (Event : Type) where
  message : Message
  point : Point Event

/-- The broker, the callbacks by delivery tag, and the messages that the handler completed. -/
structure State (Event : Type) where
  broker : Broker Queue Message
  tasks : Nat → Option (Task Event)
  completed : List Message

def State.begin_ (ready : Queue → List Message) : State Event :=
  ⟨.holding ready, fun _ => none, []⟩

/-- Anybody publishes; the broker delivers, lets a retry expire, or takes a delivery back
from a channel that closed; a callback goes on, or its process ends. -/
inductive Move
  | published (exchange key : String) (message : Message)
  | delivered (index : Nat)
  | expired (index : Nat) (death : Headers)
  | givenBack (tag : Nat)
  | stepped (tag : Nat) (answer : Answer) (lost : Bool)
  | abandoned (tag : Nat)

inductive Impossible
  | impossible

/-- What the broker adds to the headers of a message that expired. -/
def Message.stamped (death : Headers) (message : Message) : Message :=
  { message with
    headers := death.foldl (fun headers field => headers.set field.1 field.2) message.headers }

/-- The handler's return completes the message. -/
def Task.completes (task : Task Event) (answer : Answer) : List Message :=
  match task.point, answer with
  | .handling _, .returned _ => [task.message]
  | _, _ => []

def step (consumer : Consumer Event) (move : Move) (state : State Event) :
    Except Impossible (State Event × Unit) :=
  match move with
  | .published exchange key message => .ok ({ state with
      broker := state.broker.publish consumer.declareQueue exchange key message }, ())
  | .delivered index =>
      match state.broker.deliver .main index with
      | none => .error .impossible
      | some (delivery, broker) => .ok ({ state with
          broker := broker
          tasks := Function.update state.tasks delivery.tag
            ((consumer.processMessage delivery.message).map (Task.mk delivery.message)) }, ())
  | .expired index death =>
      match state.broker.deadLetter consumer.declareQueue consumer.mainExchange
          consumer.routingKey (Message.stamped death) .retry index with
      | none => .error .impossible
      | some broker => .ok ({ state with broker := broker }, ())
  | .givenBack tag => .ok ({ state with broker := state.broker.requeue tag }, ())
  | .stepped tag answer lost =>
      match state.tasks tag with
      | none => .error .impossible
      | some task => .ok (
          { broker := consumer.perform (consumer.command task.point) answer lost tag state.broker
            tasks := Function.update state.tasks tag
              ((consumer.resume task.message task.point answer).map (Task.mk task.message))
            completed := state.completed ++ task.completes answer }, ())
  | .abandoned tag => .ok ({ state with tasks := Function.update state.tasks tag none }, ())

abbrev Entry (Event : Type) : Type := Run.Entry (State Event) Move Unit

/-- Every move in turn, over queues that may hold messages from before. -/
abbrev history (consumer : Consumer Event) (ready : Queue → List Message) (moves : List Move) :
    Run.Trace (State Event) Move Unit :=
  Run.run (step consumer) (State.begin_ ready) moves

end BigX.Messaging
