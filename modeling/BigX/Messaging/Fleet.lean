import BigX.Messaging.Consumer

set_option autoImplicit false

/- Many consumers on one broker. Each has its own three queues, and all share the three
exchanges, where a copy goes to every queue whose binding matches. What a failure had
delivered again is written down beside the broker. -/
namespace BigX.Messaging

open Amqp

/-- The arguments of one `consume`. -/
structure Listener where
  queueName : String
  routingKey : String
  isProcessed : Bool
  markProcessed : Bool
  deriving DecidableEq

def Listener.retryName (listener : Listener) : String := listener.queueName ++ ".retry"

def Listener.dlqName (listener : Listener) : String := listener.queueName ++ ".dlq"

/-- The listeners on one broker. It refuses to declare a queue that exists with other
arguments, so a retry queue is nobody's main queue and has one dead-letter key; a `consume`
that is refused there may leave its first binding among `others`. -/
structure Fleet (Event : Type) where
  mainExchange : String
  retryExchange : String
  dlxExchange : String
  maxRetries : Int
  decode : List UInt8 → Decoded Event
  coerce : HeaderValue → Except String Int
  listeners : List Listener
  others : List (Binding String)
  separate : ∀ first ∈ listeners, ∀ second ∈ listeners, first.queueName ≠ second.retryName
  equivalent : ∀ first ∈ listeners, ∀ second ∈ listeners,
    first.queueName = second.queueName → first.routingKey = second.routingKey

namespace Fleet

variable {Event : Type}

/-- One listener's wrapper. -/
def consumer (fleet : Fleet Event) (listener : Listener) : Consumer Event :=
  { mainExchange := fleet.mainExchange
    retryExchange := fleet.retryExchange
    dlxExchange := fleet.dlxExchange
    maxRetries := fleet.maxRetries
    routingKey := listener.routingKey
    isProcessed := listener.isProcessed
    markProcessed := listener.markProcessed
    decode := fleet.decode
    coerce := fleet.coerce }

/-- The bindings that every `declare_queue` made, and the others. -/
def bindings (fleet : Fleet Event) : List (Binding String) :=
  (fleet.listeners.flatMap fun listener =>
    [⟨fleet.mainExchange, listener.routingKey, listener.queueName⟩,
     ⟨fleet.retryExchange, listener.routingKey, listener.retryName⟩,
     ⟨fleet.dlxExchange, listener.routingKey, listener.dlqName⟩]) ++ fleet.others

/-- `x-dead-letter-routing-key` of a queue, if it has one. -/
def deadLetterKey (fleet : Fleet Event) (queue : String) : Option String :=
  (fleet.listeners.find? fun listener => listener.retryName = queue).map Listener.routingKey

/-- A message in a queue, with the failed delivery that put it there, if one did. -/
structure Copy where
  message : Message
  cause : Option Nat
  deriving DecidableEq

/-- A delivery that was made. -/
structure Delivered where
  tag : Nat
  queue : String
  cause : Option Nat
  deriving DecidableEq

structure Task (Event : Type) where
  listener : Listener
  message : Message
  point : Point Event

/-- The broker, the callbacks by delivery tag, all deliveries so far, and the failed ones whose
copy went to the retry exchange. -/
structure State (Event : Type) where
  broker : Broker String Copy
  tasks : Nat → Option (Task Event)
  deliveries : List Delivered
  retried : List Nat

def begin_ (ready : String → List Message) : State Event :=
  ⟨.holding fun queue => (ready queue).map fun message => ⟨message, none⟩, fun _ => none, [], []⟩

/-- Points at which `_handle_failure` publishes or rejects. -/
def failing : Point Event → Bool
  | .publishingRetry _ => true
  | .publishingDead _ => true
  | .rejectingFailed => true
  | _ => false

/-- A publish is carried out when it returns, and may be when it raises. -/
def carriedOut (answer : Answer) (lost : Bool) : Bool :=
  match answer, lost with
  | .raised _, true => false
  | _, _ => true

/-- The broker carries out what a callback asks for, or has `lost` it. -/
def perform (fleet : Fleet Event) (task : Task Event) (answer : Answer) (lost : Bool) (tag : Nat)
    (broker : Broker String Copy) : Broker String Copy :=
  let cause := if failing task.point then some tag else none
  match (fleet.consumer task.listener).command task.point with
  | .nothing => broker
  | .publish exchange copy =>
      if carriedOut answer lost then
        broker.publish fleet.bindings exchange task.listener.routingKey ⟨copy, cause⟩
      else broker
  | .ack => if lost then broker else broker.ack tag
  | .reject =>
      if lost then broker
      else (broker.mark (fun copy => { copy with cause := cause }) tag).requeue tag

/-- The callback's copy is in the retry exchange's queues. -/
def retries (point : Point Event) (answer : Answer) (lost : Bool) : Bool :=
  match point with
  | .publishingRetry _ => carriedOut answer lost
  | _ => false

/-- Anybody publishes; the broker delivers to a listener, lets a retry expire, or takes a
delivery back from a channel that closed; a callback goes on, or its process ends. -/
inductive Move
  | published (exchange key : String) (message : Message)
  | delivered (listener : Nat) (index : Nat)
  | expired (queue : String) (index : Nat) (death : Headers)
  | givenBack (tag : Nat)
  | stepped (tag : Nat) (answer : Answer) (lost : Bool)
  | abandoned (tag : Nat)

def step (fleet : Fleet Event) (move : Move) (state : State Event) :
    Except Impossible (State Event × Unit) :=
  match move with
  | .published exchange key message => .ok ({ state with
      broker := state.broker.publish fleet.bindings exchange key ⟨message, none⟩ }, ())
  | .delivered listener index =>
      match fleet.listeners[listener]? with
      | none => .error .impossible
      | some listener =>
          match state.broker.deliver listener.queueName index with
          | none => .error .impossible
          | some (delivery, broker) => .ok ({ state with
              broker := broker
              tasks := Function.update state.tasks delivery.tag
                (((fleet.consumer listener).processMessage delivery.message.message).map
                  (Task.mk listener delivery.message.message))
              deliveries := state.deliveries ++
                [⟨delivery.tag, delivery.queue, delivery.message.cause⟩] }, ())
  | .expired queue index death =>
      match fleet.deadLetterKey queue with
      | none => .error .impossible
      | some key =>
          match state.broker.deadLetter fleet.bindings fleet.mainExchange key
              (fun copy => { copy with message := copy.message.stamped death }) queue index with
          | none => .error .impossible
          | some broker => .ok ({ state with broker := broker }, ())
  | .givenBack tag => .ok ({ state with
      broker := (state.broker.mark (fun copy => { copy with cause := none }) tag).requeue tag }, ())
  | .stepped tag answer lost =>
      match state.tasks tag with
      | none => .error .impossible
      | some task => .ok ({ state with
          broker := fleet.perform task answer lost tag state.broker
          tasks := Function.update state.tasks tag
            (((fleet.consumer task.listener).resume task.message task.point answer).map
              (Task.mk task.listener task.message))
          retried := if retries task.point answer lost then tag :: state.retried
            else state.retried }, ())
  | .abandoned tag => .ok ({ state with tasks := Function.update state.tasks tag none }, ())

abbrev Entry (Event : Type) : Type := Run.Entry (State Event) Move Unit

/-- Every move in turn, over queues that may hold messages from before. -/
abbrev history (fleet : Fleet Event) (ready : String → List Message) (moves : List Move) :
    Run.Trace (State Event) Move Unit :=
  Run.run (step fleet) (begin_ ready) moves

end Fleet

end BigX.Messaging
