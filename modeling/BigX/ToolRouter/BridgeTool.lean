import BigX.Run.Pool
import BigX.Run.Trace
import Mathlib.Algebra.Order.Ring.Rat
import Mathlib.Logic.Function.Basic

set_option autoImplicit false

/- `BridgeTool`: a quote stores a bridge and queues it, one worker takes bridges from the queue
and executes them, and another puts those in the dead letter queue back. -/
namespace BigX.ToolRouter

open Run

-- what a provider gives as the transaction to send
variable {Tx : Type}

inductive Status
  | created
  | queued
  | submitted
  | confirmed
  | completed
  | failed
  deriving DecidableEq

structure Config where
  redisUrl : String
  mpcUrl : String

/-- A quote as a dictionary, in which a key may be missing. -/
structure Quote (Tx : Type) where
  provider : String
  fee : Rat
  dstAmount : Rat
  tx : Option Tx
  src : Option Int
  deriving DecidableEq

/-- What `_quote_provider` returns for a provider that answered. -/
def quoteProvider (provider : String) (fee dstAmount : Rat) (tx : Tx) : Quote Tx :=
  ⟨provider, fee, dstAmount, some tx, none⟩

/-- An item of the queue or of the dead letter queue. -/
structure Item (Tx : Type) where
  id : String
  quote : Quote Tx
  retries : Nat
  deriving DecidableEq

/-- What a call of `quote` is given and meets: the answers of the providers, each `none` or its
fee, its amount and its transaction, and whether the oracle agrees with the best one. -/
structure Request (Tx : Type) where
  authorized : Bool
  valid : Bool
  amount : Int
  maxSpend : Int
  duplicate : Bool
  answers : List (Option (String × Rat × Rat × Tx))
  oracle : Quote Tx → Bool

/-- The loop over the providers, with the answer of one of them. -/
def cheaper (best : Option (Quote Tx)) (answer : Option (String × Rat × Rat × Tx)) :
    Option (Quote Tx) :=
  match answer with
  | none => best
  | some (provider, fee, dstAmount, tx) =>
    let quote := quoteProvider provider fee dstAmount tx
    match best with
    | none => some quote
    | some cheapest => if quote.fee < cheapest.fee then some quote else some cheapest

def bestQuote (answers : List (Option (String × Rat × Rat × Tx))) : Option (Quote Tx) :=
  answers.foldl cheaper none

/-- `quote`, up to the row that it inserts: the quote that is stored and queued. -/
def Request.quote (request : Request Tx) : Except String (Quote Tx) :=
  if ¬ request.authorized then .error "Invalid token"
  else if ¬ request.valid then .error "Invalid"
  else if request.maxSpend ≠ 0 ∧ request.amount > request.maxSpend then .error "Exceeds spend"
  else if request.duplicate then .error "Duplicate"
  else
    match bestQuote request.answers with
    | none => .error "No route"
    | some best => if request.oracle best then .ok best else .error "Oracle mismatch"

/-- What `_execute` waits for. -/
inductive Point
  | connecting
  | reading
  | signing
  | updating
  | notifying
  deriving DecidableEq

/-- `_worker`; it is dead once an exception has left `_execute`. -/
inductive Worker (Tx : Type)
  | idle
  | executing (item : Item Tx) (point : Point)
  | dead
  deriving DecidableEq

def Worker.held : Worker Tx → List (Item Tx)
  | .executing item _ => [item]
  | _ => []

inductive DlqWorker (Tx : Type)
  | idle
  | requeueing (item : Item Tx)
  | notifying (id : String)
  | dead
  deriving DecidableEq

def DlqWorker.ids : DlqWorker Tx → List String
  | .requeueing item => [item.id]
  | .notifying id => [id]
  | _ => []

/-- `calls` are the quotes that have stored their bridge and not queued it, and `enqueued` are
the ids of those that have. -/
structure State (Tx : Type) where
  rows : String → Option Status
  calls : List (Item Tx)
  queue : List (Item Tx)
  dlq : List (Item Tx)
  worker : Worker Tx
  dlqWorker : DlqWorker Tx
  notifications : List (String × String)
  enqueued : List String

/-- The tool as it starts, with what earlier ones left in the database and in redis. -/
def State.start (rows : String → Option Status) (queue dlq : List (Item Tx))
    (notifications : List (String × String)) : State Tx :=
  ⟨rows, [], queue, dlq, .idle, .idle, notifications, []⟩

def ids (items : List (Item Tx)) : List String := items.map Item.id

/-- No bridge has this id, as the id of a new one is drawn at random. -/
def State.fresh (state : State Tx) (id : String) : Prop :=
  state.rows id = none ∧ id ∉ ids (state.calls ++ state.queue ++ state.dlq ++ state.worker.held) ∧
    id ∉ state.dlqWorker.ids ∧ id ∉ state.notifications.map Prod.fst ∧ id ∉ state.enqueued

instance (state : State Tx) (id : String) : Decidable (state.fresh id) :=
  inferInstanceAs (Decidable (_ ∧ _ ∧ _ ∧ _ ∧ _))

/-- `INSERT INTO bridges`, by a call that has its quote. -/
def State.insert (state : State Tx) (id : String) (best : Quote Tx) : State Tx :=
  { state with
    rows := Function.update state.rows id (some .queued)
    calls := state.calls ++ [⟨id, best, 0⟩] }

/-- A quote stores its bridge, or queues it; the worker takes an item, or what it waits for
answers or raises, and the same of the other worker. -/
inductive Move (Tx : Type)
  | quote (id : String) (request : Request Tx)
  | enqueue (index : Nat)
  | pop
  | resume (answered : Bool)
  | popDlq
  | resumeDlq (answered : Bool)

inductive Impossible
  | impossible

/-- `_execute`, up to what it waits for first. -/
def execute (config : Config) (item : Item Tx) : Worker Tx :=
  if config.mpcUrl = "" then .dead else .executing item .connecting

/-- `UPDATE bridges SET status=… WHERE id=…` -/
def update (rows : String → Option Status) (id : String) (status : Status) :
    String → Option Status :=
  Function.update rows id ((rows id).map fun _ => status)

def notify (config : Config) (notifications : List (String × String)) (id status : String) :
    List (String × String) :=
  if config.redisUrl = "" then notifications else (id, status) :: notifications

/-- `_execute`, from the answer it waited for to the next one. -/
def proceed (config : Config) (state : State Tx) (item : Item Tx) (point : Point) : State Tx :=
  match point with
  | .connecting => { state with worker := .executing item .reading }
  | .reading =>
    if state.rows item.id = some .queued then
      -- `q["src"]` and `q["tx"]` raise a `KeyError` where the key is missing
      if item.quote.src.isSome ∧ item.quote.tx.isSome then
        { state with worker := .executing item .signing }
      else { state with worker := .dead }
    else { state with worker := .idle }
  | .signing => { state with worker := .executing item .updating }
  | .updating =>
    { state with
      rows := update state.rows item.id .submitted, worker := .executing item .notifying }
  | .notifying =>
    { state with
      notifications := notify config state.notifications item.id "submitted", worker := .idle }

/-- What `_execute` waited for answers, or raises. -/
def resumed (config : Config) (state : State Tx) (item : Item Tx) (point : Point)
    (answered : Bool) : State Tx :=
  if answered then proceed config state item point else { state with worker := .dead }

/-- `_dlq_worker`, with an item in hand. -/
def takeDead (item : Item Tx) : DlqWorker Tx :=
  if item.retries < 3 then .requeueing { item with retries := item.retries + 1 }
  else .notifying item.id

def step (config : Config) (move : Move Tx) (state : State Tx) :
    Except Impossible (State Tx × Unit) :=
  match move with
  | .quote id request =>
    match request.quote with
    | .error _ => .error .impossible
    | .ok best =>
      if state.fresh id then .ok (state.insert id best, ()) else .error .impossible
  | .enqueue index =>
    match takeOut index state.calls with
    | none => .error .impossible
    | some (item, calls) =>
      if config.redisUrl = "" then .ok ({ state with calls := calls }, ())
      else
        .ok ({ state with
          calls := calls, queue := state.queue ++ [item], enqueued := item.id :: state.enqueued },
          ())
  | .pop =>
    match state.worker, state.queue with
    | .idle, item :: rest =>
      if config.redisUrl = "" then .error .impossible
      else .ok ({ state with queue := rest, worker := execute config item }, ())
    | _, _ => .error .impossible
  | .resume answered =>
    match state.worker with
    | .executing item point => .ok (resumed config state item point answered, ())
    | _ => .error .impossible
  | .popDlq =>
    match state.dlqWorker, state.dlq with
    | .idle, item :: rest =>
      if config.redisUrl = "" then .error .impossible
      else .ok ({ state with dlq := rest, dlqWorker := takeDead item }, ())
    | _, _ => .error .impossible
  | .resumeDlq answered =>
    match state.dlqWorker with
    | .requeueing item =>
      .ok (if answered then { state with queue := state.queue ++ [item], dlqWorker := .idle }
        else { state with dlqWorker := .dead }, ())
    | .notifying id =>
      .ok (if answered then
        { state with
          notifications := notify config state.notifications id "dlq_failed", dlqWorker := .idle }
        else { state with dlqWorker := .dead }, ())
    | _ => .error .impossible

abbrev history (config : Config) (start : State Tx) (moves : List (Move Tx)) :
    Trace (State Tx) (Move Tx) Unit :=
  run (step config) start moves

end BigX.ToolRouter
