import BigX.Run.Pool
import BigX.Run.Trace

set_option autoImplicit false

/- The Discord channel with queueing enabled: a message of low or medium priority is put in a
queue, which one worker sends again, and what fails is put in a dead letter queue, which another
one sends again. -/
namespace BigX.Notification.Discord

open Run

-- what is passed on as it came: the fields and the files of a message
variable {Json : Type}

inductive Priority
  | low
  | medium
  | high
  | critical
  deriving DecidableEq

inductive Category
  | tx
  | nft
  | sec
  | bridge
  | portfolio
  | system
  | agent
  deriving DecidableEq

def Category.value : Category → String
  | .tx => "tx"
  | .nft => "nft"
  | .sec => "security"
  | .bridge => "bridge"
  | .portfolio => "portfolio"
  | .system => "system"
  | .agent => "agent"

/-- The `category` that `send` is called with: a member of the enumeration, or a string that was
read from JSON. -/
inductive Argument
  | member (category : Category)
  | text (value : String)
  deriving DecidableEq

/-- `decimal` tells the characters that `\d` matches. -/
structure Config where
  rateLimit : Nat
  decimal : Char → Bool

structure Message where
  title : String
  desc : String
  content : String
  deriving DecidableEq

/-- The keyword arguments in a stored message, with the defaults of those that are missing.
`ids` are the queued messages that it stands for, of which the code keeps no record. -/
structure Kwargs (Json : Type) where
  title : String
  desc : String
  color : Int
  fields : Option Json
  footer : String
  content : String
  files : Option Json
  category : Option String
  ids : List Nat
  deriving DecidableEq

/-- `{}` -/
def Kwargs.empty : Kwargs Json := ⟨"", "", 0x00ff00, none, "", "", none, none, []⟩

def Kwargs.message (kwargs : Kwargs Json) : Message :=
  ⟨kwargs.title, kwargs.desc, kwargs.content⟩

structure Call (Json : Type) where
  title : String
  desc : String
  color : Int
  fields : Option Json
  footer : String
  content : String
  files : Option Json
  priority : Priority
  category : Argument
  bulk : Bool
  ids : List Nat
  deriving DecidableEq

/-- `send(**kwargs)` -/
def Kwargs.call (kwargs : Kwargs Json) : Call Json where
  title := kwargs.title
  desc := kwargs.desc
  color := kwargs.color
  fields := kwargs.fields
  footer := kwargs.footer
  content := kwargs.content
  files := kwargs.files
  priority := .medium
  category :=
    match kwargs.category with
    | none => .member .system
    | some value => .text value
  bulk := false
  ids := kwargs.ids

/-- An entry of `discord_dlq`, which holds either a payload of the queue or arguments. -/
structure Entry (Json : Type) where
  payload : Option (Kwargs Json)
  kwargs : Option (Kwargs Json)
  error : String
  time : Nat
  deriving DecidableEq

/-- The message that the entry was made for. -/
def Entry.original (entry : Entry Json) : Kwargs Json :=
  entry.payload.getD (entry.kwargs.getD .empty)

/-- `data.get("kwargs", {})`, which stands for the message it was made for if it has its text. -/
def Entry.again (entry : Entry Json) : Kwargs Json :=
  let kwargs := entry.kwargs.getD .empty
  { kwargs with
    ids := if kwargs.message = entry.original.message then entry.original.ids else [] }

/-- On a clock in milliseconds. `posting` are the calls that wait for the webhook. Of the
messages that were queued, `accepted` are all, `posted` those that reached the webhook, and
`expired` those that were in the dead letter queue for an hour. -/
structure State (Json : Type) where
  clock : Nat
  failures : Nat
  lastFail : Nat
  rateCount : Nat
  rateWin : Nat
  queue : List (Kwargs Json)
  dlq : List (Entry Json)
  posting : List (Call Json)
  queueWorker : Bool
  nextId : Nat
  accepted : List (Nat × Message)
  posted : List (Nat × Message)
  expired : List (Nat × Message)

def Kwargs.untracked (kwargs : Kwargs Json) : Kwargs Json := { kwargs with ids := [] }

def Entry.untracked (entry : Entry Json) : Entry Json :=
  { entry with
    payload := entry.payload.map Kwargs.untracked, kwargs := entry.kwargs.map Kwargs.untracked }

/-- A client as it starts, with what earlier ones left in redis. -/
def State.start (clock : Nat) (queue : List (Kwargs Json)) (dlq : List (Entry Json)) :
    State Json where
  clock := clock
  failures := 0
  lastFail := 0
  rateCount := 0
  rateWin := clock
  queue := queue.map Kwargs.untracked
  dlq := dlq.map Entry.untracked
  posting := []
  queueWorker := true
  nextId := 0
  accepted := []
  posted := []
  expired := []

/-- `re.sub`, where `rule` is the replacement at the start of a text and what follows it. -/
def reSub (rule : List Char → Option (List Char × List Char)) : (fuel : Nat) → List Char → List Char
  | 0, text => text
  | _ + 1, [] => []
  | fuel + 1, char :: rest =>
    match rule (char :: rest) with
    | some (replacement, remaining) => replacement ++ reSub rule fuel remaining
    | none => char :: reSub rule fuel rest

def behind (start text : List Char) : Option (List Char) :=
  if start.isPrefixOf text then some (text.drop start.length) else none

/-- `@(everyone|here)` -/
def everyone (text : List Char) : Option (List Char × List Char) :=
  ((behind "@everyone".toList text).or (behind "@here".toList text)).map fun rest =>
    ("@\u200beveryone".toList, rest)

/-- `(\d+)>` behind one of the openings of a mention. -/
def mention (decimal : Char → Bool) (openings : List String) (label : String)
    (text : List Char) : Option (List Char × List Char) :=
  openings.findSome? fun opening =>
    match behind opening.toList text with
    | none => none
    | some rest =>
      let digits := rest.takeWhile decimal
      if digits = [] then none
      else (behind ['>'] (rest.drop digits.length)).map fun rest => (label.toList ++ digits, rest)

/-- `_sanitize` -/
def sanitize (decimal : Char → Bool) (text : String) : String :=
  let text := text.toList
  let text := reSub everyone text.length text
  let text := reSub (mention decimal ["<@!", "<@"] "@user_") text.length text
  String.ofList (reSub (mention decimal ["<@&"] "@role_") text.length text)

/-- `text[:limit]` -/
def cut (limit : Nat) (text : String) : String := String.ofList (text.toList.take limit)

def circuit (state : State Json) : Bool :=
  decide (5 ≤ state.failures ∧ state.clock < state.lastFail + 60000)

/-- `_rate`, and whether it lets the call pass. -/
def rate (config : Config) (state : State Json) : State Json × Bool :=
  let state := if state.rateWin + 60000 < state.clock then
    { state with rateCount := 0, rateWin := state.clock } else state
  if config.rateLimit ≤ state.rateCount then (state, false)
  else ({ state with rateCount := state.rateCount + 1 }, true)

/-- What `send` does next: it raises, stores these arguments in the queue, sends each message of
a bulk on its own, or posts the message. -/
inductive Outcome (Json : Type)
  | raised (error : String)
  | queued (kwargs : Kwargs Json)
  | bulk
  | direct (call : Call Json)

/-- The call with its content sanitized, which stands for no other message if that changed it. -/
def Call.cleaned (config : Config) (call : Call Json) : Call Json :=
  let content := cut 2000 (sanitize config.decimal call.content)
  { call with content := content, ids := if content = call.content then call.ids else [] }

/-- The arguments that are stored in the queue. -/
def Call.stored (category : Category) (call : Call Json) : Kwargs Json where
  title := call.title
  desc := call.desc
  color := call.color
  fields := call.fields
  footer := call.footer
  content := call.content
  files := call.files
  category := some category.value
  ids := call.ids

/-- `send`, up to what it waits for first. -/
def send (config : Config) (state : State Json) (call : Call Json) : State Json × Outcome Json :=
  match call.category with
  | .text _ => (state, .raised "'str' object has no attribute 'value'")
  | .member category =>
    if circuit state then (state, .raised "Circuit open")
    else
      match rate config state with
      | (state, false) => (state, .raised "Rate limit")
      | (state, true) =>
        if call.priority = .low ∨ call.priority = .medium then
          (state, .queued ((call.cleaned config).stored category))
        else if call.bulk then (state, .bulk)
        else (state, .direct (call.cleaned config))

/-- How queueing a message goes: encoding it or the `rpush` raises, or the `llen` behind them. -/
inductive Reply
  | queued
  | rpushRaised (error : String)
  | llenRaised (error : String)

/-- The message is put in the queue, and `send` returns that it is or raises. -/
def State.push (state : State Json) (kwargs : Kwargs Json) (reply : Reply) :
    State Json × Option String :=
  match reply with
  | .queued =>
    ({ state with
      queue := state.queue ++ [{ kwargs with ids := kwargs.ids ++ [state.nextId] }]
      nextId := state.nextId + 1
      accepted := state.accepted ++ [(state.nextId, kwargs.message)] }, none)
  | .rpushRaised error => (state, some error)
  | .llenRaised error => ({ state with queue := state.queue ++ [kwargs] }, some error)

/-- `_dlq({"payload": payload}, error)` by the queue's worker, which an exception ends. -/
def State.bury (state : State Json) (payload : Kwargs Json) (error : String) (stored : Bool) :
    State Json :=
  if stored then { state with dlq := state.dlq ++ [⟨some payload, none, error, state.clock⟩] }
  else { state with queueWorker := false }

/-- How a post ends: it is sent and logged, it is sent and logging it raises, or it fails; the
last two with whether the message could be stored in the dead letter queue. -/
inductive Posted
  | sent
  | unlogged (error : String) (stored : Bool)
  | failed (error : String) (stored : Bool)

/-- The message as the embed's validators leave it. -/
def Call.embedded (call : Call Json) : Message :=
  ⟨cut 256 call.title, cut 4096 call.desc, call.content⟩

def Call.identified (call : Call Json) : List (Nat × Message) :=
  call.ids.map fun id => (id, call.embedded)

/-- The handler of an exception while posting. -/
def State.sendFailed (state : State Json) (call : Call Json) (error : String) (stored : Bool) :
    State Json :=
  let state := { state with failures := state.failures + 1, lastFail := state.clock }
  if (call.priority = .critical ∨ call.priority = .high) ∧ stored then
    let kwargs : Kwargs Json := ⟨call.title, call.desc, call.color, call.fields, "",
      call.content, none, none, call.ids⟩
    { state with dlq := state.dlq ++ [⟨none, some kwargs, error, state.clock⟩] }
  else state

def State.finish (state : State Json) (call : Call Json) : Posted → State Json
  | .sent => { state with failures := 0, posted := state.posted ++ call.identified }
  | .unlogged error stored =>
    { state with failures := 0, posted := state.posted ++ call.identified }.sendFailed call error
      stored
  | .failed error stored => state.sendFailed call error stored

/-- `_queue_worker`, with a message in hand. -/
def sendQueued (config : Config) (state : State Json) (payload : Kwargs Json) (reply : Reply)
    (stored : Bool) : State Json :=
  match send config state payload.call with
  | (state, .raised error) => state.bury payload error stored
  | (state, .queued kwargs) =>
    match state.push kwargs reply with
    | (state, none) => state
    | (state, some error) => state.bury payload error stored
  -- a stored message is sent with the default priority, so it is neither split nor posted
  | (state, _) => state

/-- `_dlq_worker`, with an entry in hand; an exception of `send` is only logged. -/
def sendDead (config : Config) (state : State Json) (entry : Entry Json) (reply : Reply) :
    State Json :=
  if state.clock < entry.time + 3600000 then
    match send config state entry.again.call with
    | (state, .queued kwargs) => (state.push kwargs reply).1
    | (state, _) => state
  else
    { state with
      expired := state.expired ++
        entry.original.ids.map fun id => (id, entry.original.message) }

/-- `send` is called, also for one message of a bulk; a post ends; one of the workers takes what
is first in its queue; or time passes. -/
inductive Move (Json : Type)
  | send (call : Call Json) (reply : Reply)
  | posted (index : Nat) (posted : Posted)
  | queueWorker (reply : Reply) (stored : Bool)
  | dlqWorker (reply : Reply)
  | waited (milliseconds : Nat)

inductive Impossible
  | impossible

def step (config : Config) (move : Move Json) (state : State Json) :
    Except Impossible (State Json × Unit) :=
  match move with
  | .send call reply =>
    match send config state { call with ids := [] } with
    | (state, .queued kwargs) => .ok ((state.push kwargs reply).1, ())
    | (state, .direct call) => .ok ({ state with posting := state.posting ++ [call] }, ())
    | (state, _) => .ok (state, ())
  | .posted index posted =>
    match takeOut index state.posting with
    | none => .error .impossible
    | some (call, posting) => .ok ({ state with posting := posting }.finish call posted, ())
  | .queueWorker reply stored =>
    match state.queueWorker, state.queue with
    | true, payload :: rest =>
      .ok (sendQueued config { state with queue := rest } payload reply stored, ())
    | _, _ => .error .impossible
  | .dlqWorker reply =>
    match state.dlq with
    | entry :: rest => .ok (sendDead config { state with dlq := rest } entry reply, ())
    | [] => .error .impossible
  | .waited milliseconds => .ok ({ state with clock := state.clock + milliseconds }, ())

abbrev history (config : Config) (start : State Json) (moves : List (Move Json)) :
    Trace (State Json) (Move Json) Unit :=
  run (step config) start moves

def Kwargs.identified (kwargs : Kwargs Json) : List (Nat × Message) :=
  kwargs.ids.map fun id => (id, kwargs.message)

/-- Every message that `send` said was queued is in the queue or in the dead letter queue with
its title, description and content, has been posted with them, or was in the dead letter queue
for an hour. -/
def Survive (state : State Json) : Prop :=
  ∀ message ∈ state.accepted,
    message ∈ state.queue.flatMap Kwargs.identified ∨
    message ∈ state.dlq.flatMap (fun entry => entry.original.identified) ∨
    message ∈ state.posted ∨ message ∈ state.expired

instance (state : State Json) : Decidable (Survive state) :=
  inferInstanceAs (Decidable (∀ message ∈ state.accepted, _ ∨ _ ∨ _ ∨ _))

end BigX.Notification.Discord
