import BigX.Policy.Approvals

set_option autoImplicit false

/- The wallet service's human approvals, beside the policy engine that they are submitted
to. The service's table of requests is a stub in the source; here it keeps what it is
given. Python's `int` and the encoder's reading of an address are parameters. -/
namespace BigX.Wallet.HumanApproval

open Evm Run

inductive ApprovalStatus
  | pending
  | approved
  | rejected
  | expired
  deriving DecidableEq

structure ApprovalRequest where
  agentId : String
  userId : String
  target : String
  value : Int
  calldata : Calldata
  status : ApprovalStatus
  expiresAt : Int
  actionHash : Bytes32
  deriving DecidableEq

/-- What the service raises. -/
inductive Raised
  | approvalNotFound (text : String)
  | permission (text : String)
  | notPending (status : ApprovalStatus)
  | approvalExpired (requestId : String) (expiresAt : Int)
  | agentId (text : String)
  | encoding
  | client
  deriving DecidableEq

/-- The four values that are encoded. -/
structure Action where
  nftId : Uint256
  target : Address
  value : Uint256
  calldata : Calldata
  deriving DecidableEq

/-- The encoder takes integers of 256 bits without a sign. -/
def uint256 (value : Int) : Except Raised Uint256 :=
  if 0 ≤ value ∧ value < 2 ^ 256 then .ok (BitVec.ofInt 256 value) else .error .encoding

/-- `encode(["uint256", "address", "uint256", "bytes"], ..)` -/
def Action.encode (action : Action) : List Byte :=
  Abi.encode [.uint256 action.nftId, .address action.target, .uint256 action.value,
    .bytes action.calldata]

section Conversions

variable (int : String → Option Int) (address : String → Option Address)
  (keccak256 : List Byte → Bytes32)

/-- `int(agent_id)`, as the client's and the encoder's `uint256`. -/
def agentNumber (agentId : String) : Except Raised Uint256 :=
  match int agentId with
  | some number => uint256 number
  | none => .error (.agentId agentId)

def readAction (agentId target : String) (value : Int) (calldata : Calldata) :
    Except Raised Action := do
  let nftId ← agentNumber int agentId
  match address target with
  | none => .error .encoding
  | some account =>
    let amount ← uint256 value
    pure ⟨nftId, account, amount, calldata⟩

/-- `_compute_action_hash` -/
def computeActionHash (agentId target : String) (value : Int) (calldata : Calldata) :
    Except Raised Bytes32 := do
  let action ← readAction int address agentId target value calldata
  pure (keccak256 action.encode)

/-- The service's table and the policy engine. -/
structure State where
  requests : String → Option ApprovalRequest
  engine : Policy.State

/-- `_update_status` -/
def State.updateStatus (state : State) (requestId : String) (status : ApprovalStatus) : State :=
  { state with
    requests := Function.update state.requests requestId
      ((state.requests requestId).map fun request => { request with status := status }) }

/-- `request_approval`, called at `now`, in minutes. -/
def requestApproval (requestId agentId userId target : String) (value : Int)
    (calldata : Calldata) (now expiryMinutes : Int) (state : State) :
    State × Except Raised ApprovalRequest :=
  match computeActionHash int address keccak256 agentId target value calldata with
  | .error raised => (state, .error raised)
  | .ok actionHash =>
    let request : ApprovalRequest :=
      ⟨agentId, userId, target, value, calldata, .pending, now + expiryMinutes, actionHash⟩
    ({ state with requests := Function.update state.requests requestId (some request) },
      .ok request)

/-- `_get` -/
def getRequest (requestId : String) (state : State) : Except Raised ApprovalRequest :=
  match state.requests requestId with
  | some request => .ok request
  | none => .error (.approvalNotFound s!"No approval request found: {requestId}")

/-- How a transaction of the client fares: the message it arrives with, if it is broadcast,
and whether the client gets to see its receipt. -/
structure Sending where
  message : Option Message
  answered : Bool
  deriving DecidableEq

/-- `approve_action` of the policy engine's client: what the transaction did, and whether the
client returned. -/
def approveAction (sending : Sending) (nftId : Uint256) (actionHash : Bytes32)
    (engine : Policy.State) : (Policy.State × List Policy.Event) × Bool :=
  match sending.message with
  | none => ((engine, []), false)
  | some message =>
    match Policy.transact keccak256 ⟨message, .approveAction nftId actionHash⟩ engine with
    | .ok (after, output) => ((after, output.events), sending.answered)
    | .error _ => ((engine, []), false)

/-- What `approve` raises before it gets to the client. -/
def approvable (requestId approvingUserId : String) (state : State) :
    Except Raised ApprovalRequest := do
  let request ← getRequest requestId state
  if request.userId ≠ approvingUserId then
    throw (.permission "Only the requesting user can approve this action")
  if request.status ≠ .pending then throw (.notPending request.status)
  return request

/-- `approve`, called at `now`. -/
def approve (requestId approvingUserId : String) (now : Int) (sending : Sending)
    (state : State) : (State × List Policy.Event) × Except Raised ApprovalRequest :=
  match approvable requestId approvingUserId state with
  | .error raised => ((state, []), .error raised)
  | .ok request =>
    if request.expiresAt < now then
      ((state.updateStatus requestId .expired, []),
        .error (.approvalExpired requestId request.expiresAt))
    else
      match agentNumber int request.agentId with
      | .error raised => ((state, []), .error raised)
      | .ok nftId =>
        let submitted := approveAction keccak256 sending nftId request.actionHash state.engine
        let written := { state with engine := submitted.1.1 }
        if submitted.2 = true then
          ((written.updateStatus requestId .approved, submitted.1.2),
            .ok { request with status := .approved })
        else ((written, submitted.1.2), .error .client)

/-- `reject` -/
def reject (requestId rejectingUserId : String) (state : State) :
    State × Except Raised ApprovalRequest :=
  match getRequest requestId state with
  | .error raised => (state, .error raised)
  | .ok request =>
    if request.userId ≠ rejectingUserId then
      (state, .error (.permission "Only the requesting user can reject this action"))
    else (state.updateStatus requestId .rejected, .ok { request with status := .rejected })

/-- A call of the service, or any other transaction of the policy engine. -/
inductive Move
  | requestApproval (requestId agentId userId target : String) (value : Int)
      (calldata : Calldata) (now expiryMinutes : Int)
  | approve (requestId approvingUserId : String) (now : Int) (sending : Sending)
  | reject (requestId rejectingUserId : String)
  | transact (transaction : Policy.Transaction)
  deriving DecidableEq

/-- What the engine emitted, and what the service answered. -/
structure Output where
  events : List Policy.Event
  answer : Option (Except Raised ApprovalRequest)

def step (move : Move) (state : State) : Except Policy.Failure (State × Output) :=
  match move with
  | .requestApproval requestId agentId userId target value calldata now expiryMinutes =>
      let result := requestApproval int address keccak256 requestId agentId userId target value
        calldata now expiryMinutes state
      .ok (result.1, ⟨[], some result.2⟩)
  | .approve requestId approvingUserId now sending =>
      let result := approve int keccak256 requestId approvingUserId now sending state
      .ok (result.1.1, ⟨result.1.2, some result.2⟩)
  | .reject requestId rejectingUserId =>
      let result := reject requestId rejectingUserId state
      .ok (result.1, ⟨[], some result.2⟩)
  | .transact transaction =>
      (Policy.transact keccak256 transaction state.engine).map fun result =>
        ({ state with engine := result.1 }, ⟨result.2.events, none⟩)

abbrev Entry : Type := Run.Entry State Move Output

/-- An empty table beside a newly deployed engine. -/
def begin_ (deployment : Message) (admin : Address) : State :=
  ⟨fun _ => none, (Policy.deploy deployment admin).1⟩

abbrev history (deployment : Message) (admin : Address) (moves : List Move) :
    Run.Trace State Move Output :=
  Run.run (step int address keccak256) (begin_ deployment admin) moves

end Conversions

end BigX.Wallet.HumanApproval
