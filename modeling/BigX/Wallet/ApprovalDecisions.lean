import BigX.Run.Pool
import BigX.Wallet.HumanApproval

set_option autoImplicit false

/- The wallet service's approvals and rejections side by side. A call reads its request, may
submit it, and writes its status, and other calls go on between these steps; each of them may
fail. -/
namespace BigX.Wallet.ApprovalDecisions

open Evm Run
open HumanApproval (ApprovalRequest ApprovalStatus Raised Sending agentNumber approvable
  approveAction getRequest requestApproval)

inductive Verb
  | approve
  | reject
  deriving DecidableEq

structure Call where
  verb : Verb
  requestId : String
  userId : String
  deriving DecidableEq

/-- What a call waits for: its `_get`, its `approve_action`, or its `_update_status`. `request`
is what it has read. -/
inductive Point
  | getting
  | submitting (request : ApprovalRequest)
  | updating (request : ApprovalRequest) (status : ApprovalStatus)
  deriving DecidableEq

/-- The table beside the engine, the calls under way, and the requests whose hashes the engine
took. -/
structure State where
  service : HumanApproval.State
  calls : List (Call × Point)
  submitted : List String

def State.begin_ (service : HumanApproval.State) : State := ⟨service, [], []⟩

inductive Answer
  | waiting
  | returned (request : ApprovalRequest)
  | raised (reason : Raised)
  | failed

def State.wait (call : Call) (point : Point) (state : State) : State :=
  { state with calls := state.calls ++ [(call, point)] }

/-- What `reject` raises before it writes. -/
def rejectable (requestId rejectingUserId : String) (service : HumanApproval.State) :
    Except Raised ApprovalRequest := do
  let request ← getRequest requestId service
  if request.userId ≠ rejectingUserId then
    throw (.permission "Only the requesting user can reject this action")
  return request

/-- A call after its `_get` has returned at `now`. -/
def State.got (call : Call) (now : Int) (state : State) : State × Answer :=
  match call.verb with
  | .approve =>
      match approvable call.requestId call.userId state.service with
      | .error raised => (state, .raised raised)
      | .ok request =>
          if request.expiresAt < now then
            (state.wait call (.updating request .expired), .waiting)
          else (state.wait call (.submitting request), .waiting)
  | .reject =>
      match rejectable call.requestId call.userId state.service with
      | .error raised => (state, .raised raised)
      | .ok request => (state.wait call (.updating request .rejected), .waiting)

section Conversions

variable (int : String → Option Int) (address : String → Option Address)
  (keccak256 : List Byte → Bytes32)

/-- `approve_action`, and the rest of the call up to its `_update_status`. -/
def State.sent (call : Call) (request : ApprovalRequest) (sending : Sending) (state : State) :
    State × Answer :=
  match agentNumber int request.agentId with
  | .error raised => (state, .raised raised)
  | .ok nftId =>
      let result := approveAction keccak256 sending nftId request.actionHash state.service.engine
      let after : State :=
        { state with
          service := { state.service with engine := result.1.1 }
          submitted :=
            if result.1.2.isEmpty then state.submitted
            else state.submitted ++ [call.requestId] }
      if result.2 = true then (after.wait call (.updating request .approved), .waiting)
      else (after, .raised .client)

/-- `_update_status`, and the rest of the call. -/
def State.updated (call : Call) (request : ApprovalRequest) (status : ApprovalStatus)
    (state : State) : State × Answer :=
  ({ state with service := state.service.updateStatus call.requestId status },
    if status = .expired then .raised (.approvalExpired call.requestId request.expiresAt)
    else .returned { request with status := status })

/-- A step that fails ends its call; a write may have been carried out. -/
def State.abort (call : Call) (point : Point) (done : Bool) (state : State) : State :=
  match point with
  | .updating request status => if done then (state.updated call request status).1 else state
  | _ => state

/-- A call begins, goes a step further or fails; a request is made, under an id that is new; or
the engine has another transaction. -/
inductive Move
  | called (call : Call)
  | got (index : Nat) (now : Int)
  | sent (index : Nat) (sending : Sending)
  | updated (index : Nat)
  | raised (index : Nat) (done : Bool)
  | requestApproval (requestId agentId userId target : String) (value : Int)
      (calldata : Calldata) (now expiryMinutes : Int)
  | transact (transaction : Policy.Transaction)
  deriving DecidableEq

inductive Impossible
  | impossible

def step (move : Move) (state : State) : Except Impossible (State × Answer) :=
  match move with
  | .called call => .ok (state.wait call .getting, .waiting)
  | .got index now =>
      match takeOut index state.calls with
      | some ((call, .getting), calls) => .ok ({ state with calls := calls }.got call now)
      | _ => .error .impossible
  | .sent index sending =>
      match takeOut index state.calls with
      | some ((call, .submitting request), calls) =>
          .ok ({ state with calls := calls }.sent int keccak256 call request sending)
      | _ => .error .impossible
  | .updated index =>
      match takeOut index state.calls with
      | some ((call, .updating request status), calls) =>
          .ok ({ state with calls := calls }.updated call request status)
      | _ => .error .impossible
  | .raised index done =>
      match takeOut index state.calls with
      | some ((call, point), calls) =>
          .ok ({ state with calls := calls }.abort call point done, .failed)
      | none => .error .impossible
  | .requestApproval requestId agentId userId target value calldata now expiryMinutes =>
      match state.service.requests requestId with
      | some _ => .error .impossible
      | none =>
          .ok ({ state with
            service := (requestApproval int address keccak256 requestId agentId userId target
              value calldata now expiryMinutes state.service).1 }, .waiting)
  | .transact transaction =>
      match Policy.transact keccak256 transaction state.service.engine with
      | .ok (engine, _) =>
          .ok ({ state with service := { state.service with engine := engine } }, .waiting)
      | .error _ => .error .impossible

abbrev history (service : HumanApproval.State) (moves : List Move) : Trace State Move Answer :=
  run (step int address keccak256) (.begin_ service) moves

/-- With nothing in between, the steps of an approval come to what `approve` does at once. -/
theorem approve_uninterrupted (service : HumanApproval.State) (requestId userId : String)
    (now : Int) (sending : Sending) :
    (history int address keccak256 service [.called ⟨.approve, requestId, userId⟩, .got 0 now,
        .sent 0 sending, .updated 0]).now.service =
      (HumanApproval.approve int keccak256 requestId userId now sending service).1.1 := by
  simp only [history, run, List.foldl_cons, List.foldl_nil, Trace.extend, step, State.wait,
    State.begin_, takeOut, List.nil_append, List.getElem?_cons_zero, Option.map_some,
    List.eraseIdx_zero, List.tail_cons, State.got, HumanApproval.approve]
  cases approvable requestId userId service with
  | error raised => simp
  | ok request =>
    by_cases late : request.expiresAt < now
    · simp [late, State.updated]
    · cases numbered : agentNumber int request.agentId with
      | error raised => simp [late, State.sent, numbered]
      | ok nftId =>
        cases answered : (approveAction keccak256 sending nftId request.actionHash
            service.engine).2 with
        | true => simp [late, State.sent, numbered, answered, State.wait, State.updated]
        | false => simp [late, State.sent, numbered, answered]

theorem reject_uninterrupted (service : HumanApproval.State) (requestId userId : String)
    (now : Int) :
    (history int address keccak256 service [.called ⟨.reject, requestId, userId⟩, .got 0 now,
        .updated 0]).now.service =
      (HumanApproval.reject requestId userId service).1 := by
  simp only [history, run, List.foldl_cons, List.foldl_nil, Trace.extend, step, State.wait,
    State.begin_, takeOut, List.nil_append, List.getElem?_cons_zero, Option.map_some,
    List.eraseIdx_zero, List.tail_cons, State.got, HumanApproval.reject, rejectable]
  cases getRequest requestId service with
  | error raised => simp [bind, Except.bind]
  | ok request =>
    by_cases owner : request.userId = userId
    · simp [owner, bind, Except.bind, pure, Except.pure, State.updated]
    · simp [owner, bind, Except.bind, throw, throwThe, MonadExceptOf.throw]

/-- A request that was decided keeps its status. -/
def Final (before after : HumanApproval.State) : Prop :=
  ∀ requestId request, before.requests requestId = some request → request.status ≠ .pending →
    ∃ later, after.requests requestId = some later ∧ later.status = request.status

/-- No request that was submitted is rejected. -/
def AgreesWithChain (state : State) : Prop :=
  ∀ requestId ∈ state.submitted, ∀ request,
    state.service.requests requestId = some request → request.status ≠ .rejected

/-- The request still has the status that the call has read, or already the one it writes; and
a rejection has read one that was open or rejected, of a request that was not submitted. -/
def WriteFits (state : State) (call : Call) (request : ApprovalRequest)
    (status : ApprovalStatus) : Prop :=
  ∀ stored, state.service.requests call.requestId = some stored →
    (stored.status = request.status ∨ stored.status = status) ∧
      (status = .rejected → (request.status = .pending ∨ request.status = .rejected) ∧
        call.requestId ∉ state.submitted)

/-- The engine takes the approval of the request. -/
def Taken (request : ApprovalRequest) (sending : Sending) (state : State) : Prop :=
  ∃ nftId, agentNumber int request.agentId = .ok nftId ∧
    (approveAction keccak256 sending nftId request.actionHash state.service.engine).1.2 ≠ []

/-- No call goes on with a request that was decided otherwise since it was read, no rejection
goes on with one that was approved, expired or submitted. -/
def decidesInTime (state : State) : Move → Prop
  | .updated index => ∀ call request status,
      state.calls[index]? = some (call, .updating request status) →
        WriteFits state call request status
  | .raised index true => ∀ call request status,
      state.calls[index]? = some (call, .updating request status) →
        WriteFits state call request status
  | .sent index sending => ∀ call request,
      state.calls[index]? = some (call, .submitting request) →
        Taken int keccak256 request sending state →
          ∀ stored, state.service.requests call.requestId = some stored →
            stored.status ≠ .rejected
  | _ => True

/-- What a call holds of its request. -/
def Point.request : Point → Option ApprovalRequest
  | .getting => none
  | .submitting request => some request
  | .updating request _ => some request

/-- Only a rejection goes on with a request that is not open. -/
def Point.Guarded : Point → Prop
  | .getting => True
  | .submitting request => request.status = .pending
  | .updating request status => status ≠ .rejected → request.status = .pending

/-- What the call has read is guarded, and if it was decided then, it is decided so now. -/
def Snapshot (service : HumanApproval.State) (call : Call × Point) : Prop :=
  call.2.Guarded ∧ ∀ request ∈ call.2.request,
    ∃ stored, service.requests call.1.requestId = some stored ∧
      (request.status ≠ .pending → stored.status = request.status)

structure Sound (state : State) : Prop where
  agrees : AgreesWithChain state
  snapshots : ∀ call ∈ state.calls, Snapshot state.service call

variable {int address keccak256}

theorem final_of_requests {before after : HumanApproval.State}
    (same : after.requests = before.requests) : Final before after := by
  intro requestId request found _
  exact ⟨request, by rw [same]; exact found, rfl⟩

theorem Snapshot.of_final {before after : HumanApproval.State} {call : Call × Point}
    (snapshot : Snapshot before call) (final : Final before after)
    (kept : ∀ requestId, (before.requests requestId).isSome →
      (after.requests requestId).isSome) : Snapshot after call := by
  refine ⟨snapshot.1, ?_⟩
  intro request read
  obtain ⟨stored, found, decided⟩ := snapshot.2 request read
  obtain ⟨later, present⟩ := Option.isSome_iff_exists.mp (kept _ (by rw [found]; rfl))
  refine ⟨later, present, ?_⟩
  intro closed
  have same := decided closed
  obtain ⟨later', present', kept'⟩ := final _ stored found (by rw [same]; exact closed)
  rw [present] at present'
  cases present'
  rw [kept', same]

theorem wait_sound {state : State} (sound : Sound state) {call : Call} {point : Point}
    (snapshot : Snapshot state.service (call, point)) : Sound (state.wait call point) := by
  refine ⟨sound.agrees, ?_⟩
  intro other member
  rcases List.mem_append.mp member with earlier | last
  · exact sound.snapshots other earlier
  · rw [List.mem_singleton.mp last]
    exact snapshot

theorem takeOut_sound {state : State} (sound : Sound state) {index : Nat}
    {call : Call × Point} {calls : List (Call × Point)}
    (taken : takeOut index state.calls = some (call, calls)) :
    Snapshot state.service call ∧ Sound { state with calls := calls } :=
  ⟨sound.snapshots call (takeOut_mem taken), sound.agrees,
    fun other member => sound.snapshots other (mem_of_takeOut taken member)⟩

theorem getRequest_ok {requestId : String} {service : HumanApproval.State}
    {request : ApprovalRequest} (got : getRequest requestId service = .ok request) :
    service.requests requestId = some request := by
  unfold getRequest at got
  split at got
  · rename_i found
    cases got
    exact found
  · cases got

theorem approvable_ok {requestId userId : String} {service : HumanApproval.State}
    {request : ApprovalRequest} (passed : approvable requestId userId service = .ok request) :
    service.requests requestId = some request ∧ request.status = .pending := by
  unfold approvable at passed
  cases got : getRequest requestId service with
  | error raised =>
    rw [got] at passed
    cases passed
  | ok found =>
    simp only [got, bind, Except.bind, pure, Except.pure] at passed
    split at passed
    · cases passed
    · split at passed
      · cases passed
      · rename_i open_
        cases passed
        exact ⟨getRequest_ok got, Decidable.not_not.mp open_⟩

theorem rejectable_ok {requestId userId : String} {service : HumanApproval.State}
    {request : ApprovalRequest} (passed : rejectable requestId userId service = .ok request) :
    service.requests requestId = some request := by
  unfold rejectable at passed
  cases got : getRequest requestId service with
  | error raised =>
    rw [got] at passed
    cases passed
  | ok found =>
    simp only [got, bind, Except.bind, pure, Except.pure] at passed
    split at passed
    · cases passed
    · cases passed
      exact getRequest_ok got

/-- A `_get` leaves the rows alone, and what the call goes on with is what is stored. -/
theorem got_sound {state : State} (sound : Sound state) (call : Call) (now : Int) :
    (state.got call now).1.service = state.service ∧
      (state.got call now).1.submitted = state.submitted ∧ Sound (state.got call now).1 := by
  unfold State.got
  split
  · split
    · exact ⟨rfl, rfl, sound⟩
    · rename_i request passed
      obtain ⟨found, pending⟩ := approvable_ok passed
      have read : ∀ point : Point, point.request = some request → point.Guarded →
          Snapshot state.service (call, point) := by
        intro point same guarded
        refine ⟨guarded, ?_⟩
        intro other held
        rw [same] at held
        cases held
        exact ⟨request, found, fun _ => rfl⟩
      split
      · exact ⟨rfl, rfl, wait_sound sound (read _ rfl fun _ => pending)⟩
      · exact ⟨rfl, rfl, wait_sound sound (read _ rfl pending)⟩
  · split
    · exact ⟨rfl, rfl, sound⟩
    · rename_i request passed
      refine ⟨rfl, rfl, wait_sound sound ⟨fun other => absurd rfl other, ?_⟩⟩
      intro other held
      cases held
      exact ⟨request, rejectable_ok passed, fun _ => rfl⟩

theorem updateStatus_self {service : HumanApproval.State} {requestId : String}
    {stored : ApprovalRequest} (found : service.requests requestId = some stored)
    (status : ApprovalStatus) :
    (service.updateStatus requestId status).requests requestId =
      some { stored with status := status } := by
  simp only [HumanApproval.State.updateStatus, Function.update_self, found, Option.map_some]

theorem updateStatus_of_ne (service : HumanApproval.State) {requestId other : String}
    (status : ApprovalStatus) (differ : other ≠ requestId) :
    (service.updateStatus requestId status).requests other = service.requests other := by
  simp only [HumanApproval.State.updateStatus, Function.update_of_ne differ]

/-- A write is final exactly if the request was open or stays as it was. -/
theorem updateStatus_final {service : HumanApproval.State} {requestId : String}
    {stored : ApprovalRequest} (found : service.requests requestId = some stored)
    (status : ApprovalStatus) :
    Final service (service.updateStatus requestId status) ↔
      (stored.status = .pending ∨ stored.status = status) := by
  constructor
  · intro final
    by_cases pending : stored.status = .pending
    · exact .inl pending
    · obtain ⟨later, present, same⟩ := final requestId stored found pending
      rw [updateStatus_self found] at present
      cases present
      exact .inr same.symm
  · intro fits other request held decided
    by_cases same : other = requestId
    · subst same
      rw [found] at held
      cases held
      exact ⟨_, updateStatus_self found status, (fits.resolve_left decided).symm⟩
    · exact ⟨request, by rw [updateStatus_of_ne service status same]; exact held, rfl⟩

/-- A write agrees with the chain exactly if it rejects no request that was submitted. -/
theorem updated_agrees {state : State} (agrees : AgreesWithChain state) {call : Call}
    {stored : ApprovalRequest} (found : state.service.requests call.requestId = some stored)
    (request : ApprovalRequest) (status : ApprovalStatus) :
    AgreesWithChain (state.updated call request status).1 ↔
      (status = .rejected → call.requestId ∉ state.submitted) := by
  constructor
  · intro after rejected submitted
    exact after call.requestId submitted _ (updateStatus_self found status) rejected
  · intro unsubmitted requestId submitted other held
    by_cases same : requestId = call.requestId
    · subst same
      have present : some { stored with status := status } = some other := by
        rw [← updateStatus_self found status]
        exact held
      cases present
      exact fun rejected => unsubmitted rejected submitted
    · have present : state.service.requests requestId = some other := by
        rw [← updateStatus_of_ne state.service status same]
        exact held
      exact agrees requestId submitted other present

/-- What a call has read tells whether its write does any harm. -/
theorem write_exact {state : State} (sound : Sound state) {call : Call}
    {request : ApprovalRequest} {status : ApprovalStatus}
    (snapshot : Snapshot state.service (call, .updating request status)) :
    (Final state.service (state.updated call request status).1.service ∧
        AgreesWithChain (state.updated call request status).1) ↔
      WriteFits state call request status := by
  obtain ⟨guarded, read⟩ := snapshot
  obtain ⟨stored, found, decided⟩ := read request rfl
  have final : Final state.service (state.updated call request status).1.service ↔ _ :=
    updateStatus_final found status
  rw [final, updated_agrees sound.agrees found]
  have fits : WriteFits state call request status ↔
      (stored.status = request.status ∨ stored.status = status) ∧
        (status = .rejected → (request.status = .pending ∨ request.status = .rejected) ∧
          call.requestId ∉ state.submitted) := by
    unfold WriteFits
    rw [found]
    simp only [Option.some.injEq, forall_eq']
  rw [fits]
  by_cases rejects : status = .rejected
  · subst rejects
    by_cases pending : request.status = .pending
    · simp [pending]
    · have same := decided pending
      rw [same]
      simp [pending]
  · have pending : request.status = .pending := guarded rejects
    simp [rejects, pending]

theorem updated_isSome {service : HumanApproval.State} (requestId : String)
    (status : ApprovalStatus) (other : String) (present : (service.requests other).isSome) :
    ((service.updateStatus requestId status).requests other).isSome := by
  obtain ⟨stored, found⟩ := Option.isSome_iff_exists.mp present
  by_cases same : other = requestId
  · subst same
    rw [updateStatus_self found]
    rfl
  · rw [updateStatus_of_ne service status same, found]
    rfl

theorem write_sound {state : State} (sound : Sound state) {call : Call}
    {request : ApprovalRequest} {status : ApprovalStatus}
    (harmless : Final state.service (state.updated call request status).1.service ∧
      AgreesWithChain (state.updated call request status).1) :
    Sound (state.updated call request status).1 :=
  ⟨harmless.2, fun other member => (sound.snapshots other member).of_final harmless.1
    (updated_isSome call.requestId status)⟩

/-- An engine that takes nothing leaves `submitted` as it is, one that takes an approval adds
the request. -/
theorem sent_submitted (call : Call) (request : ApprovalRequest) (sending : Sending)
    (state : State) :
    (state.sent int keccak256 call request sending).1.service.requests = state.service.requests ∧
      ∀ requestId, requestId ∈ (state.sent int keccak256 call request sending).1.submitted ↔
        requestId ∈ state.submitted ∨
          (Taken int keccak256 request sending state ∧ requestId = call.requestId) := by
  unfold State.sent Taken
  cases numbered : agentNumber int request.agentId with
  | error raised => simp
  | ok nftId =>
    cases taken : (approveAction keccak256 sending nftId request.actionHash
        state.service.engine).1.2 with
    | nil =>
      dsimp only
      split <;> simp [State.wait, taken]
    | cons event events =>
      dsimp only
      split <;> simp [State.wait, taken]

/-- A submission keeps to the chain exactly if the engine does not take it, or the request is
not rejected. -/
theorem sent_exact {state : State} (sound : Sound state) (call : Call)
    (request : ApprovalRequest) (sending : Sending) :
    (Final state.service (state.sent int keccak256 call request sending).1.service ∧
        AgreesWithChain (state.sent int keccak256 call request sending).1) ↔
      (Taken int keccak256 request sending state → ∀ stored,
        state.service.requests call.requestId = some stored → stored.status ≠ .rejected) := by
  obtain ⟨rows, submitted⟩ := @sent_submitted int keccak256 call request sending state
  constructor
  · rintro ⟨_, agrees⟩ taken stored found
    apply agrees call.requestId ((submitted _).mpr (.inr ⟨taken, rfl⟩)) stored
    rw [rows]
    exact found
  · intro unrejected
    refine ⟨final_of_requests rows, ?_⟩
    intro requestId member other found
    rw [rows] at found
    rcases (submitted requestId).mp member with earlier | ⟨taken, rfl⟩
    · exact sound.agrees requestId earlier other found
    · exact unrejected taken other found

theorem sent_sound {state : State} (sound : Sound state) {call : Call}
    {request : ApprovalRequest} {sending : Sending}
    (snapshot : Snapshot state.service (call, .submitting request))
    (agrees : AgreesWithChain (state.sent int keccak256 call request sending).1) :
    Sound (state.sent int keccak256 call request sending).1 := by
  refine ⟨agrees, ?_⟩
  have next : Snapshot state.service (call, .updating request .approved) :=
    ⟨fun _ => snapshot.1, snapshot.2⟩
  unfold State.sent
  split
  · exact sound.snapshots
  · dsimp only
    split
    · intro other member
      rcases List.mem_append.mp member with earlier | last
      · exact sound.snapshots other earlier
      · rw [List.mem_singleton.mp last]
        exact next
    · exact sound.snapshots

/-- A new request is open, and changes no other. -/
theorem requestApproval_sound {state : State} (sound : Sound state) {requestId : String}
    (unused : state.service.requests requestId = none) (agentId userId target : String)
    (value : Int) (calldata : Calldata) (now expiryMinutes : Int) :
    let service := (requestApproval int address keccak256 requestId agentId userId target value
      calldata now expiryMinutes state.service).1
    Final state.service service ∧ Sound { state with service := service } := by
  intro service
  have rows : ∀ other stored, state.service.requests other = some stored →
      service.requests other = some stored := by
    intro other stored found
    have differ : other ≠ requestId := by
      intro same
      rw [same, unused] at found
      cases found
    simp only [service, requestApproval]
    split
    · exact found
    · simp only [Function.update_of_ne differ]
      exact found
  have fresh : ∀ other stored, service.requests other = some stored →
      state.service.requests other = some stored ∨ stored.status = .pending := by
    intro other stored found
    simp only [service, requestApproval] at found
    split at found
    · exact .inl found
    · by_cases same : other = requestId
      · subst same
        simp only [Function.update_self, Option.some.injEq] at found
        subst found
        exact .inr rfl
      · simp only [Function.update_of_ne same] at found
        exact .inl found
  have final : Final state.service service := by
    intro other stored found _
    exact ⟨stored, rows other stored found, rfl⟩
  refine ⟨final, ?_, ?_⟩
  · intro other submitted stored found rejected
    rcases fresh other stored found with earlier | pending
    · exact sound.agrees other submitted stored earlier rejected
    · rw [pending] at rejected
      cases rejected
  · intro call member
    apply (sound.snapshots call member).of_final final
    intro other present
    obtain ⟨stored, found⟩ := Option.isSome_iff_exists.mp present
    rw [rows other stored found]
    rfl

/-- Whether a write fits is asked of the call that is taken out. -/
theorem writeFits_takeOut {state : State} {index : Nat} {call : Call} {request : ApprovalRequest}
    {status : ApprovalStatus} {calls : List (Call × Point)}
    (taken : takeOut index state.calls = some ((call, .updating request status), calls)) :
    (∀ call request status, state.calls[index]? = some (call, .updating request status) →
        WriteFits state call request status) ↔
      WriteFits { state with calls := calls } call request status := by
  rw [takeOut_get taken]
  constructor
  · intro held
    exact held call request status rfl
  · intro held other request' status' same
    cases same
    exact held

/-- A step that is final and leads to a sound state is exact, where nothing is asked of it. -/
theorem exact_of_sound {before after : State} {condition : Prop}
    (final : Final before.service after.service) (held : Sound after) (always : condition) :
    ((Final before.service after.service ∧ AgreesWithChain after) ↔ condition) ∧
      (condition → Sound after) :=
  ⟨⟨fun _ => always, fun _ => ⟨final, held.agrees⟩⟩, fun _ => held⟩

/-- The submission of a call that is taken out. -/
theorem taken_sent_exact {before : State} (sound : Sound before) {index : Nat} {call : Call}
    {request : ApprovalRequest} {calls : List (Call × Point)} (sending : Sending)
    (taken : takeOut index before.calls = some ((call, .submitting request), calls)) :
    let after := (State.sent int keccak256 call request sending { before with calls := calls }).1
    ((Final before.service after.service ∧ AgreesWithChain after) ↔
        decidesInTime int keccak256 before (.sent index sending)) ∧
      (decidesInTime int keccak256 before (.sent index sending) → Sound after) := by
  intro after
  obtain ⟨snapshot, others⟩ := takeOut_sound sound taken
  have exact_ := @sent_exact int keccak256 _ others call request sending
  have condition : decidesInTime int keccak256 before (.sent index sending) ↔
      (Taken int keccak256 request sending { before with calls := calls } → ∀ stored,
        before.service.requests call.requestId = some stored → stored.status ≠ .rejected) := by
    simp only [decidesInTime, takeOut_get taken, Option.some.injEq, Prod.mk.injEq,
      Point.submitting.injEq, and_imp]
    constructor
    · intro held
      exact held call request rfl rfl
    · rintro held _ _ rfl rfl
      exact held
  rw [condition]
  exact ⟨exact_, fun held => sent_sound others snapshot (exact_.mpr held).2⟩

/-- The write of a call that is taken out, whether or not its answer comes. -/
theorem taken_write_exact {before : State} (sound : Sound before) {index : Nat} {call : Call}
    {request : ApprovalRequest} {status : ApprovalStatus} {calls : List (Call × Point)}
    (taken : takeOut index before.calls = some ((call, .updating request status), calls)) :
    let after := (State.updated call request status { before with calls := calls }).1
    ((Final before.service after.service ∧ AgreesWithChain after) ↔
        ∀ call request status, before.calls[index]? = some (call, .updating request status) →
          WriteFits before call request status) ∧
      ((∀ call request status, before.calls[index]? = some (call, .updating request status) →
          WriteFits before call request status) → Sound after) := by
  obtain ⟨snapshot, others⟩ := takeOut_sound sound taken
  rw [writeFits_takeOut taken, ← write_exact others snapshot]
  exact ⟨Iff.rfl, write_sound others⟩

/-- A step of a call that is taken out and fails. -/
theorem taken_abort_exact {before : State} (sound : Sound before) {index : Nat} {call : Call}
    {point : Point} {calls : List (Call × Point)} (done : Bool)
    (taken : takeOut index before.calls = some ((call, point), calls)) :
    let after := State.abort call point done { before with calls := calls }
    ((Final before.service after.service ∧ AgreesWithChain after) ↔
        decidesInTime int keccak256 before (.raised index done)) ∧
      (decidesInTime int keccak256 before (.raised index done) → Sound after) := by
  have others := (takeOut_sound sound taken).2
  -- a call that does not write leaves nothing to ask
  have nothing : (∀ request status, point ≠ .updating request status) →
      ∀ call request status, before.calls[index]? = some (call, .updating request status) →
        WriteFits before call request status := by
    intro other _ request status same
    rw [takeOut_get taken] at same
    cases same
    exact absurd rfl (other request status)
  cases done with
  | false =>
    cases point with
    | getting => exact exact_of_sound (final_of_requests rfl) others trivial
    | submitting request => exact exact_of_sound (final_of_requests rfl) others trivial
    | updating request status => exact exact_of_sound (final_of_requests rfl) others trivial
  | true =>
    cases point with
    | updating request status => exact taken_write_exact sound taken
    | getting => exact exact_of_sound (final_of_requests rfl) others (nothing (by simp))
    | submitting request => exact exact_of_sound (final_of_requests rfl) others (nothing (by simp))

/-- A step from a sound state is final and agrees with the chain exactly if it is in time, and
then leads to a sound state. -/
theorem step_exact {move : Move} {before after : State} {answer : Answer} (sound : Sound before)
    (accepted : step int address keccak256 move before = .ok (after, answer)) :
    ((Final before.service after.service ∧ AgreesWithChain after) ↔
        decidesInTime int keccak256 before move) ∧
      (decidesInTime int keccak256 before move → Sound after) := by
  cases move with
  | called call =>
    cases accepted
    refine exact_of_sound (final_of_requests rfl) (wait_sound sound ⟨trivial, ?_⟩) trivial
    intro request held
    cases held
  | got index now =>
    simp only [step] at accepted
    split at accepted
    · rename_i call calls taken
      obtain ⟨_, others⟩ := takeOut_sound sound taken
      obtain ⟨rows, _, held⟩ := got_sound others call now
      have stepped : (State.got call now { before with calls := calls }).1 = after :=
        congrArg Prod.fst (Except.ok.inj accepted)
      rw [stepped] at rows held
      exact exact_of_sound (final_of_requests (by rw [rows])) held trivial
    · cases accepted
  | sent index sending =>
    simp only [step] at accepted
    split at accepted
    · rename_i call request calls taken
      have stepped : (State.sent int keccak256 call request sending
          { before with calls := calls }).1 = after := congrArg Prod.fst (Except.ok.inj accepted)
      rw [← stepped]
      exact taken_sent_exact sound sending taken
    · cases accepted
  | updated index =>
    simp only [step] at accepted
    split at accepted
    · rename_i call request status calls taken
      cases accepted
      exact taken_write_exact sound taken
    · cases accepted
  | raised index done =>
    simp only [step] at accepted
    split at accepted
    · rename_i call point calls taken
      cases accepted
      exact taken_abort_exact sound done taken
    · cases accepted
  | requestApproval requestId agentId userId target value calldata now expiryMinutes =>
    simp only [step] at accepted
    split at accepted
    · cases accepted
    · rename_i unused
      cases accepted
      obtain ⟨final, held⟩ := @requestApproval_sound int address keccak256 _ sound _ unused agentId
        userId target value calldata now expiryMinutes
      exact exact_of_sound final held trivial
  | transact transaction =>
    simp only [step] at accepted
    split at accepted
    · cases accepted
      exact exact_of_sound (final_of_requests rfl) ⟨sound.agrees, sound.snapshots⟩ trivial
    · cases accepted

variable (int address keccak256) in
/-- Over every run: decided requests keep their status and none that was submitted is rejected,
exactly if all calls go on in time. -/
theorem decisions_final_iff (service : HumanApproval.State) (moves : List Move) :
    (∀ entry ∈ (history int address keccak256 service moves).past,
        Final entry.before.service entry.after.service ∧ AgreesWithChain entry.after) ↔
      Meets (decidesInTime int keccak256) (history int address keccak256 service moves).past := by
  apply run_steps_iff (step int address keccak256) (.begin_ service) Sound
    (fun entry => Final entry.before.service entry.after.service ∧ AgreesWithChain entry.after)
  · refine ⟨?_, ?_⟩
    · intro requestId submitted
      cases submitted
    · intro call member
      cases member
  · intro now move after answer sound accepted
    exact (step_exact sound accepted).1
  · intro now move after answer sound accepted condition
    exact (step_exact sound accepted).2 condition

end Conversions

/-- An open request of agent 7, and a newly deployed engine. -/
def opened : HumanApproval.State :=
  ⟨fun requestId => if requestId = "r1" then
      some ⟨"7", "owner", "0x06", 60, .empty, .pending, 30, 9#256⟩ else none,
    (Policy.deploy ⟨1#160, 0#256⟩ 1#160).1⟩

/-- The owner approves, the engine takes it, and then the owner rejects. -/
def changedMind : List Move :=
  [.transact ⟨⟨1#160, 0#256⟩, .grantHumanApproverRole 4#160⟩,
    .called ⟨.approve, "r1", "owner"⟩, .got 0 1, .sent 0 ⟨some ⟨4#160, 0#256⟩, true⟩, .updated 0,
    .called ⟨.reject, "r1", "owner"⟩, .got 0 2, .updated 0]

def sevenOnly (text : String) : Option Int := if text = "7" then some 7 else none

def overturned : Trace State Move Answer :=
  history sevenOnly (fun _ => none) (fun _ => 0#256) opened changedMind

theorem overturned_length : 7 < overturned.past.length := by decide +kernel

/-- The request was approved on the chain, and is rejected. -/
theorem decisions_final_overturned :
    ¬ ∀ (int : String → Option Int) (address : String → Option Address)
      (keccak256 : List Byte → Bytes32) (service : HumanApproval.State) (moves : List Move),
      ∀ entry ∈ (history int address keccak256 service moves).past,
        Final entry.before.service entry.after.service ∧ AgreesWithChain entry.after := by
  intro always
  have last := always sevenOnly (fun _ => none) (fun _ => 0#256) opened changedMind
    (overturned.past.get ⟨7, overturned_length⟩) (List.get_mem _ _)
  apply last.2 "r1" (by decide +kernel)
    ⟨"7", "owner", "0x06", 60, .empty, .rejected, 30, 9#256⟩ (by decide +kernel)
  rfl

end BigX.Wallet.ApprovalDecisions
