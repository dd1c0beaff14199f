import BigX.Bridge.Ledger
import BigX.Bridge.MockWbtc
import BigX.Custody.Redemption
import BigX.Run.Credits

set_option autoImplicit false

/- From the peg-out to the native payment: the redemption services read the bridge while
anybody's transactions go on between any two of their steps. -/
namespace BigX.Custody.Redeemed

open Evm Run

/-- A service and what the bridge last said of the peg-out that it is at. -/
structure Service where
  redemptions : Redemptions
  status : Option PegOutStatus
  statusAgain : Option PegOutStatus

structure System (token : Erc20) (bridge : Address) where
  evm : Trace (Bridge.State token) (Bridge.Transaction bridge) (List Bridge.Event)
  services : Address → Service

variable {token : Erc20} {bridge : Address}

/-- A transaction of anybody, a service's confirmation among them; a service begins a round,
reads the bridge, reads it again after its confirmation, or is through with a peg-out. -/
inductive Move (bridge : Address)
  | submitted (transaction : Bridge.Transaction bridge)
  | round (service : Address) (pendingPegOutIds : List Nat)
  | read (service : Address)
  | readAgain (service : Address)
  | processed (service : Address) (answers : Answers)

/-- `request_peg_out_status`; an id that is no `uint256` is not encoded. -/
def requestPegOutStatus (pegOutId : Nat) (state : Bridge.State token) : Option PegOutStatus :=
  if pegOutId < 2 ^ 256 then
    let request := state.pegOutRequests (BitVec.ofNat 256 pegOutId)
    some ⟨request.amount.toNat, request.btcAddress, request.executed⟩
  else none

/-- A call answers what was read, or raises. -/
def Answered (read answer : Option PegOutStatus) : Prop :=
  answer = none ∨ answer = read

instance (read answer : Option PegOutStatus) : Decidable (Answered read answer) :=
  inferInstanceAs (Decidable (_ ∨ _))

def Service.advance (service : Service) (move : RedemptionMove) : Except String Service := do
  let (after, _) ← processPendingRedemptions move service.redemptions
  return ⟨after, none, none⟩

def step (move : Move bridge) (system : System token bridge) :
    Except String (System token bridge × Unit) :=
  match move with
  | .submitted transaction =>
      .ok ({ system with evm := system.evm.extend (Bridge.transact bridge) transaction }, ())
  | .round service pendingPegOutIds => do
      let after ← (system.services service).advance (.round pendingPegOutIds)
      .ok ({ system with services := Function.update system.services service after }, ())
  | .read service =>
      let before := system.services service
      let status := before.redemptions.pendingPegOutIds.head?.bind fun pegOutId =>
        requestPegOutStatus pegOutId system.evm.now
      .ok ({ system with
        services := Function.update system.services service
          { before with status := status } }, ())
  | .readAgain service =>
      let before := system.services service
      let status := before.redemptions.pendingPegOutIds.head?.bind fun pegOutId =>
        requestPegOutStatus pegOutId system.evm.now
      .ok ({ system with
        services := Function.update system.services service
          { before with statusAgain := status } }, ())
  | .processed service answers =>
      let before := system.services service
      if Answered before.status answers.status ∧
          Answered before.statusAgain answers.statusAgain then do
        let after ← before.advance (.next answers)
        .ok ({ system with services := Function.update system.services service after }, ())
      else .error "not what was read"

def System.initial (start : Bridge.State token) : System token bridge :=
  ⟨⟨[], start⟩, fun _ => ⟨.initial, none, none⟩⟩

abbrev history (start : Bridge.State token) (moves : List (Move bridge)) :
    Trace (System token bridge) (Move bridge) Unit :=
  run step (System.initial start) moves

/-- The peg-out was requested with this address and amount, and executed after that. -/
def Owed (events : List Bridge.Event) (pegOutId : Nat) (btcAddress : String) (amount : Nat) :
    Prop :=
  ∃ id requester wei earlier later, id.toNat = pegOutId ∧ wei.toNat = amount ∧
    events = earlier ++ .pegOutRequested id requester wei btcAddress :: later ∧
    .pegOutExecuted id ∈ later

/-- What a service may pay: what is owed, or nothing to nobody. -/
def Payable (events : List Bridge.Event) (pegOutId : Nat) (btcAddress : String) (amount : Nat) :
    Prop :=
  Owed events pegOutId btcAddress amount ∨ btcAddress = "" ∧ amount = 0

/-- The payments of a service that are of something, with the peg-outs they are for. -/
def payments (redemptions : Redemptions) : List (Nat × Nat) :=
  redemptions.happened.filterMap fun
    | .sentNativeBtc pegOutId _ amount _ => if amount = 0 then none else some (pegOutId, amount)
    | _ => none

/-- What has been requested. -/
def requested (events : List Bridge.Event) : List (Nat × Nat) :=
  events.filterMap fun
    | .pegOutRequested id _ amount _ => some (id.toNat, amount.toNat)
    | _ => none

theorem Owed.mono {events later : List Bridge.Event} {pegOutId : Nat} {btcAddress : String}
    {amount : Nat} (owed : Owed events pegOutId btcAddress amount) :
    Owed (events ++ later) pegOutId btcAddress amount := by
  obtain ⟨id, requester, wei, before, after, named, paid, rfl, executed⟩ := owed
  refine ⟨id, requester, wei, before, after ++ later, named, paid, ?_, ?_⟩
  · rw [List.append_assoc, List.cons_append]
  · exact List.mem_append_left later executed

theorem Payable.mono {events later : List Bridge.Event} {pegOutId : Nat} {btcAddress : String}
    {amount : Nat} (payable : Payable events pegOutId btcAddress amount) :
    Payable (events ++ later) pegOutId btcAddress amount :=
  payable.imp_left Owed.mono

/-- The stored request is the one of the event, and has been executed after it if it is. -/
def Recorded (events : List Bridge.Event) (id : Uint256) (request : Bridge.PegOutRequest) : Prop :=
  ∃ earlier later, events = earlier ++
      .pegOutRequested id request.requester request.amount request.btcAddress :: later ∧
    (request.executed = true → .pegOutExecuted id ∈ later)

theorem Recorded.mono {events : List Bridge.Event} {id : Uint256} {request : Bridge.PegOutRequest}
    (recorded : Recorded events id request) (emitted : List Bridge.Event) :
    Recorded (events ++ emitted) id request := by
  obtain ⟨earlier, later, rfl, done⟩ := recorded
  refine ⟨earlier, later ++ emitted, ?_, ?_⟩
  · rw [List.append_assoc, List.cons_append]
  · intro executed
    exact List.mem_append_left emitted (done executed)

/-- The stored peg-outs, told from the events. -/
structure Asked (events : List Bridge.Event) (now : Bridge.State token) : Prop where
  unmade : ∀ id, now.nextPegOutId.toNat ≤ id.toNat →
    (now.pegOutRequests id).btcAddress = "" ∧ (now.pegOutRequests id).amount = 0#256
  made : ∀ id, id.toNat < now.nextPegOutId.toNat → Recorded events id (now.pegOutRequests id)

theorem Asked.payable {events : List Bridge.Event} {now : Bridge.State token}
    (asked : Asked events now) {pegOutId : Nat} {status : PegOutStatus}
    (read : requestPegOutStatus pegOutId now = some status) (executed : status.executed = true) :
    Payable events pegOutId status.btcAddress status.amount := by
  unfold requestPegOutStatus at read
  split_ifs at read with bound
  cases read
  have named : (BitVec.ofNat 256 pegOutId).toNat = pegOutId := by
    rw [BitVec.toNat_ofNat, Nat.mod_eq_of_lt bound]
  by_cases made : (BitVec.ofNat 256 pegOutId).toNat < now.nextPegOutId.toNat
  · obtain ⟨earlier, later, same, done⟩ := asked.made _ made
    left
    exact ⟨_, _, _, earlier, later, named, rfl, same, done executed⟩
  · obtain ⟨address, amount⟩ := asked.unmade _ (Nat.le_of_not_lt made)
    right
    refine ⟨address, ?_⟩
    dsimp only
    rw [amount]
    rfl

theorem Asked.request {events emitted : List Bridge.Event} {before after : Bridge.State token}
    {message : Message} {amount nextPegOutId : Uint256} {btcAddress : String}
    {ledger : token.Ledger} (asked : Asked events before)
    (step : Bridge.RequestStep bridge message amount btcAddress before after emitted nextPegOutId
      ledger) : Asked (events ++ emitted) after := by
  have advanced := step.advanced
  rw [step.after_eq, step.events_eq]
  constructor
  · intro id beyond
    dsimp only at beyond ⊢
    have other : id ≠ before.nextPegOutId := by
      intro same
      rw [same] at beyond
      omega
    rw [Function.update_of_ne other]
    exact asked.unmade id (by omega)
  · intro id made
    dsimp only at made ⊢
    by_cases same : id = before.nextPegOutId
    · rw [same, Function.update_self]
      exact ⟨events, [], rfl, fun executed => absurd executed Bool.false_ne_true⟩
    · rw [Function.update_of_ne same]
      have different : id.toNat ≠ before.nextPegOutId.toNat := fun equal =>
        same (BitVec.eq_of_toNat_eq equal)
      exact (asked.made id (by omega)).mono _

theorem Asked.confirm {events emitted : List Bridge.Event} {before after : Bridge.State token}
    {message : Message} {id confirmations withdrawn resetDay : Uint256} {executed : Bool}
    (asked : Asked events before)
    (step : Bridge.PegOutStep message id before after emitted confirmations executed withdrawn
      resetDay) : Asked (events ++ emitted) after := by
  have kept (other : Uint256) :
      (after.pegOutRequests other).requester = (before.pegOutRequests other).requester ∧
        (after.pegOutRequests other).amount = (before.pegOutRequests other).amount ∧
        (after.pegOutRequests other).btcAddress = (before.pegOutRequests other).btcAddress := by
    rw [step.after_eq]
    by_cases same : other = id
    · rw [same]
      simp only [Function.update_self, and_self]
    · simp only [Function.update_of_ne same, and_self]
  have next : after.nextPegOutId = before.nextPegOutId := by rw [step.after_eq]
  constructor
  · intro other beyond
    rw [next] at beyond
    rw [(kept other).2.1, (kept other).2.2]
    exact asked.unmade other beyond
  · intro other made
    rw [next] at made
    obtain ⟨earlier, later, rfl, done⟩ := asked.made other made
    refine ⟨earlier, later ++ emitted, ?_, ?_⟩
    · rw [(kept other).1, (kept other).2.1, (kept other).2.2, List.append_assoc, List.cons_append]
    · intro now
      rw [step.after_eq] at now
      by_cases same : other = id
      · subst same
        simp only [Function.update_self] at now
        rw [step.events_eq, if_pos now]
        exact List.mem_append_right later (List.mem_cons_of_mem _ List.mem_cons_self)
      · simp only [Function.update_of_ne same] at now
        exact List.mem_append_left emitted (done now)

theorem Asked.step {events emitted : List Bridge.Event} {before after : Bridge.State token}
    {message : Message} {call : Bridge.Call} (asked : Asked events before)
    (step : Bridge.Step bridge message before after emitted call) :
    Asked (events ++ emitted) after := by
  rcases step.pegOut_cases with ⟨_, _, _, _, _, request⟩ | ⟨_, _, _, _, _, _, confirm⟩ | frame
  · exact asked.request request
  · exact asked.confirm confirm
  · constructor
    · rw [frame.requests, frame.nextPegOutId]
      exact asked.unmade
    · rw [frame.requests, frame.nextPegOutId]
      intro id made
      exact (asked.made id made).mono emitted

theorem Asked.start {message : Message} {wrappedBtc : token.Ledger} {admin : Address}
    {initialRelayers : List Address} {threshold : Uint256} {start : Bridge.State token}
    (deployed : Bridge.Deployed message wrappedBtc admin initialRelayers threshold start) :
    Asked [] start := by
  constructor
  · intro id _
    rw [deployed.pegOutRequests]
    exact ⟨rfl, rfl⟩
  · intro id made
    rw [deployed.nextPegOutId] at made
    exact absurd made (Nat.not_lt_zero _)

/-- Whatever is paid for a peg-out has been read of it, as executed. -/
theorem processOne_sent {pegOutId : Nat} {answers : Answers} {paidFor : Nat} {btcAddress : String}
    {amount : Nat} {btcTxid : String}
    (sent : .sentNativeBtc paidFor btcAddress amount btcTxid ∈ (processOne pegOutId answers).1) :
    paidFor = pegOutId ∧ ∃ status, (answers.status = some status ∨
      answers.statusAgain = some status) ∧ status.executed = true ∧
      status.btcAddress = btcAddress ∧ status.amount = amount := by
  have finalized (status : PegOutStatus)
      (paid : .sentNativeBtc paidFor btcAddress amount btcTxid ∈
        (finalize pegOutId status answers).1) :
      paidFor = pegOutId ∧ status.btcAddress = btcAddress ∧ status.amount = amount := by
    have recorded (outcome : CallOutcome Unit) (txid : Option String)
        (redemption : RedemptionStatus) :
        Happened.sentNativeBtc paidFor btcAddress amount btcTxid ∉
          recordRedemption pegOutId txid redemption outcome := by
      intro member
      obtain ⟨_, _, same⟩ := List.mem_map.mp member
      cases same
    have here : Happened.sentNativeBtc paidFor btcAddress amount btcTxid ∈
        sendNativeBtc pegOutId status.btcAddress status.amount answers.sendNativeBtc := by
      unfold finalize failRedemption at paid
      split at paid
      · rcases List.mem_append.mp paid with first | other
        · exact first
        · exact absurd other (recorded _ _ _)
      · split at paid
        · rcases List.mem_append.mp paid with first | other
          · exact first
          · exact absurd other (recorded _ _ _)
        · rcases List.mem_append.mp paid with first | other
          · rcases List.mem_append.mp first with again | also
            · exact again
            · exact absurd also (recorded _ _ _)
          · exact absurd other (recorded _ _ _)
    obtain ⟨_, _, same⟩ := List.mem_map.mp here
    cases same
    exact ⟨rfl, rfl, rfl⟩
  unfold processOne at sent
  dsimp only at sent
  split at sent
  · cases sent
  · rename_i status read
    split at sent
    · rename_i executed
      obtain ⟨named, address, paid⟩ := finalized status sent
      exact ⟨named, status, Or.inl read, executed, address, paid⟩
    · split at sent
      · split at sent
        · cases sent
        · rename_i again readAgain
          split at sent
          · rename_i executed
            obtain ⟨named, address, paid⟩ := finalized again sent
            exact ⟨named, again, Or.inr readAgain, executed, address, paid⟩
          · cases sent
      · cases sent

/-- What a service has read may be paid, and so may what it has paid. -/
structure Service.Sound (events : List Bridge.Event) (service : Service) : Prop where
  read : ∀ status, service.status = some status ∨ service.statusAgain = some status →
    ∀ pegOutId ∈ service.redemptions.pendingPegOutIds.head?, status.executed = true →
      Payable events pegOutId status.btcAddress status.amount
  paid : ∀ pegOutId btcAddress amount btcTxid,
    .sentNativeBtc pegOutId btcAddress amount btcTxid ∈ service.redemptions.happened →
      Payable events pegOutId btcAddress amount

theorem Service.Sound.mono {events later : List Bridge.Event} {service : Service}
    (sound : service.Sound events) : service.Sound (events ++ later) := by
  constructor
  · intro status read pegOutId current executed
    exact (sound.read status read pegOutId current executed).mono
  · intro pegOutId btcAddress amount btcTxid sent
    exact (sound.paid pegOutId btcAddress amount btcTxid sent).mono

theorem Service.Sound.round {events : List Bridge.Event} {service after : Service}
    (sound : service.Sound events) {pendingPegOutIds : List Nat}
    (accepted : service.advance (.round pendingPegOutIds) = .ok after) : after.Sound events := by
  unfold Service.advance processPendingRedemptions at accepted
  dsimp only at accepted
  split at accepted
  · cases accepted
    constructor
    · rintro status (read | read) <;> cases read
    · exact sound.paid
  · cases accepted

theorem Service.Sound.processed {events : List Bridge.Event} {service after : Service}
    (sound : service.Sound events) {answers : Answers}
    (first : Answered service.status answers.status)
    (second : Answered service.statusAgain answers.statusAgain)
    (accepted : service.advance (.next answers) = .ok after) : after.Sound events := by
  unfold Service.advance processPendingRedemptions at accepted
  dsimp only at accepted
  cases pending : service.redemptions.pendingPegOutIds with
  | nil =>
    rw [pending] at accepted
    cases accepted
  | cons pegOutId rest =>
    rw [pending] at accepted
    have current : pegOutId ∈ service.redemptions.pendingPegOutIds.head? := by
      rw [pending]
      rfl
    have reads : ∀ read answer status, Answered read answer → answer = some status →
        read = some status := by
      rintro read answer status (raised | same) found
      · rw [raised] at found
        cases found
      · rw [← same]
        exact found
    have paid : ∀ paidFor btcAddress amount btcTxid,
        .sentNativeBtc paidFor btcAddress amount btcTxid ∈
          service.redemptions.happened ++ (processOne pegOutId answers).1 →
        Payable events paidFor btcAddress amount := by
      intro paidFor btcAddress amount btcTxid member
      rcases List.mem_append.mp member with earlier | last
      · exact sound.paid paidFor btcAddress amount btcTxid earlier
      · obtain ⟨rfl, status, answered, executed, rfl, rfl⟩ := processOne_sent last
        apply sound.read status _ _ current executed
        exact answered.imp (reads _ _ status first) (reads _ _ status second)
    have silent (redemptions : Redemptions) (status : PegOutStatus)
        (read : (⟨redemptions, none, none⟩ : Service).status = some status ∨
          (⟨redemptions, none, none⟩ : Service).statusAgain = some status) : False := by
      rcases read with read | read <;> cases read
    cases result : (processOne pegOutId answers).2 with
    | none =>
      simp only [result] at accepted
      cases accepted
      exact ⟨fun status read => (silent _ status read).elim, paid⟩
    | some outcome =>
      simp only [result] at accepted
      cases accepted
      exact ⟨fun status read => (silent _ status read).elim, paid⟩

structure Kept (system : System token bridge) : Prop where
  asked : Asked (Bridge.emitted system.evm.past) system.evm.now
  services : ∀ service, (system.services service).Sound (Bridge.emitted system.evm.past)

theorem Kept.start {start : Bridge.State token} (asked : Asked [] start) :
    Kept (System.initial start : System token bridge) := by
  refine ⟨asked, ?_⟩
  intro service
  constructor
  · rintro status (read | read) <;> cases read
  · intro pegOutId btcAddress amount btcTxid sent
    cases sent

/-- A step of one service. -/
theorem Kept.update {system : System token bridge} (kept : Kept system) (service : Address)
    {after : Service} (sound : after.Sound (Bridge.emitted system.evm.past)) :
    Kept { system with services := Function.update system.services service after } := by
  refine ⟨kept.asked, ?_⟩
  intro other
  by_cases same : other = service
  · rw [same]
    simp only [Function.update_self]
    exact sound
  · simp only [Function.update_of_ne same]
    exact kept.services other

theorem Kept.transact {system : System token bridge} (kept : Kept system)
    (transaction : Bridge.Transaction bridge) :
    Kept { system with evm := system.evm.extend (Bridge.transact bridge) transaction } := by
  cases attempt : Bridge.transact bridge transaction system.evm.now with
  | error reason =>
    rw [extend_error _ _ _ reason attempt]
    exact kept
  | ok result =>
    rw [extend_ok _ _ _ result.1 result.2 attempt]
    have step := Bridge.transact_step bridge transaction system.evm.now result.1 result.2 attempt
    constructor
    · rw [Bridge.emitted_snoc]
      exact kept.asked.step step
    · rw [Bridge.emitted_snoc]
      intro service
      exact (kept.services service).mono

/-- What a service reads of the peg-out it is at may be paid if it is executed. -/
theorem Kept.reading {system : System token bridge} (kept : Kept system) (service : Address)
    {status : PegOutStatus}
    (read : (system.services service).redemptions.pendingPegOutIds.head?.bind (fun pegOutId =>
      requestPegOutStatus pegOutId system.evm.now) = some status)
    {pegOutId : Nat}
    (current : pegOutId ∈ (system.services service).redemptions.pendingPegOutIds.head?)
    (executed : status.executed = true) :
    Payable (Bridge.emitted system.evm.past) pegOutId status.btcAddress status.amount := by
  rw [Option.mem_def] at current
  rw [current] at read
  exact kept.asked.payable read executed

theorem step_kept {move : Move bridge} {now after : System token bridge} {output : Unit}
    (kept : Kept now) (accepted : step move now = .ok (after, output)) : Kept after := by
  cases move with
  | submitted transaction =>
    cases accepted
    exact kept.transact transaction
  | round service pendingPegOutIds =>
    simp only [step] at accepted
    cases advanced : (now.services service).advance (.round pendingPegOutIds) with
    | error reason =>
      rw [advanced] at accepted
      cases accepted
    | ok next =>
      rw [advanced] at accepted
      cases accepted
      exact kept.update service ((kept.services service).round advanced)
  | read service =>
    cases accepted
    apply kept.update service
    refine ⟨?_, (kept.services service).paid⟩
    rintro status (read | read) pegOutId current executed
    · exact kept.reading service read current executed
    · exact (kept.services service).read status (Or.inr read) pegOutId current executed
  | readAgain service =>
    cases accepted
    apply kept.update service
    refine ⟨?_, (kept.services service).paid⟩
    rintro status (read | read) pegOutId current executed
    · exact (kept.services service).read status (Or.inl read) pegOutId current executed
    · exact kept.reading service read current executed
  | processed service answers =>
    simp only [step] at accepted
    split at accepted
    · rename_i answered
      cases advanced : (now.services service).advance (.next answers) with
      | error reason =>
        rw [advanced] at accepted
        cases accepted
      | ok next =>
        rw [advanced] at accepted
        cases accepted
        exact kept.update service
          ((kept.services service).processed answered.1 answered.2 advanced)
    · cases accepted

theorem amounts_requested (events : List Bridge.Event) :
    amounts (requested events) = (events.map Bridge.Event.requested).sum := by
  induction events with
  | nil => rfl
  | cons event rest ih =>
    rw [List.map_cons, List.sum_cons, ← ih]
    cases event <;> simp [requested, amounts, Bridge.Event.requested]

theorem Owed.requested {events : List Bridge.Event} {pegOutId : Nat} {btcAddress : String}
    {amount : Nat} (owed : Owed events pegOutId btcAddress amount) :
    (pegOutId, amount) ∈ requested events := by
  obtain ⟨id, requester, wei, earlier, later, rfl, rfl, rfl, _⟩ := owed
  apply List.mem_filterMap.mpr
  exact ⟨.pegOutRequested id requester wei btcAddress,
    List.mem_append_right earlier List.mem_cons_self, rfl⟩

/-- A payment of something is for a request. -/
theorem Service.Sound.payments {events : List Bridge.Event} {service : Service}
    (sound : service.Sound events) {payment : Nat × Nat}
    (member : payment ∈ payments service.redemptions) : payment ∈ requested events := by
  obtain ⟨happened, took, is⟩ := List.mem_filterMap.mp member
  cases happened with
  | recorded => cases is
  | sentNativeBtc pegOutId btcAddress amount btcTxid =>
    dsimp only at is
    split_ifs at is with nothing
    cases is
    rcases sound.paid pegOutId btcAddress amount btcTxid took with owed | ⟨_, zero⟩
    · exact owed.requested
    · exact absurd zero nothing

/-- Whatever the services read in between, each pays only what a peg-out asked for that was
executed, to the address it asked for; and the peg-outs that they pay for, however often, come
to no more than the tokens that have been locked. -/
theorem redemptions_owed (bridge : Address) (message : Message) (wrappedBtc : token.Ledger)
    (admin : Address) (initialRelayers : List Address) (threshold : Uint256)
    (start : Bridge.State token) (events : List Bridge.Event)
    (deployed : Bridge.deploy message wrappedBtc admin initialRelayers threshold =
      .ok (start, events))
    (moves : List (Move bridge)) :
    (∀ service pegOutId btcAddress amount btcTxid,
        .sentNativeBtc pegOutId btcAddress amount btcTxid ∈
          ((history start moves).now.services service).redemptions.happened →
        Payable (Bridge.emitted (history start moves).now.evm.past) pegOutId btcAddress
          amount) ∧
      ∀ services : List Address,
        amounts (services.flatMap fun service =>
            payments ((history start moves).now.services service).redemptions).dedup ≤
          Bridge.totalRequested (history start moves).now.evm.past := by
  have asked := Asked.start
    (Bridge.deploy_ok message wrappedBtc admin initialRelayers threshold start events deployed)
  have kept := run_induction step (System.initial start) (fun _ now => Kept now)
    (Kept.start asked) (fun _ _ _ _ _ held accepted => step_kept held accepted) moves
  refine ⟨fun service => (kept.services service).paid, ?_⟩
  intro services
  have total : Bridge.totalRequested (history start moves).now.evm.past =
      amounts (requested (Bridge.emitted (history start moves).now.evm.past)) := by
    rw [amounts_requested]
    rfl
  rw [total]
  apply Credits.sum_le
  refine ⟨?_, List.nodup_dedup _⟩
  intro payment member
  obtain ⟨service, _, paid⟩ := List.mem_flatMap.mp (List.mem_dedup.mp member)
  exact (kept.services service).payments paid

/-- What a service is told of a peg-out that is executed or not, when nothing fails. -/
def sampleAnswers (executed : Bool) : Answers where
  status := some ⟨7, "bc1q", executed⟩
  confirmed := true
  statusAgain := if executed then none else some ⟨7, "bc1q", false⟩
  sendNativeBtc := .returned "t1"
  recordSent := .returned ()
  recordFailed := .returned ()

theorem outside_1 : (1#160 : Address) ≠ 9#160 := by decide
theorem outside_2 : (2#160 : Address) ≠ 9#160 := by decide
theorem outside_3 : (3#160 : Address) ≠ 9#160 := by decide

/-- The first relayer's service comes too early; the second one's pays. -/
def sampleMoves : List (Move 9#160) :=
  [.submitted ⟨⟨1#160, 0#256⟩, .wrappedBtc (.approve 9#160 7#256), outside_1⟩,
    .submitted ⟨⟨1#160, 100#256⟩, .requestPegOut 7#256 "bc1q", outside_1⟩,
    .round 2#160 [0], .read 2#160,
    .submitted ⟨⟨2#160, 4000#256⟩, .confirmPegOut 0#256, outside_2⟩,
    .readAgain 2#160, .processed 2#160 (sampleAnswers false),
    .submitted ⟨⟨3#160, 5000#256⟩, .confirmPegOut 0#256, outside_3⟩,
    .round 3#160 [0], .read 3#160, .processed 3#160 (sampleAnswers true)]

theorem redemptions_owed_second :
    ∃ (start : Bridge.State Bridge.MockWbtc.token) (events : List Bridge.Event),
      Bridge.deploy ⟨1#160, 0#256⟩ (Bridge.MockWbtc.create 1#160 50#256) 1#160
        [2#160, 3#160] 2#256 = .ok (start, events) ∧
      payments ((history start sampleMoves).now.services 2#160).redemptions = [] ∧
      payments ((history start sampleMoves).now.services 3#160).redemptions = [(0, 7)] ∧
      amounts ([2#160, 3#160].flatMap fun service =>
          payments ((history start sampleMoves).now.services service).redemptions).dedup ≤
        Bridge.totalRequested (history start sampleMoves).now.evm.past := by
  have held := @redemptions_owed Bridge.MockWbtc.token 9#160 ⟨1#160, 0#256⟩
    (Bridge.MockWbtc.create 1#160 50#256) 1#160 [2#160, 3#160] 2#256 _ _ rfl sampleMoves
  exact ⟨_, _, rfl, by decide +kernel, by decide +kernel, held.2 [2#160, 3#160]⟩

end BigX.Custody.Redeemed
