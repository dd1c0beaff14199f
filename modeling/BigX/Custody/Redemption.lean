import BigX.Run.Trace

set_option autoImplicit false

/- The service that sends native BTC for executed peg-outs. The custody signer, the bridge
and the table of redemptions answer from outside, and each of them may raise before or after
it did what it was asked for. -/
namespace BigX.Custody

inductive RedemptionStatus
  | sent
  | failed
  | waitingForTimelock
  deriving DecidableEq

structure RedemptionResult where
  pegOutId : Nat
  btcTxid : Option String
  status : RedemptionStatus
  deriving DecidableEq

/-- What the service reads of `request_peg_out_status`. -/
structure PegOutStatus where
  amount : Nat
  btcAddress : String
  executed : Bool
  deriving DecidableEq

/-- How a call ends: a call that raises may have taken effect. -/
inductive CallOutcome (α : Type)
  | returned (value : α)
  | raised (effect : Option α)
  deriving DecidableEq

def CallOutcome.effect {α : Type} : CallOutcome α → Option α
  | .returned value => some value
  | .raised effect => effect

def CallOutcome.isReturned {α : Type} : CallOutcome α → Bool
  | .returned _ => true
  | .raised _ => false

/-- What the outside does while one peg-out is processed. A status is `none` when the call
for it raises. -/
structure Answers where
  status : Option PegOutStatus
  confirmed : Bool
  statusAgain : Option PegOutStatus
  sendNativeBtc : CallOutcome String
  recordSent : CallOutcome Unit
  recordFailed : CallOutcome Unit
  deriving DecidableEq

/-- What took effect outside. -/
inductive Happened
  | sentNativeBtc (pegOutId : Nat) (btcAddress : String) (amount : Nat) (btcTxid : String)
  | recorded (pegOutId : Nat) (btcTxid : Option String) (status : RedemptionStatus)
  deriving DecidableEq

/-- `_record_redemption` -/
def recordRedemption (pegOutId : Nat) (btcTxid : Option String) (status : RedemptionStatus)
    (outcome : CallOutcome Unit) : List Happened :=
  outcome.effect.toList.map fun _ => .recorded pegOutId btcTxid status

/-- `_send_native_btc` -/
def sendNativeBtc (pegOutId : Nat) (btcAddress : String) (amount : Nat)
    (outcome : CallOutcome String) : List Happened :=
  outcome.effect.toList.map (.sentNativeBtc pegOutId btcAddress amount)

/-- The `except` branch of `_finalize`; no result when the record raises. -/
def failRedemption (pegOutId : Nat) (answers : Answers) :
    List Happened × Option RedemptionResult :=
  (recordRedemption pegOutId none .failed answers.recordFailed,
   if answers.recordFailed.isReturned then some ⟨pegOutId, none, .failed⟩ else none)

/-- `_finalize`: what took effect, and the result unless it raises. -/
def finalize (pegOutId : Nat) (status : PegOutStatus) (answers : Answers) :
    List Happened × Option RedemptionResult :=
  let sent := sendNativeBtc pegOutId status.btcAddress status.amount answers.sendNativeBtc
  match answers.sendNativeBtc with
  | .raised _ =>
      let failed := failRedemption pegOutId answers
      (sent ++ failed.1, failed.2)
  | .returned btcTxid =>
      let recorded := recordRedemption pegOutId (some btcTxid) .sent answers.recordSent
      if answers.recordSent.isReturned then
        (sent ++ recorded, some ⟨pegOutId, some btcTxid, .sent⟩)
      else
        let failed := failRedemption pegOutId answers
        (sent ++ recorded ++ failed.1, failed.2)

/-- `_process_one` -/
def processOne (pegOutId : Nat) (answers : Answers) : List Happened × Option RedemptionResult :=
  let waiting : RedemptionResult := ⟨pegOutId, none, .waitingForTimelock⟩
  match answers.status with
  | none => ([], none)
  | some status =>
      if status.executed then finalize pegOutId status answers
      else if answers.confirmed then
        match answers.statusAgain with
        | none => ([], some waiting)
        | some again =>
            if again.executed then
              -- what `_finalize` raises here is taken for a peg-out that is not ready
              let finalized := finalize pegOutId again answers
              (finalized.1, some (finalized.2.getD waiting))
            else ([], some waiting)
      else ([], some waiting)

/-- A round under way, and what took effect since the service started, oldest first. -/
structure Redemptions where
  pendingPegOutIds : List Nat
  results : List RedemptionResult
  happened : List Happened

def Redemptions.initial : Redemptions := ⟨[], [], []⟩

/-- A round begins, or the loop of `process_pending_redemptions` comes to its next id. -/
inductive RedemptionMove
  | round (pendingPegOutIds : List Nat)
  | next (answers : Answers)

/-- A peg-out that raises ends its round; a new one begins when the last is over. -/
def processPendingRedemptions (move : RedemptionMove) (state : Redemptions) :
    Except String (Redemptions × Unit) :=
  match move with
  | .round pendingPegOutIds =>
      if state.pendingPegOutIds.isEmpty then
        .ok ({ state with pendingPegOutIds := pendingPegOutIds, results := [] }, ())
      else .error "in a round"
  | .next answers =>
      match state.pendingPegOutIds with
      | [] => .error "the round is over"
      | pegOutId :: rest =>
          let processed := processOne pegOutId answers
          let happened := state.happened ++ processed.1
          match processed.2 with
          | none => .ok (⟨[], [], happened⟩, ())
          | some result => .ok (⟨rest, state.results ++ [result], happened⟩, ())

/-- Every move in turn, from a service that has just started. -/
abbrev redemptionHistory (moves : List RedemptionMove) :
    Run.Trace Redemptions RedemptionMove Unit :=
  Run.run processPendingRedemptions .initial moves

end BigX.Custody
