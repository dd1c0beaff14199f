import BigX.Run.Trace
import Mathlib.Data.Rat.Floor
import Mathlib.Logic.Function.Basic

set_option autoImplicit false

/- The monitor that attests the deposits on watched Bitcoin addresses to the bridge. Each
call to Bitcoin Core is a step of its own: transactions arrive, and gain or lose
confirmations, between any two of them. -/
namespace BigX.Custody

/-- A transaction with its outputs, in satoshis. -/
structure Tx where
  txid : String
  outputs : List (String × Nat)
  deriving DecidableEq

/-- What a transaction pays to an address. -/
def Tx.paid (tx : Tx) (address : String) : Nat :=
  ((tx.outputs.filter fun output => output.1 = address).map Prod.snd).sum

def Tx.pays (tx : Tx) (address : String) : Bool :=
  tx.outputs.any fun output => output.1 = address

/-- What Bitcoin Core knows. -/
structure Chain where
  transactions : List Tx
  confirmations : String → Int

/-- The transactions on an address that are at least `minconf` deep. -/
def Chain.counted (chain : Chain) (minconf : Int) (address : String) : List Tx :=
  chain.transactions.filter fun tx =>
    tx.pays address && decide (minconf ≤ chain.confirmations tx.txid)

/-- An entry of the answer: the cumulative amount, in bitcoins, and all the txids. -/
structure ReceivedEntry where
  amount : Rat
  txids : List String
  deriving DecidableEq

/-- The answer of `listreceivedbyaddress(minconf, False, True, address)` that counts these
transactions; a txid is listed once for each output. -/
def listReceivedByAddress (address : String) (counted : List Tx) : List ReceivedEntry :=
  if counted.isEmpty then []
  else
    [{ amount := ((counted.map fun tx => tx.paid address).sum : Nat) / 10 ^ 8
       txids := counted.flatMap fun tx =>
         (tx.outputs.filter fun output => output.1 = address).map fun _ => tx.txid }]

/-- A monitor's settings. `trackedAddresses` is a dictionary. -/
structure Monitor where
  requiredConfirmations : Int
  trackedAddresses : List (String × String)
  distinct : (trackedAddresses.map Prod.fst).Nodup

/-- A call of `confirmPegIn` that the bridge recorded, with the address it was made for. -/
structure Attestation where
  btcAddress : String
  txid : String
  recipient : String
  amountWei : Nat
  deriving DecidableEq

/-- How `bridge_client.confirm_peg_in` ends. It may raise after the bridge has recorded the
attestation, for instance while it waits for the receipt. -/
inductive Outcome
  | confirmed
  | raised (recorded : Bool)
  deriving DecidableEq

def Outcome.recorded : Outcome → Bool
  | .confirmed => true
  | .raised recorded => recorded

/-- `_check_address` under way: the transactions its answer counted, and the txids it still
comes to, each with its entry's amount. -/
structure Check where
  btcAddress : String
  recipient : String
  counted : List Tx
  pending : List (Rat × String)

structure State where
  chain : Chain
  seenTxids : List String
  /-- The addresses that the round has not come to. -/
  round : List (String × String)
  check : Option Check
  attested : List Attestation

def State.initial : State := ⟨⟨[], fun _ => 0⟩, [], [], none, []⟩

inductive Move
  | arrived (tx : Tx)
  | confirmed (txid : String) (confirmations : Int)
  | listed
  | examined (outcome : Outcome)

/-- `int(amount_btc * 10**18)` -/
def amountWei (amountBtc : Rat) : Nat :=
  (amountBtc * 10 ^ 18).floor.toNat

/-- `_attest_peg_in`; what the call raises is logged. -/
def State.attestPegIn (outcome : Outcome) (check : Check) (txid : String) (amountBtc : Rat)
    (state : State) : State :=
  if outcome.recorded then
    { state with
      attested := state.attested ++
        [⟨check.btcAddress, txid, check.recipient, amountWei amountBtc⟩] }
  else state

/-- The body of the inner loop of `_check_address`. -/
def Monitor.examine (monitor : Monitor) (outcome : Outcome) (check : Check) (txid : String)
    (amountBtc : Rat) (state : State) : State :=
  if txid ∈ state.seenTxids then state
  else if state.chain.confirmations txid < monitor.requiredConfirmations then state
  else
    let attested := state.attestPegIn outcome check txid amountBtc
    { attested with seenTxids := txid :: attested.seenTxids }

/-- `_check_address` up to the answer. -/
def Monitor.checkAddress (monitor : Monitor) (btcAddress recipient : String) (state : State) :
    Check :=
  let counted := state.chain.counted monitor.requiredConfirmations btcAddress
  { btcAddress := btcAddress
    recipient := recipient
    counted := counted
    pending := (listReceivedByAddress btcAddress counted).flatMap fun entry =>
      entry.txids.map fun txid => (entry.amount, txid) }

/-- The next address of `poll_for_deposits`; a round that is over is followed by the next. -/
def Monitor.pollForDeposits (monitor : Monitor) (state : State) : Except String State :=
  match if state.round.isEmpty then monitor.trackedAddresses else state.round with
  | [] => .error "nothing is tracked"
  | (btcAddress, recipient) :: rest =>
      .ok { state with
        round := rest
        check := some (monitor.checkAddress btcAddress recipient state) }

/-- An exception that Bitcoin Core's answers raise ends the monitor: its steps stop. -/
def Monitor.step (monitor : Monitor) (move : Move) (state : State) :
    Except String (State × Unit) :=
  match move with
  | .arrived tx =>
      if tx.txid ∈ state.chain.transactions.map Tx.txid then .error "known"
      else
        .ok ({ state with
          chain := { state.chain with transactions := state.chain.transactions ++ [tx] } }, ())
  | .confirmed txid confirmations =>
      .ok ({ state with
        chain := { state.chain with
          confirmations := Function.update state.chain.confirmations txid confirmations } }, ())
  | .listed =>
      match state.check with
      | none => (monitor.pollForDeposits state).map fun after => (after, ())
      | some check =>
          if check.pending.isEmpty then
            (monitor.pollForDeposits state).map fun after => (after, ())
          else .error "in a check"
  | .examined outcome =>
      match state.check with
      | none => .error "in no check"
      | some check =>
          match check.pending with
          | [] => .error "the check is over"
          | (amountBtc, txid) :: pending =>
              .ok (monitor.examine outcome check txid amountBtc
                { state with check := some { check with pending := pending } }, ())

end BigX.Custody
