import BigX.Pipeline.Resilience
import Mathlib.Data.List.Sort

set_option autoImplicit false

/- The contract client's `send`. What the node and the signer do at each attempt is an input
of the call; the circuit breaker is the same class as the pipeline's. -/
namespace BigX.Blockchain

open Pipeline (CircuitBreaker)

variable {Args : Type}

inductive Error
  | providerUnavailable (network : String)
  | nonce (address cause : String)
  | transactionReverted (txHash contractName functionName : String)
  | contractWrite (contractName functionName cause : String)
  | other (text : String)
  deriving DecidableEq

/-- `str(exc)` -/
def Error.text : Error → String
  | .providerUnavailable network => "No healthy RPC provider available for " ++ network
  | .nonce address cause => "Nonce resolution failed for " ++ address ++ ": " ++ cause
  | .transactionReverted txHash contractName functionName =>
      contractName ++ "." ++ functionName ++ " reverted on-chain: " ++ txHash
  | .contractWrite contractName functionName cause =>
      contractName ++ "." ++ functionName ++ " write failed before submission: " ++ cause
  | .other text => text

/-- The two exceptions that leave `send` at once. -/
def Error.final : Error → Bool
  | .transactionReverted _ _ _ => true
  | .providerUnavailable _ => true
  | _ => false

/-- A client's settings; `headroom` is `int(gas * 1.2)`. -/
structure Settings where
  contractName : String
  network : String
  address : String
  defaultGasLimit : Nat
  maxRetries : Nat
  headroom : Nat → Nat

structure Request (Args : Type) where
  functionName : String
  args : Args
  value : Nat
  gasLimit : Option Nat

/-- What a client keeps between attempts: its breaker and the signer's next nonce. -/
structure Client where
  circuit : CircuitBreaker
  nonce : Option Nat

structure FeeHistory where
  nextBaseFee : Nat
  priorityFees : List Nat

structure GasEstimate where
  maxFeePerGas : Nat
  maxPriorityFeePerGas : Nat
  gasLimit : Nat

structure Transaction (Args : Type) where
  functionName : String
  args : Args
  sender : String
  value : Nat
  nonce : Nat
  gas : Nat
  maxFeePerGas : Nat
  maxPriorityFeePerGas : Nat

structure Receipt where
  status : Nat
  gasUsed : Nat
  blockNumber : Nat

structure SendResult where
  txHash : String
  gasUsed : Nat
  blockNumber : Nat

/-- What happens outside during one attempt, step by step, and when the breaker looks at the
clock. A broadcast that raises may have `reached` the node all the same. -/
structure Faults where
  asked : Rat
  provider : Except String Unit
  providerFailedAt : Rat
  prepared : Except String Unit
  count : Except String Nat
  estimateGas : Except String Nat
  feeHistory : Except String FeeHistory
  built : Except String Unit
  signed : Except String Unit
  broadcast : Except String String
  reached : Bool
  receipt : Except String Receipt
  failedAt : Rat

/-- `_median` -/
def median (values : List Nat) : Nat :=
  let sorted := values.insertionSort (· ≤ ·)
  let mid := sorted.length / 2
  if sorted.length % 2 = 1 then sorted.getD mid 0
  else (sorted.getD (mid - 1) 0 + sorted.getD mid 0) / 2

/-- `GasStrategy.estimate`, whose gas estimation may fail. -/
def Settings.estimate (settings : Settings) (faults : Faults) (fallbackGasLimit : Nat) :
    Except String GasEstimate :=
  let gasLimit := match faults.estimateGas with
    | .ok estimated => settings.headroom estimated
    | .error _ => fallbackGasLimit
  match faults.feeHistory with
  | .error text => .error text
  | .ok history =>
      let priorityFee :=
        if history.priorityFees.isEmpty then 1500000000 else median history.priorityFees
      .ok ⟨history.nextBaseFee * 2 + priorityFee, priorityFee, gasLimit⟩

/-- `NonceManager.get_and_increment` -/
def Client.getAndIncrement (count : Except String Nat) (client : Client) :
    Except String Nat × Client :=
  match client.nonce with
  | some nonce => (.ok nonce, { client with nonce := some (nonce + 1) })
  | none =>
      match count with
      | .error text => (.error text, client)
      | .ok nonce => (.ok nonce, { client with nonce := some (nonce + 1) })

/-- `gas_limit or self.default_gas_limit` -/
def Settings.fallbackGasLimit (settings : Settings) (request : Request Args) : Nat :=
  (request.gasLimit.filter fun gasLimit => gasLimit ≠ 0).getD settings.defaultGasLimit

/-- `_send_once` from the gas estimate on: the transaction that reached the node, if any, and
how the attempt ended. -/
def Settings.submit (settings : Settings) (request : Request Args) (faults : Faults)
    (nonce : Nat) : Option (Transaction Args) × Except Error SendResult :=
  match settings.estimate faults (settings.fallbackGasLimit request) with
  | .error text => (none, .error (.other text))
  | .ok estimate =>
      match faults.built with
      | .error text => (none, .error (.other text))
      | .ok () =>
          let tx : Transaction Args :=
            { functionName := request.functionName
              args := request.args
              sender := settings.address
              value := request.value
              nonce := nonce
              gas := estimate.gasLimit
              maxFeePerGas := estimate.maxFeePerGas
              maxPriorityFeePerGas := estimate.maxPriorityFeePerGas }
          match faults.signed with
          | .error text => (none, .error (.other text))
          | .ok () =>
              match faults.broadcast with
              | .error text => (if faults.reached then some tx else none, .error (.other text))
              | .ok txHash =>
                  match faults.receipt with
                  | .error text => (some tx, .error (.other text))
                  | .ok receipt =>
                      if receipt.status = 1 then
                        (some tx, .ok ⟨txHash, receipt.gasUsed, receipt.blockNumber⟩)
                      else
                        (some tx, .error (.transactionReverted txHash settings.contractName
                          request.functionName))

/-- An attempt's end, with the client it leaves. -/
structure Once (Args : Type) where
  client : Client
  broadcast : Option (Transaction Args)
  result : Except Error SendResult

/-- `_send_once`, with `_get_provider_and_contract` first. -/
def Settings.sendOnce (settings : Settings) (request : Request Args) (faults : Faults)
    (client : Client) : Once Args :=
  let allowed := client.circuit.allow faults.asked
  let asked : Client := { client with circuit := allowed.2 }
  if allowed.1 = false then ⟨asked, none, .error (.providerUnavailable settings.network)⟩
  else
    match faults.provider with
    | .error _ =>
        ⟨{ asked with circuit := allowed.2.recordFailure faults.providerFailedAt }, none,
          .error (.providerUnavailable settings.network)⟩
    | .ok () =>
        match faults.prepared with
        | .error text => ⟨asked, none, .error (.other text)⟩
        | .ok () =>
            match asked.getAndIncrement faults.count with
            | (.error text, counted) => ⟨counted, none, .error (.nonce settings.address text)⟩
            | (.ok nonce, counted) =>
                let submitted := settings.submit request faults nonce
                ⟨counted, submitted.1, submitted.2⟩

/-- One `send`: the client it leaves, every transaction that reached the node, the result. -/
structure Sent (Args : Type) where
  client : Client
  broadcasts : List (Transaction Args)
  result : Except Error SendResult

/-- The loop over the attempts, `remaining` of them left. -/
def Settings.sendLoop (settings : Settings) (request : Request Args) (schedule : Nat → Faults) :
    (attempt remaining : Nat) → (lastError : String) → Client → Sent Args
  | _, 0, lastError, client =>
      ⟨client, [],
        .error (.contractWrite settings.contractName request.functionName lastError)⟩
  | attempt, remaining + 1, _, client =>
      let once := settings.sendOnce request (schedule attempt) client
      match once.result with
      | .ok result =>
          ⟨{ once.client with circuit := once.client.circuit.recordSuccess },
            once.broadcast.toList, .ok result⟩
      | .error exc =>
          if exc.final = true then ⟨once.client, once.broadcast.toList, .error exc⟩
          else
            let failed : Client :=
              { once.client with
                circuit := once.client.circuit.recordFailure (schedule attempt).failedAt }
            let rest := settings.sendLoop request schedule (attempt + 1) remaining exc.text failed
            { rest with broadcasts := once.broadcast.toList ++ rest.broadcasts }

/-- `BaseContractClient.send` -/
def Settings.send (settings : Settings) (request : Request Args) (schedule : Nat → Faults)
    (client : Client) : Sent Args :=
  settings.sendLoop request schedule 1 settings.maxRetries "None" client

end BigX.Blockchain
