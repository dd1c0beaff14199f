import BigX.Run.Attempts
import Mathlib.Algebra.Order.Ring.Rat
import Mathlib.Data.Rat.Floor

set_option autoImplicit false

/- `SwapTool.execute`. Its body is tried three times, that again for each RPC endpoint, and the
request to sign and send is in the middle of the body: whatever fails after it repeats it. -/
namespace BigX.ToolRouter.SwapTool

open Run (hitCount Made hitCount_add hitCount_add_stopped hitCount_le hitCount_le_one_iff
  hitCount_pos_iff made_self made_succ_iff)

structure Config where
  rpcs : Nat
  redisUrl : String
  mpWalletUrl : String
  router1inch : String
  chainId : Int

inductive Position
  | closed
  | opened
  | halfOpen
  deriving DecidableEq

structure Circuit where
  failures : Nat
  lastFail : Rat
  state : Position

def Circuit.new : Circuit := ⟨0, 0, .closed⟩

def Circuit.allow (circuit : Circuit) (now : Rat) : Bool × Circuit :=
  let circuit :=
    if circuit.state = .opened ∧ now - circuit.lastFail > 60 then
      { circuit with state := .halfOpen, failures := 0 }
    else circuit
  (circuit.state ≠ .opened, circuit)

def Circuit.record (circuit : Circuit) (success : Bool) (now : Rat) : Circuit :=
  if success then { circuit with state := .closed, failures := 0 }
  else
    { failures := circuit.failures + 1
      lastFail := now
      state := if circuit.failures + 1 ≥ 5 then .opened else circuit.state }

/-- An exception. A cancelled task's is not an `Exception`, and no `except` of these catches
it. -/
inductive Failure
  | cancelled
  | timeout
  | raised (text : String)
  deriving DecidableEq

def Failure.ordinary : Failure → Bool
  | .cancelled => false
  | _ => true

/-- What `execute` makes of an exception. -/
def Failure.surfaced : Failure → Failure
  | .timeout => .raised "Transaction timeout"
  | failure => failure

/-- The keys of a quote that `execute` reads, each of which may be missing. `src` and `dst` are its
"from" and "to". -/
structure Quote where
  src : Option String
  dst : Option String
  amountIn : Option Rat
  gas : Option Int
  dex : Option String

structure Policy where
  maxSpendPerTx : Rat
  whitelist : List String

/-- What the wallet answers. JSON that is no object has no keys to read, and says so in its own
way. -/
inductive Answer
  | object (txHash : Option String) (block : Option Int)
  | other (getError itemError : String)

/-- What one attempt meets: the node's answers, whether the request to sign takes effect, which
it may without an answer, the answer, what the write of the audit raises, and whether the task is
cancelled in the wait that follows. -/
structure Faults where
  gasPrice : Except Failure Int
  nonce : Except Failure Nat
  baseFee : Except Failure Int
  reached : Bool
  signed : Except Failure Answer
  audited : Option Failure
  interrupted : Bool

inductive Fees
  | legacy (gasPrice : Int)
  | dynamic (maxFee maxPriorityFee : Int)
  deriving DecidableEq

structure Tx where
  sender : String
  toAddr : String
  data : String
  value : Int
  gas : Int
  fees : Fees
  nonce : Nat
  chainId : Int
  deriving DecidableEq

structure Success where
  txHash : String
  block : Option Int
  dex : Option String
  deriving DecidableEq

def native : String := "0xEeeeeEeeeEeEeeEeEeEeeEEEeeeeEeeeeeeeEEeE"

/-- `_to_wei`: `asyncio.run` does not run inside the loop that `execute` runs in. -/
def toWei (_amt : Rat) (_token : String) : Except Failure Int :=
  .error (.raised "asyncio.run() cannot be called from a running event loop")

def checkPolicy (quote : Quote) : Option Policy → Except Failure Unit
  | none => .ok ()
  | some policy =>
      let spend : Except Failure Unit :=
        if policy.maxSpendPerTx = 0 then .ok ()
        else
          match quote.amountIn with
          | none => .error (.raised "'amount_in'")
          | some amountIn =>
              if amountIn > policy.maxSpendPerTx then .error (.raised "Exceeds spend limit")
              else .ok ()
      match spend with
      | .error failure => .error failure
      | .ok () =>
          if policy.whitelist = [] then .ok ()
          else
            match quote.dst with
            | none => .error (.raised "'to'")
            | some dst =>
                if dst ∈ policy.whitelist then .ok ()
                else .error (.raised "Token not whitelisted")

def value (quote : Quote) : Except Failure Int :=
  match quote.src with
  | none => .error (.raised "'from'")
  | some src =>
      if src = native then
        match quote.amountIn with
        | none => .error (.raised "'amount_in'")
        | some amountIn => toWei amountIn src
      else .ok 0

-- `int(x * y)` of a number and a float
variable (times : Int → Rat → Except Failure Int)

/-- The fees, once the pending block is read. -/
def fees (gasPrice baseFee : Int) : Except Failure Fees :=
  if baseFee = 0 then .ok (.legacy gasPrice)
  else
    match times baseFee (3 / 2) with
    | .error failure => .error failure
    | .ok maxFee =>
        match times baseFee (11 / 10) with
        | .error failure => .error failure
        | .ok maxPriorityFee => .ok (.dynamic maxFee maxPriorityFee)

def Config.transaction (config : Config) (quote : Quote) (faults : Faults) : Except Failure Tx :=
  match value quote with
  | .error failure => .error failure
  | .ok value =>
      match times (quote.gas.getD 200000) (6 / 5) with
      | .error failure => .error failure
      | .ok gas =>
          match faults.gasPrice with
          | .error failure => .error failure
          | .ok gasPrice =>
              match faults.nonce with
              | .error failure => .error failure
              | .ok nonce =>
                  match faults.baseFee with
                  | .error failure => .error failure
                  | .ok baseFee =>
                      match fees times gasPrice baseFee with
                      | .error failure => .error failure
                      | .ok fees =>
                          .ok ⟨config.mpWalletUrl, config.router1inch, "0x", value, gas, fees,
                            nonce, config.chainId⟩

/-- The body, up to the request to sign. -/
def Config.prepare (config : Config) (quote : Quote) (policy : Option Policy) (faults : Faults) :
    Except Failure Tx :=
  if config.mpWalletUrl = "" then .error (.raised "MPC wallet not configured")
  else
    match checkPolicy quote policy with
    | .error failure => .error failure
    | .ok () =>
        match config.transaction times quote faults with
        | .error failure => .error failure.surfaced
        | .ok tx => .ok tx

/-- `_log_transaction` -/
def Config.logTransaction (config : Config) (answer : Answer) (faults : Faults) :
    Except Failure Unit :=
  if config.redisUrl = "" then .ok ()
  else
    match answer with
    | .other getError _ => .error (.raised getError)
    | .object _ _ =>
        match faults.audited with
        | some failure => .error failure
        | none => .ok ()

/-- The body, from the answer to the request on. -/
def Config.finish (config : Config) (quote : Quote) (faults : Faults) : Except Failure Success :=
  match faults.signed with
  | .error failure => .error failure.surfaced
  | .ok answer =>
      match config.logTransaction answer faults with
      | .error failure => .error failure.surfaced
      | .ok () =>
          match answer with
          | .object (some txHash) block => .ok ⟨txHash, block, quote.dex⟩
          | .object none _ => .error (.raised "'tx_hash'")
          | .other _ itemError => .error (.raised itemError)

/-- The body, with the request that took effect. -/
def Config.attempt (config : Config) (quote : Quote) (policy : Option Policy) (faults : Faults) :
    Option Tx × Except Failure Success :=
  match config.prepare times quote policy faults with
  | .error failure => (none, .error failure)
  | .ok tx => (if faults.reached then some tx else none, config.finish quote faults)

/-- `retry`, with the attempts that are left of its three. -/
def Config.retry (config : Config) (quote : Quote) (policy : Option Policy)
    (schedule : Nat → Faults) : (attempt remaining : Nat) → List Tx × Except Failure Success
  | _, 0 => ([], .error (.raised "RetryError"))
  | attempt, remaining + 1 =>
      let made := config.attempt times quote policy (schedule attempt)
      match made.2 with
      | .ok success => (made.1.toList, .ok success)
      | .error .cancelled => (made.1.toList, .error .cancelled)
      | .error _ =>
          if remaining = 0 then (made.1.toList, .error (.raised "RetryError"))
          else if (schedule attempt).interrupted then (made.1.toList, .error .cancelled)
          else
            let rest := config.retry quote policy schedule (attempt + 1) remaining
            (made.1.toList ++ rest.1, rest.2)

structure Tool where
  circuit : Circuit
  rpcIdx : Nat

/-- What one round meets: what other calls of the tool did to it before and meanwhile, the times
at which the breaker is asked and told, and what connecting to the next endpoint raises. -/
structure Round where
  before : Tool → Tool
  asked : Rat
  meanwhile : Tool → Tool
  failedAt : Rat
  rotated : Option Failure

structure Outcome where
  signed : List Tx
  tool : Tool
  result : Except Failure Success

/-- The breaker is asked. -/
def Round.allow (round : Round) (tool : Tool) : Bool × Tool :=
  let tool := round.before tool
  let answer := tool.circuit.allow round.asked
  (answer.1, { tool with circuit := answer.2 })

/-- The breaker is told of a failure, and the next endpoint is chosen. -/
def Round.rotate (round : Round) (rpcs : Nat) (tool : Tool) : Tool :=
  let tool := round.meanwhile tool
  { circuit := tool.circuit.record false round.failedAt
    rpcIdx := (tool.rpcIdx + 1) % rpcs }

/-- `_with_rpc_fallback`, with the rounds that are left of its loop. -/
def Config.withRpcFallback (config : Config) (quote : Quote) (policy : Option Policy)
    (rounds : Nat → Round) (schedule : Nat → Nat → Faults) :
    (round remaining : Nat) → Tool → Outcome
  | _, 0, tool => ⟨[], tool, .error (.raised "All RPCs failed")⟩
  | round, remaining + 1, tool =>
      let allowed := (rounds round).allow tool
      let made : List Tx × Except Failure Success :=
        if allowed.1 then config.retry times quote policy (schedule round) 0 3
        else ([], .error (.raised "Circuit open"))
      match made.2 with
      | .ok success => ⟨made.1, (rounds round).meanwhile allowed.2, .ok success⟩
      | .error .cancelled => ⟨made.1, (rounds round).meanwhile allowed.2, .error .cancelled⟩
      | .error _ =>
          let tool := (rounds round).rotate config.rpcs allowed.2
          match (rounds round).rotated with
          | some failure => ⟨made.1, tool, .error failure⟩
          | none =>
              let rest := config.withRpcFallback quote policy rounds schedule (round + 1)
                remaining tool
              ⟨made.1 ++ rest.signed, rest.tool, rest.result⟩

def Config.execute (config : Config) (quote : Quote) (policy : Option Policy)
    (rounds : Nat → Round) (schedule : Nat → Nat → Faults) (tool : Tool) : Outcome :=
  config.withRpcFallback times quote policy rounds schedule 0 config.rpcs tool

section Condition

variable (config : Config) (quote : Quote) (policy : Option Policy)

/-- The attempt's request to sign takes effect, once the attempt is made. -/
def Config.signs (faults : Faults) : Bool :=
  (config.prepare times quote policy faults).isOk && faults.reached

/-- Something fails after the request to sign, other than by the task being cancelled. -/
def Config.failsLate (faults : Faults) : Bool :=
  match faults.signed with
  | .error failure => failure.ordinary
  | .ok (.other _ _) => true
  | .ok (.object txHash _) =>
      match faults.audited with
      | some failure => if config.redisUrl = "" then txHash.isNone else failure.ordinary
      | none => txHash.isNone

/-- The attempt fails, other than by the task being cancelled. -/
def Config.fails (faults : Faults) : Bool :=
  match config.prepare times quote policy faults with
  | .error failure => failure.ordinary
  | .ok _ => config.failsLate faults

variable (rounds : Nat → Round) (schedule : Nat → Nat → Faults) (tool : Tool)

/-- The tool after so many rounds that failed. -/
def Config.toolAfter (config : Config) (rounds : Nat → Round) (tool : Tool) : Nat → Tool
  | 0 => tool
  | round + 1 =>
      (rounds round).rotate config.rpcs
        ((rounds round).allow (config.toolAfter rounds tool round)).2

/-- The breaker lets a round through that comes after rounds that failed. -/
def Config.admits (round : Nat) : Bool :=
  ((rounds round).allow (config.toolAfter rounds tool round)).1

/-- The attempts are counted over the rounds, three to each. This one is let through, and its
request takes effect. -/
def Config.hits (attempt : Nat) : Bool :=
  config.admits rounds tool (attempt / 3) &&
    config.signs times quote policy (schedule (attempt / 3) (attempt % 3))

/-- The attempt is followed by the next one, of the same round or of the next. -/
def Config.goesOn (attempt : Nat) : Bool :=
  (!config.admits rounds tool (attempt / 3) ||
    config.fails times quote policy (schedule (attempt / 3) (attempt % 3)) &&
      (attempt % 3 == 2 || !(schedule (attempt / 3) (attempt % 3)).interrupted)) &&
  (attempt % 3 != 2 || (rounds (attempt / 3)).rotated.isNone)

/-- An attempt's request takes effect and the attempt fails, and so do all others up to one whose
request takes effect too. -/
def Config.SignsTwice : Prop :=
  ∃ first second, first < second ∧ second < 3 * config.rpcs ∧
    config.hits times quote policy rounds schedule tool first = true ∧
    config.hits times quote policy rounds schedule tool second = true ∧
    ∀ earlier < second, config.goesOn times quote policy rounds schedule tool earlier = true

end Condition

section

variable {times} {config : Config} {quote : Quote} {policy : Option Policy}
variable {rounds : Nat → Round} {schedule : Nat → Nat → Faults} {tool : Tool}

/-- This end leads to another attempt or round, where there is one. -/
def retried (result : Except Failure Success) : Bool :=
  match result with
  | .ok _ => false
  | .error failure => failure.ordinary

@[simp] theorem surfaced_ordinary (failure : Failure) :
    failure.surfaced.ordinary = failure.ordinary := by
  cases failure <;> rfl

theorem finish_retried (faults : Faults) :
    retried (config.finish quote faults) = config.failsLate faults := by
  unfold Config.finish Config.failsLate Config.logTransaction
  cases faults.signed with
  | error failure => exact surfaced_ordinary failure
  | ok answer =>
    by_cases redis : config.redisUrl = ""
    · rcases answer with ⟨_ | txHash, block⟩ | ⟨getError, itemError⟩ <;>
        cases faults.audited <;> simp [redis, retried, Failure.ordinary]
    · cases answer with
      | other getError itemError => simp [redis, retried, Failure.ordinary, Failure.surfaced]
      | object txHash block =>
        cases faults.audited with
        | none => cases txHash <;> simp [redis, retried, Failure.ordinary]
        | some failure => simp [redis, retried]

/-- Whether an attempt signs, by what it meets. -/
theorem attempt_signs (faults : Faults) :
    (config.attempt times quote policy faults).1.isSome =
      config.signs times quote policy faults := by
  unfold Config.attempt Config.signs
  cases config.prepare times quote policy faults with
  | error failure => rfl
  | ok tx => cases faults.reached <;> rfl

/-- Whether an attempt is retried, by what it meets. -/
theorem attempt_fails (faults : Faults) :
    retried (config.attempt times quote policy faults).2 =
      config.fails times quote policy faults := by
  unfold Config.attempt Config.fails
  cases config.prepare times quote policy faults with
  | error failure => rfl
  | ok tx => exact finish_retried faults

theorem ordinary_of_ne {failure : Failure} (other : failure ≠ .cancelled) :
    failure.ordinary = true := by
  cases failure with
  | cancelled => exact absurd rfl other
  | timeout => rfl
  | raised text => rfl

variable (times config quote policy rounds schedule tool)

section Retry

variable (faults : Nat → Faults) (attempt remaining : Nat)

/-- The last attempt of a round. -/
theorem retry_last :
    (config.retry times quote policy faults attempt 1).1 =
        (config.attempt times quote policy (faults attempt)).1.toList ∧
      retried (config.retry times quote policy faults attempt 1).2 =
        config.fails times quote policy (faults attempt) := by
  rw [← attempt_fails]
  unfold Config.retry
  dsimp only
  split
  next success ending =>
    rw [ending]
    exact ⟨rfl, rfl⟩
  next ending =>
    rw [ending]
    exact ⟨rfl, rfl⟩
  next failure notCancelled ending =>
    rw [ending, if_pos rfl]
    exact ⟨rfl, (ordinary_of_ne notCancelled).symm⟩

/-- An attempt that fails is followed by another, unless the task is cancelled before. -/
theorem retry_again (failed : config.fails times quote policy (faults attempt) = true)
    (waited : (faults attempt).interrupted = false) :
    config.retry times quote policy faults attempt (remaining + 2) =
      ((config.attempt times quote policy (faults attempt)).1.toList ++
          (config.retry times quote policy faults (attempt + 1) (remaining + 1)).1,
        (config.retry times quote policy faults (attempt + 1) (remaining + 1)).2) := by
  rw [← attempt_fails] at failed
  rw [Config.retry]
  dsimp only
  split
  next success ending =>
    rw [ending] at failed
    cases failed
  next ending =>
    rw [ending] at failed
    cases failed
  next failure _ ending =>
    rw [if_neg (Nat.succ_ne_zero remaining), waited]
    rfl

/-- An attempt that succeeds or is cancelled is the last, and so is one before a cancelled
wait. -/
theorem retry_ended (ended : (config.fails times quote policy (faults attempt) &&
      !(faults attempt).interrupted) = false) :
    (config.retry times quote policy faults attempt (remaining + 2)).1 =
        (config.attempt times quote policy (faults attempt)).1.toList ∧
      retried (config.retry times quote policy faults attempt (remaining + 2)).2 = false := by
  rw [← attempt_fails] at ended
  rw [Config.retry]
  dsimp only
  split
  next success ending => exact ⟨rfl, rfl⟩
  next ending => exact ⟨rfl, rfl⟩
  next failure notCancelled ending =>
    rw [ending] at ended
    simp only [retried, ordinary_of_ne notCancelled, Bool.true_and, Bool.not_eq_false'] at ended
    rw [if_neg (Nat.succ_ne_zero remaining), if_pos ended]
    exact ⟨rfl, rfl⟩

end Retry

/-- An attempt of a round that is let through, as one that is counted over the rounds. -/
theorem counted_attempt {round attempt : Nat} (inside : attempt < 3)
    (admitted : config.admits rounds tool round = true) :
    config.hits times quote policy rounds schedule tool (3 * round + attempt) =
        config.signs times quote policy (schedule round attempt) ∧
      config.goesOn times quote policy rounds schedule tool (3 * round + attempt) =
        (config.fails times quote policy (schedule round attempt) &&
          (attempt == 2 || !(schedule round attempt).interrupted) &&
          (attempt != 2 || (rounds round).rotated.isNone)) := by
  have quotient : (3 * round + attempt) / 3 = round := by omega
  have remainder : (3 * round + attempt) % 3 = attempt := by omega
  simp [Config.hits, Config.goesOn, quotient, remainder, admitted]

/-- The requests of the attempts that are left of a round are their hits, and the round goes on
to the next if each attempt does. -/
theorem retry_spec {round attempt : Nat} (remaining : Nat) (three : attempt + (remaining + 1) = 3)
    (admitted : config.admits rounds tool round = true) :
    (config.retry times quote policy (schedule round) attempt (remaining + 1)).1.length =
        hitCount (config.hits times quote policy rounds schedule tool)
          (config.goesOn times quote policy rounds schedule tool) (3 * round + attempt)
          (remaining + 1) ∧
      (Made (config.goesOn times quote policy rounds schedule tool) (3 * round + attempt)
          (3 * round + attempt + (remaining + 1)) ↔
        retried (config.retry times quote policy (schedule round) attempt (remaining + 1)).2 =
            true ∧ (rounds round).rotated = none) := by
  induction remaining generalizing attempt with
  | zero =>
    obtain rfl : attempt = 2 := by omega
    have counted := counted_attempt times config quote policy rounds schedule tool
      (show 2 < 3 by omega) admitted
    have last := retry_last times config quote policy (schedule round) 2
    rw [last.1, last.2, Option.length_toList, attempt_signs, ← counted.1, hitCount, hitCount,
      made_succ_iff (by omega)]
    refine ⟨by simp, ?_⟩
    rw [counted.2]
    have done : Made (config.goesOn times quote policy rounds schedule tool) (3 * round + 2 + 1)
        (3 * round + 2 + 1) := made_self _
    simp [done]
  | succ remaining ih =>
    have counted := counted_attempt times config quote policy rounds schedule tool
      (show attempt < 3 by omega) admitted
    have notLast : (attempt == 2) = false := by simp; omega
    rw [hitCount, made_succ_iff (by omega), counted.1, counted.2, ← attempt_signs,
      ← Option.length_toList]
    simp only [notLast, bne, Bool.false_or, Bool.not_false, Bool.true_or, Bool.and_true]
    cases goes : config.fails times quote policy (schedule round attempt) &&
        !(schedule round attempt).interrupted with
    | false =>
      have ended := retry_ended times config quote policy (schedule round) attempt remaining goes
      rw [ended.1, ended.2]
      simp
    | true =>
      rw [Bool.and_eq_true, Bool.not_eq_true'] at goes
      rw [retry_again times config quote policy (schedule round) attempt remaining goes.1 goes.2]
      have next := ih (show attempt + 1 + (remaining + 1) = 3 by omega)
      have shifted : 3 * round + attempt + (remaining + 1 + 1) =
          3 * round + (attempt + 1) + (remaining + 1) := by omega
      rw [List.length_append, next.1, shifted]
      refine ⟨by simp [Nat.add_assoc], ?_⟩
      rw [← next.2]
      simp [Nat.add_assoc]

/-- A round that is not let through signs nothing, and goes on to the next. -/
theorem refused_spec {round : Nat} (refused : config.admits rounds tool round = false) :
    hitCount (config.hits times quote policy rounds schedule tool)
        (config.goesOn times quote policy rounds schedule tool) (3 * round) 3 = 0 ∧
      (Made (config.goesOn times quote policy rounds schedule tool) (3 * round) (3 * round + 3) ↔
        (rounds round).rotated = none) := by
  have quotient : ∀ attempt < 3, (3 * round + attempt) / 3 = round := by
    intro attempt inside
    omega
  have hit : ∀ attempt < 3,
      config.hits times quote policy rounds schedule tool (3 * round + attempt) = false := by
    intro attempt inside
    simp [Config.hits, quotient attempt inside, refused]
  have goes : ∀ attempt < 3,
      config.goesOn times quote policy rounds schedule tool (3 * round + attempt) =
        (attempt != 2 || (rounds round).rotated.isNone) := by
    intro attempt inside
    have remainder : (3 * round + attempt) % 3 = attempt := by omega
    simp [Config.goesOn, quotient attempt inside, remainder, refused]
  constructor
  · refine Nat.eq_zero_of_not_pos (mt (hitCount_pos_iff (3 * round) 3).mp ?_)
    rintro ⟨attempt, lower, upper, struck, -⟩
    obtain ⟨offset, rfl⟩ := Nat.exists_eq_add_of_le lower
    rw [hit offset (by omega)] at struck
    cases struck
  · constructor
    · intro made
      have last := made (3 * round + 2) (by omega) (by omega)
      rw [goes 2 (by omega)] at last
      simpa using last
    · intro rotated attempt lower upper
      obtain ⟨offset, rfl⟩ := Nat.exists_eq_add_of_le lower
      rw [goes offset (by omega), rotated]
      simp

/-- One round of the loop, after rounds that failed. -/
theorem round_spec (round : Nat) {made : List Tx × Except Failure Success}
    (same : made = if config.admits rounds tool round then
        config.retry times quote policy (schedule round) 0 3
      else ([], .error (.raised "Circuit open"))) :
    made.1.length = hitCount (config.hits times quote policy rounds schedule tool)
        (config.goesOn times quote policy rounds schedule tool) (3 * round) 3 ∧
      (Made (config.goesOn times quote policy rounds schedule tool) (3 * round) (3 * round + 3) ↔
        retried made.2 = true ∧ (rounds round).rotated = none) := by
  cases admitted : config.admits rounds tool round with
  | true =>
    rw [same, admitted, if_pos rfl]
    exact retry_spec times config quote policy rounds schedule tool 2 rfl admitted
  | false =>
    have refused := refused_spec times config quote policy rounds schedule tool admitted
    rw [same, admitted, if_neg Bool.false_ne_true, refused.1, refused.2]
    exact ⟨rfl, by simp [retried, Failure.ordinary]⟩

/-- The requests of a loop are the hits of its attempts, three to a round. -/
theorem withRpcFallback_signed (round remaining : Nat) :
    (config.withRpcFallback times quote policy rounds schedule round remaining
        (config.toolAfter rounds tool round)).signed.length =
      hitCount (config.hits times quote policy rounds schedule tool)
        (config.goesOn times quote policy rounds schedule tool) (3 * round) (3 * remaining) := by
  induction remaining generalizing round with
  | zero => rfl
  | succ remaining ih =>
    have later := ih (round + 1)
    rw [show 3 * (round + 1) = 3 * round + 3 by omega] at later
    rw [show 3 * (remaining + 1) = 3 + 3 * remaining by omega]
    unfold Config.withRpcFallback
    dsimp only
    generalize ran : (if ((rounds round).allow (config.toolAfter rounds tool round)).1 = true then
        config.retry times quote policy (schedule round) 0 3
      else ([], .error (.raised "Circuit open"))) = made
    have spec := round_spec times config quote policy rounds schedule tool round ran.symm
    split
    next success ending =>
      rw [ending] at spec
      have stopped := mt spec.2.mp (by simp [retried])
      rw [hitCount_add_stopped _ stopped]
      exact spec.1
    next ending =>
      rw [ending] at spec
      have stopped := mt spec.2.mp (by simp [retried, Failure.ordinary])
      rw [hitCount_add_stopped _ stopped]
      exact spec.1
    next failure notCancelled ending =>
      rw [ending] at spec
      split
      next raised rotated =>
        have stopped := mt spec.2.mp (by simp [rotated])
        rw [hitCount_add_stopped _ stopped]
        exact spec.1
      next rotated =>
        have made := spec.2.mpr ⟨ordinary_of_ne notCancelled, rotated⟩
        rw [hitCount_add _ made, List.length_append, spec.1, ← later]
        rfl

/-- The requests of one `execute` are the hits of its attempts. -/
theorem execute_signed :
    (config.execute times quote policy rounds schedule tool).signed.length =
      hitCount (config.hits times quote policy rounds schedule tool)
        (config.goesOn times quote policy rounds schedule tool) 0 (3 * config.rpcs) :=
  withRpcFallback_signed times config quote policy rounds schedule tool 0 config.rpcs

/-- One `execute` signs three times for each endpoint at most. -/
theorem execute_signed_le :
    (config.execute times quote policy rounds schedule tool).signed.length ≤ 3 * config.rpcs := by
  rw [execute_signed]
  exact hitCount_le _ _

end

section Sample

def twoEndpoints : Config where
  rpcs := 2
  redisUrl := "redis://localhost:6379"
  mpWalletUrl := "https://mpc.example"
  router1inch := "0x1111111254EEB25477B68fb85Ed929f73A960582"
  chainId := 1

def usdcToWeth : Quote where
  src := some "0xA0b86991c6218b36c1d19D4a2e9Eb0cE3606eB48"
  dst := some "0xC02aaA39b223FE8D0A0e5C4F27eAD9083C756Cc2"
  amountIn := some 100
  gas := some 150000
  dex := some "1inch"

/-- Each request is signed and sent, and no audit can be written. -/
def auditFails (_round attempt : Nat) : Faults where
  gasPrice := .ok 1000000000
  nonce := .ok (7 + attempt)
  baseFee := .ok 0
  reached := true
  signed := .ok (.object (some "0xab") none)
  audited := some (.raised "Error 111 connecting to localhost:6379")
  interrupted := false

end Sample

end BigX.ToolRouter.SwapTool
