import BigX.Decimal.Context
import BigX.Pipeline.Resilience
import BigX.Run.Outcome

set_option autoImplicit false

/- `DeFiTool.build_call_plan`: an amount as a decimal number becomes whole units of the token, in
the call of a lending protocol and in the approval that a deposit needs. -/
namespace BigX.ToolRouter.DeFiTool

open BigX.Decimal (Context Number Signal digits digits_le_iff digits_of_truncate_pos kept_of_dvd
  truncate truncate_eq_floor truncate_halfEven_iff)
open Pipeline (CircuitBreaker)
open Run (bind_eq_ok pure_eq_ok)

inductive Raised
  | keyError (key : String)
  | valueError (text : String)
  | belowMinimum (amount minimum : Number)
  | exceedsMaximum (amount maximum : Number)
  | signal (signal : Signal)
  | overflowError
  | runtimeError (text : String)
  | other (text : String)
  deriving DecidableEq

structure AssetConfig where
  address : String
  decimals : Nat
  minAmount : Option Number
  maxAmount : Option Number

structure PoolConfig where
  address : String

inductive Arg
  | address (address : String)
  | uint (n : Int)
  deriving DecidableEq

/-- What is encoded as calldata. -/
structure Calldata where
  fnName : String
  args : List Arg
  deriving DecidableEq

structure ToolCall where
  target : String
  value : Int
  calldata : Calldata
  deriving DecidableEq

inductive Adapter
  | aaveV3
  | compoundV3

def Adapter.protocolName : Adapter → String
  | .aaveV3 => "aave"
  | .compoundV3 => "compound"

def Adapter.deposit (adapter : Adapter) (asset : AssetConfig) (rawAmount : Int)
    (onBehalfOf : String) : Calldata :=
  match adapter with
  | .aaveV3 =>
      ⟨"supply", [.address asset.address, .uint rawAmount, .address onBehalfOf, .uint 0]⟩
  | .compoundV3 => ⟨"supply", [.address asset.address, .uint rawAmount]⟩

def Adapter.withdraw (adapter : Adapter) (asset : AssetConfig) (rawAmount : Int)
    (onBehalfOf : String) : Calldata :=
  match adapter with
  | .aaveV3 => ⟨"withdraw", [.address asset.address, .uint rawAmount, .address onBehalfOf]⟩
  | .compoundV3 => ⟨"withdraw", [.address asset.address, .uint rawAmount]⟩

/-- What the reading of the pause state meets: the breaker's clock, what making the contract
raises, the contract's answer, and what other calls do to the breaker meanwhile. -/
structure Reads where
  asked : Rat
  contract : Option String
  answer : Except String Bool
  meanwhile : CircuitBreaker → CircuitBreaker
  failedAt : Rat

/-- Aave's answer is not looked at. -/
def Adapter.isPaused (adapter : Adapter) (reads : Reads) : Except String Bool :=
  match reads.contract with
  | some error => .error error
  | none =>
      match adapter, reads.answer with
      | .aaveV3, _ => .ok false
      | .compoundV3, .ok paused => .ok paused
      | .compoundV3, .error _ => .ok false

/-- `params`, in which a key may be missing. `amount` is what `Decimal(str(raw))` makes of it. -/
structure Params where
  protocol : Option String
  chainId : Option Int
  asset : Option String
  amount : Option (Except Signal Number)
  onBehalfOf : Option String

structure DeFiCallPlan where
  approvalCall : Option ToolCall
  actionCall : ToolCall
  protocol : String
  assetSymbol : String
  amount : Number

/-- The tool, with what encoding a call of the contract at an address raises. -/
structure Tool where
  poolRegistry : String → Int → Option PoolConfig
  assetRegistry : String → Option AssetConfig
  encodeABI : String → Calldata → Option String

def adapters (protocol : String) : Option Adapter :=
  if protocol = "aave" then some .aaveV3
  else if protocol = "compound" then some .compoundV3
  else none

/-- An operation on decimal numbers, which may raise a signal. -/
def trap {α : Type} : Except Signal α → Except Raised α
  | .error signal => .error (.signal signal)
  | .ok result => .ok result

/-- A test that raises where it holds, or where it cannot be made. -/
def refuseIf (test : Except Signal Bool) (raised : Raised) : Except Raised Unit :=
  match test with
  | .error signal => .error (.signal signal)
  | .ok true => .error raised
  | .ok false => .ok ()

/-- `params[key]`, and `get` with an error of its own. -/
def orRaise {α : Type} (found : Option α) (raised : Raised) : Except Raised α :=
  match found with
  | none => .error raised
  | some result => .ok result

/-- A limit that is missing or zero does not apply. -/
def outside (limit : Option Number) (test : Number → Except Signal Bool) : Except Signal Bool :=
  match limit with
  | none => .ok false
  | some limit => if limit.nonzero then test limit else .ok false

def toDecimalAmount (raw : Except Signal Number) (asset : AssetConfig) :
    Except Raised Number := do
  let amount ← trap raw
  refuseIf (amount.le (.ofNat 0)) (.valueError "Amount must be positive")
  refuseIf (outside asset.minAmount amount.lt)
    (.belowMinimum amount (asset.minAmount.getD amount))
  refuseIf (outside asset.maxAmount (Number.lt · amount))
    (.exceedsMaximum amount (asset.maxAmount.getD amount))
  return amount

/-- `int((amount * (10 ** decimals)).to_integral_value(rounding=ROUND_DOWN))` -/
def toRawAmount (amount : Number) (decimals : Nat) : Except Raised Int := do
  let product ← trap (Context.default.mul amount (.ofNat (10 ^ decimals)))
  let whole ← trap product.toIntegralDown
  orRaise whole.toInt .overflowError

def checkNotPaused (adapter : Adapter) (reads : Reads) (circuit : CircuitBreaker) :
    Except Raised Unit × CircuitBreaker :=
  match circuit.allow reads.asked with
  | (false, circuit) =>
      (.error (.runtimeError
        (adapter.protocolName ++ ": circuit breaker open, RPC reads likely degraded")), circuit)
  | (true, circuit) =>
      let circuit := reads.meanwhile circuit
      match adapter.isPaused reads with
      | .error _ => (.ok (), circuit.recordFailure reads.failedAt)
      | .ok true =>
          (.error (.runtimeError
            (adapter.protocolName ++ " market for this asset is currently paused")),
            circuit.recordSuccess)
      | .ok false => (.ok (), circuit.recordSuccess)

/-- A call to the contract at the address, once it is encoded. -/
def Tool.call (tool : Tool) (target : String) (calldata : Calldata) : Except Raised ToolCall :=
  match tool.encodeABI target calldata with
  | some error => .error (.other error)
  | none => .ok ⟨target, 0, calldata⟩

def Tool.buildApprovalCall (tool : Tool) (asset : AssetConfig) (spender : String)
    (rawAmount : Int) : Except Raised ToolCall :=
  tool.call asset.address ⟨"approve", [.address spender, .uint rawAmount]⟩

/-- The two calls of an action. -/
def Tool.calls (tool : Tool) (action : String) (adapter : Adapter) (pool : PoolConfig)
    (asset : AssetConfig) (rawAmount : Int) (onBehalfOf : String) :
    Except Raised (Option ToolCall × ToolCall) :=
  if action = "deposit" then do
    let actionCall ← tool.call pool.address (adapter.deposit asset rawAmount onBehalfOf)
    let approvalCall ← tool.buildApprovalCall asset pool.address rawAmount
    return (some approvalCall, actionCall)
  else if action = "withdraw" then do
    let actionCall ← tool.call pool.address (adapter.withdraw asset rawAmount onBehalfOf)
    return (none, actionCall)
  else .error (.valueError ("Unsupported DeFi action: " ++ action))

/-- What `build_call_plan` finds before it reads the pause state. -/
structure Found where
  protocol : String
  assetSymbol : String
  adapter : Adapter
  pool : PoolConfig
  asset : AssetConfig
  amount : Number
  rawAmount : Int

def Tool.find (tool : Tool) (params : Params) : Except Raised Found := do
  let protocol ← orRaise params.protocol (.keyError "protocol")
  let chainId ← orRaise params.chainId (.keyError "chain_id")
  let assetSymbol ← orRaise params.asset (.keyError "asset")
  let adapter ← orRaise (adapters protocol)
    (.valueError ("Unsupported DeFi protocol: " ++ protocol))
  let pool ← orRaise (tool.poolRegistry protocol chainId)
    (.valueError ("No pool configured for " ++ protocol ++ " on chain " ++ toString chainId))
  let asset ← orRaise (tool.assetRegistry assetSymbol)
    (.valueError ("Unknown asset: " ++ assetSymbol))
  let raw ← orRaise params.amount (.keyError "amount")
  let amount ← toDecimalAmount raw asset
  let rawAmount ← toRawAmount amount asset.decimals
  return ⟨protocol, assetSymbol, adapter, pool, asset, amount, rawAmount⟩

/-- What `build_call_plan` does once the pause state is read. -/
def Tool.plan (tool : Tool) (action : String) (params : Params) (found : Found) :
    Except Raised DeFiCallPlan := do
  let onBehalfOf ← orRaise params.onBehalfOf (.keyError "on_behalf_of")
  let calls ← tool.calls action found.adapter found.pool found.asset found.rawAmount onBehalfOf
  return ⟨calls.1, calls.2, found.protocol, found.assetSymbol, found.amount⟩

def Tool.buildCallPlan (tool : Tool) (action : String) (params : Params) (reads : Reads)
    (circuit : CircuitBreaker) : Except Raised DeFiCallPlan × CircuitBreaker :=
  match tool.find params with
  | .error raised => (.error raised, circuit)
  | .ok found =>
      match checkNotPaused found.adapter reads circuit with
      | (.error raised, circuit) => (.error raised, circuit)
      | (.ok (), circuit) => (tool.plan action params found, circuit)

/-- The whole units of the token in an amount. -/
def units (amount : Number) (decimals : Nat) : Int := ⌊amount.value * 10 ^ decimals⌋

/-- The plan's calls are for the whole units in the amount, of which there are some. -/
def Exact (amount : Number) (asset : AssetConfig) (action : String) (plan : DeFiCallPlan) : Prop :=
  0 < units amount asset.decimals ∧
    plan.actionCall.calldata.args[1]? = some (.uint (units amount asset.decimals)) ∧
    (action = "deposit" → plan.approvalCall = some ⟨asset.address, 0, ⟨"approve",
      [.address plan.actionCall.target, .uint (units amount asset.decimals)]⟩⟩)

/-- There is a whole unit in the amount, and rounding the amount in units to 28 digits drops
nothing that counts. -/
def KeepsUnits (amount : Number) (decimals : Nat) : Prop :=
  match amount with
  | .finite _ coef exp =>
      1 ≤ amount.value * 10 ^ decimals ∧
        Decimal.Kept (coef * 10 ^ decimals) (digits (coef * 10 ^ decimals) - 28) exp
  | _ => False

section

variable {amount : Number} {asset : AssetConfig} {decimals : Nat} {raw : Int}

@[simp] theorem trap_eq_ok {α : Type} (operation : Except Signal α) (result : α) :
    trap operation = .ok result ↔ operation = .ok result := by
  cases operation <;> simp [trap]

@[simp] theorem orRaise_eq_ok {α : Type} (found : Option α) (raised : Raised) (result : α) :
    orRaise found raised = .ok result ↔ found = some result := by
  cases found <;> simp [orRaise]

@[simp] theorem refuseIf_eq_ok (test : Except Signal Bool) (raised : Raised) (result : Unit) :
    refuseIf test raised = .ok result ↔ test = .ok false := by
  rcases test with signal | _ | _ <;> simp [refuseIf]

/-- An amount that is accepted is what was given, and is not negative or zero. -/
theorem toDecimalAmount_ok {given : Except Signal Number}
    (accepted : toDecimalAmount given asset = .ok amount) :
    given = .ok amount ∧ amount.le (.ofNat 0) = .ok false := by
  simp only [toDecimalAmount, bind_eq_ok, trap_eq_ok, refuseIf_eq_ok, pure_eq_ok] at accepted
  obtain ⟨_, same, _, above, _, _, _, _, rfl⟩ := accepted
  exact ⟨same, above⟩

theorem positive_of_not_le {negative : Bool} {coef : Nat} {exp : Int}
    (above : (Number.finite negative coef exp).le (.ofNat 0) = .ok false) :
    negative = false ∧ 0 < coef := by
  have less : (Number.ofNat 0).lt (.finite negative coef exp) = .ok true := by
    unfold Number.le at above
    split at above
    · cases above
    next below compared =>
      rw [compared]
      simpa using above
  have positive : 0 < (Number.finite negative coef exp).value := by
    rw [Number.ofNat, Number.lt_value] at less
    simpa [Number.value, Number.signed] using less
  cases negative with
  | true =>
    have scale : (0 : ℚ) < 10 ^ exp := zpow_pos (by norm_num) _
    have small : (Number.finite true coef exp).value ≤ 0 := by
      rw [Number.value, Number.signed, if_pos rfl]
      exact mul_nonpos_of_nonpos_of_nonneg (by simp) scale.le
    exact absurd positive (not_lt.mpr small)
  | false =>
    refine ⟨rfl, Nat.pos_of_ne_zero ?_⟩
    rintro rfl
    simp [Number.value, Number.signed] at positive

/-- The units of an amount that is not negative. -/
theorem units_finite (coef : Nat) (exp : Int) :
    units (.finite false coef exp) decimals = truncate (coef * 10 ^ decimals) exp := by
  rw [truncate_eq_floor, units, Number.value, Number.signed, if_neg Bool.false_ne_true]
  push_cast
  rw [mul_right_comm]

/-- The encoded amount is the whole units in the amount, and some, exactly where these are
kept. -/
theorem toRawAmount_exact_iff (above : amount.le (.ofNat 0) = .ok false)
    (converted : toRawAmount amount decimals = .ok raw) :
    (0 < units amount decimals ∧ raw = units amount decimals) ↔ KeepsUnits amount decimals := by
  simp only [toRawAmount, bind_eq_ok, trap_eq_ok, orRaise_eq_ok] at converted
  obtain ⟨product, multiplied, whole, rounded, integer⟩ := converted
  rw [Number.toInt_toIntegralDown rounded] at integer
  cases amount with
  | nan signaling => cases signaling <;> cases above
  | infinity negative =>
    -- the product is infinite too, and no integer
    rw [Number.ofNat, Context.mul, if_neg (by positivity)] at multiplied
    rw [← Except.ok.inj multiplied] at integer
    cases integer
  | finite negative coef exp =>
    obtain ⟨rfl, positive⟩ := positive_of_not_le above
    have some : 0 < units (.finite false coef exp) decimals ↔
        1 ≤ (Number.finite false coef exp).value * 10 ^ decimals := by
      rw [units, Int.floor_pos]
    rw [KeepsUnits, ← some]
    refine and_congr_right fun whole => ?_
    rw [units_finite] at whole ⊢
    have normal := digits_of_truncate_pos (Int.natCast_pos.mp whole)
    rw [Number.ofNat, Context.mul, add_zero] at multiplied
    obtain ⟨kept, shift, rfl, same⟩ := Context.fix_truncate (by decide)
      (by positivity) (by unfold Context.default Context.etiny; dsimp only; omega) multiplied
    have converted : raw = truncate kept shift := (Option.some.inj integer).symm
    rw [← truncate_halfEven_iff, converted, same]
    exact Nat.cast_inj

end

/-- What a plan encodes, by what was found for it. -/
theorem plan_calls {tool : Tool} {action : String} {params : Params} {found : Found}
    {plan : DeFiCallPlan} (planned : tool.plan action params found = .ok plan) :
    plan.actionCall.calldata.args[1]? = some (.uint found.rawAmount) ∧
      (action = "deposit" → plan.approvalCall = some ⟨found.asset.address, 0, ⟨"approve",
        [.address plan.actionCall.target, .uint found.rawAmount]⟩⟩) := by
  have called : ∀ target calldata call, tool.call target calldata = .ok call →
      call = ⟨target, 0, calldata⟩ := by
    intro target calldata call returned
    unfold Tool.call at returned
    split at returned
    · cases returned
    · exact (Except.ok.inj returned).symm
  simp only [Tool.plan, bind_eq_ok, orRaise_eq_ok, pure_eq_ok] at planned
  obtain ⟨onBehalfOf, -, calls, made, rfl⟩ := planned
  unfold Tool.calls at made
  split at made
  next deposit =>
    simp only [bind_eq_ok, pure_eq_ok, Tool.buildApprovalCall] at made
    obtain ⟨actionCall, acted, approvalCall, approved, rfl⟩ := made
    obtain rfl := called _ _ _ acted
    obtain rfl := called _ _ _ approved
    exact ⟨by cases found.adapter <;> rfl, fun _ => rfl⟩
  next other =>
    refine ⟨?_, fun deposit => absurd deposit other⟩
    split at made
    · simp only [bind_eq_ok, pure_eq_ok] at made
      obtain ⟨actionCall, acted, rfl⟩ := made
      obtain rfl := called _ _ _ acted
      cases found.adapter <;> rfl
    · cases made

/-- What is found for a plan is what the parameters name. -/
theorem find_ok {tool : Tool} {params : Params} {found : Found}
    (returned : tool.find params = .ok found) :
    ∃ symbol given, params.asset = some symbol ∧
      tool.assetRegistry symbol = some found.asset ∧ params.amount = some given ∧
      toDecimalAmount given found.asset = .ok found.amount ∧
      toRawAmount found.amount found.asset.decimals = .ok found.rawAmount := by
  simp only [Tool.find, bind_eq_ok, orRaise_eq_ok, pure_eq_ok] at returned
  obtain ⟨_, -, _, -, symbol, named, _, -, _, -, asset, registered, given, passed, amount,
    accepted, rawAmount, converted, rfl⟩ := returned
  exact ⟨symbol, given, named, registered, passed, accepted, converted⟩

/-- A plan is built of what is found for it. -/
theorem buildCallPlan_ok {tool : Tool} {action : String} {params : Params} {reads : Reads}
    {circuit : CircuitBreaker} {plan : DeFiCallPlan}
    (built : (tool.buildCallPlan action params reads circuit).1 = .ok plan) :
    ∃ found, tool.find params = .ok found ∧ tool.plan action params found = .ok plan := by
  unfold Tool.buildCallPlan at built
  split at built
  · cases built
  next found returned =>
    refine ⟨found, returned, ?_⟩
    split at built
    · cases built
    · exact built

/-- An amount of 28 digits at most is exact. -/
theorem keepsUnits_iff_of_digits {negative : Bool} {coef decimals : Nat} {exp : Int}
    (few : digits coef ≤ 28) :
    KeepsUnits (.finite negative coef exp) decimals ↔
      1 ≤ (Number.finite negative coef exp).value * 10 ^ decimals := by
  refine and_iff_left (kept_of_dvd exp (dvd_mul_of_dvd_right (pow_dvd_pow 10 ?_) coef))
  have bound : digits (coef * 10 ^ decimals) ≤ 28 + decimals := by
    rw [digits_le_iff, pow_add]
    exact Nat.mul_lt_mul_of_pos_right (digits_le_iff.mp few) (by positivity)
  omega

/-- A plan encodes the whole units in the amount, and some, exactly where they are kept. -/
theorem plan_exact_iff {tool : Tool} {action symbol : String} {params : Params} {reads : Reads}
    {circuit : CircuitBreaker} {amount : Number} {asset : AssetConfig} {plan : DeFiCallPlan}
    (given : params.amount = some (.ok amount)) (named : params.asset = some symbol)
    (registered : tool.assetRegistry symbol = some asset)
    (built : (tool.buildCallPlan action params reads circuit).1 = .ok plan) :
    Exact amount asset action plan ↔ KeepsUnits amount asset.decimals := by
  obtain ⟨found, returned, planned⟩ := buildCallPlan_ok built
  obtain ⟨_, _, named', registered', given', accepted, converted⟩ := find_ok returned
  cases named.symm.trans named'
  cases given.symm.trans given'
  cases registered.symm.trans registered'
  obtain ⟨same, above⟩ := toDecimalAmount_ok accepted
  cases same
  have calls := plan_calls planned
  rw [← toRawAmount_exact_iff above converted]
  refine and_congr_right fun _ => ⟨fun encoded => ?_, fun encoded => ?_⟩
  · have pair := calls.1.symm.trans encoded.1
    simpa using pair
  · rw [← encoded]
    exact calls

section Sample

def usdc : AssetConfig := ⟨"0xA0b86991c6218b36c1d19D4a2e9Eb0cE3606eB48", 6, none, none⟩

def aave : Tool where
  poolRegistry protocol chainId :=
    if protocol = "aave" ∧ chainId = 1 then
      some ⟨"0x87870Bca3F3fD6335C3F4ce8392D69350B4fA4E2"⟩
    else none
  assetRegistry symbol := if symbol = "USDC" then some usdc else none
  encodeABI _ _ := none

def deposit (amount : Number) : Params :=
  ⟨some "aave", some 1, some "USDC", some (.ok amount), some "0x1"⟩

def reads : Reads := ⟨0, none, .ok false, id, 0⟩

/-- 100.5 USDC. -/
def hundred : Number := .finite false 1005 (-1)

/-- 0.0000001 USDC. -/
def dust : Number := .finite false 1 (-7)

/-- 0.99999999999999999999999999999 USDC. -/
def nines : Number := .finite false 99999999999999999999999999999 (-29)

/-- What a deposit of so much is built as. -/
def deposited (amount : Number) (raw : Int) : DeFiCallPlan where
  approvalCall := some ⟨usdc.address, 0, ⟨"approve",
    [.address "0x87870Bca3F3fD6335C3F4ce8392D69350B4fA4E2", .uint raw]⟩⟩
  actionCall := ⟨"0x87870Bca3F3fD6335C3F4ce8392D69350B4fA4E2", 0, ⟨"supply",
    [.address usdc.address, .uint raw, .address "0x1", .uint 0]⟩⟩
  protocol := "aave"
  assetSymbol := "USDC"
  amount := amount

theorem plan_exact_hundred :
    Exact hundred usdc "deposit" (deposited hundred 100500000) ↔ KeepsUnits hundred 6 := by
  have built : (aave.buildCallPlan "deposit" (deposit hundred) reads .new).1 =
      .ok (deposited hundred 100500000) := rfl
  have named : (deposit hundred).asset = some "USDC" := rfl
  exact plan_exact_iff rfl named rfl built

/-- A deposit of dust is built for no unit at all, and one of almost a dollar is rounded up. -/
theorem plan_not_exact :
    ((aave.buildCallPlan "deposit" (deposit dust) reads .new).1 = .ok (deposited dust 0) ∧
        ¬ Exact dust usdc "deposit" (deposited dust 0)) ∧
      (aave.buildCallPlan "deposit" (deposit nines) reads .new).1 =
          .ok (deposited nines 1000000) ∧
        ¬ Exact nines usdc "deposit" (deposited nines 1000000) := by
  refine ⟨⟨rfl, fun exact => ?_⟩, rfl, fun exact => ?_⟩
  · have some := exact.1
    rw [dust, units_finite] at some
    exact absurd some (by decide)
  · have encoded := exact.2.1
    rw [nines, units_finite] at encoded
    exact absurd encoded (by decide)

end Sample

end BigX.ToolRouter.DeFiTool
