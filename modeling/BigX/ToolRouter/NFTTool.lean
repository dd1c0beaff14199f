import BigX.Run.Outcome
import Mathlib.Data.List.Basic

set_option autoImplicit false

/- `NFTTool.build_call`: the checks of a trade, the call that is built for it, and the audit entry
and the notifications around them. The checks read the parameters as numbers and addresses, the
call takes them as they are. -/
namespace BigX.ToolRouter.NFTTool

open Run (bind_eq_ok pure_eq_ok)

-- values that are neither `None` nor plain integers, and encoded calls
variable {Other Bytes : Type}

/-- An exception of what is called. A cancelled task's is not an `Exception`. -/
inductive Failure
  | cancelled
  | exception (text : String)
  deriving DecidableEq

/-- `NFTToolBlockedError`, or what is called raises. -/
inductive Raised
  | blocked (reason : String)
  | failure (failure : Failure)
  deriving DecidableEq

inductive Value (Other : Type)
  | none
  | int (n : Int)
  | other (value : Other)
  deriving DecidableEq

/-- `int`, the truth value and `str` of such other values. -/
structure Python (Other : Type) where
  int : Other → Except Failure Int
  truthy : Other → Bool
  str : Other → String

def Python.toInt (python : Python Other) : Value Other → Except Failure Int
  | .none => .error (.exception ("int() argument must be a string, a bytes-like object or a " ++
      "real number, not 'NoneType'"))
  | .int n => .ok n
  | .other value => python.int value

def Python.isTrue (python : Python Other) : Value Other → Bool
  | .none => false
  | .int n => n ≠ 0
  | .other value => python.truthy value

def Python.toStr (python : Python Other) : Value Other → String
  | .none => "None"
  | .int n => toString n
  | .other value => python.str value

/-- `params`, in which a key may be missing. -/
structure Params (Other : Type) where
  nftId : Option (Value Other)
  priceWei : Option (Value Other)
  buyerAddress : Option (Value Other)
  sellerAddress : Option (Value Other)
  amountUsd : Option (Value Other)

structure ToolCall (Other Bytes : Type) where
  target : String
  value : Value Other
  calldata : Bytes
  deriving DecidableEq

structure AuditLog (Other : Type) where
  correlationId : String
  agentId : String
  userId : String
  action : String
  targetNftId : String
  counterpartyAddress : Value Other
  priceWei : Value Other
  allowed : Bool
  blockReason : Option String
  txTarget : Option String

inductive NotificationType
  | executionFailed
  | marketplaceSale
  deriving DecidableEq

structure Notification where
  type : NotificationType
  recipientUserId : String
  subject : String
  body : String
  deriving DecidableEq

/-- The tool's configuration, and how what it calls behaves: the contract's encoding, the policy
client, the spend limits, the checksum of an address, the database, the dispatcher and the
histogram. -/
structure Tool (Other Bytes : Type) where
  python : Python Other
  contract : String
  blockedNftIds : List Int
  addressBlacklist : List String
  maxReasonablePriceWei : Int
  encodeABI : String → List (Value Other) → Except Failure Bytes
  checkAction : String → String → Int → Bytes → Except Failure (Bool × String)
  check : String → Value Other → Except Failure (Bool × String)
  toChecksumAddress : Value Other → Except Failure String
  commit : AuditLog Other → Option Failure
  dispatch : Notification → Option Failure
  observe : Value Other → Option Failure

/-- A call of `build_call`. -/
structure Request (Other : Type) where
  action : String
  params : Params Other
  agentId : String
  userId : String
  correlationId : String

/-- `params[key]` -/
def getItem (found : Option (Value Other)) (key : String) : Except Failure (Value Other) :=
  match found with
  | none => .error (.exception ("'" ++ key ++ "'"))
  | some value => .ok value

/-- `params.get(key)` -/
def get (found : Option (Value Other)) : Value Other := found.getD .none

/-- What is called raises, or returns. -/
def orRaise {α : Type} : Except Failure α → Except Raised α
  | .error failure => .error (.failure failure)
  | .ok result => .ok result

def refuseUnless (allowed : Bool) (reason : String) : Except Raised Unit :=
  if allowed then .ok () else .error (.blocked reason)

section

variable (tool : Tool Other Bytes) (request : Request Other)

def checkActionSupported (action : String) : Except Raised Unit :=
  if action ∈ ["buy", "list", "cancel"] then .ok ()
  else .error (.failure (.exception ("Unsupported nft_tool action: " ++ action)))

/-- The addresses of a trade that are given. -/
def addressesToCheck : List (Value Other) :=
  ((if request.action = "buy" then [get request.params.buyerAddress] else []) ++
    if request.action = "buy" ∨ request.action = "list" then [get request.params.sellerAddress]
    else []).filter tool.python.isTrue

def checkAddresses : List (Value Other) → Except Raised Unit
  | [] => .ok ()
  | address :: rest => do
      let checksum ← orRaise (tool.toChecksumAddress address)
      refuseUnless (checksum ∉ tool.addressBlacklist)
        ("Address " ++ checksum ++ " is on the blocklist")
      checkAddresses rest

def checkBlocklists : Except Raised Unit := do
  let given ← orRaise (getItem request.params.nftId "nft_id")
  let nftId ← orRaise (tool.python.toInt given)
  refuseUnless (nftId ∉ tool.blockedNftIds)
    ("NFT " ++ toString nftId ++ " is on the trading-blocked list")
  checkAddresses tool (addressesToCheck tool request)

/-- The spend limits are asked where the amount in dollars is given. -/
def checkSpendLimits : Except Raised Unit :=
  match get request.params.amountUsd with
  | .none => .ok ()
  | amountUsd => do
      let spend ← orRaise (tool.check request.agentId amountUsd)
      refuseUnless spend.1 ("SpendLimits rejected: " ++ spend.2)

def checkPolicyAndSpendLimits : Except Raised Unit :=
  if request.action ≠ "buy" then .ok ()
  else do
    let price ← orRaise (getItem request.params.priceWei "price_wei")
    let priceWei ← orRaise (tool.python.toInt price)
    let given ← orRaise (getItem request.params.nftId "nft_id")
    let nftId ← orRaise (tool.python.toInt given)
    let calldata ← orRaise (tool.encodeABI "buy" [.int nftId])
    let answer ← orRaise (tool.checkAction request.agentId tool.contract priceWei calldata)
    refuseUnless answer.1 ("PolicyEngine rejected: " ++ answer.2)
    checkSpendLimits tool request

/-- The checks, before a call is built. -/
def checks : Except Raised Unit := do
  checkActionSupported request.action
  checkBlocklists tool request
  checkPolicyAndSpendLimits tool request

def buildBuy : Except Failure (ToolCall Other Bytes) := do
  let nftId ← getItem request.params.nftId "nft_id"
  let priceWei ← getItem request.params.priceWei "price_wei"
  let calldata ← tool.encodeABI "buy" [nftId]
  return ⟨tool.contract, priceWei, calldata⟩

def buildList : Except Failure (ToolCall Other Bytes) := do
  let nftId ← getItem request.params.nftId "nft_id"
  let priceWei ← getItem request.params.priceWei "price_wei"
  let calldata ← tool.encodeABI "list" [nftId, priceWei]
  return ⟨tool.contract, .int 0, calldata⟩

def buildCancel : Except Failure (ToolCall Other Bytes) := do
  let nftId ← getItem request.params.nftId "nft_id"
  let calldata ← tool.encodeABI "cancelListing" [nftId]
  return ⟨tool.contract, .int 0, calldata⟩

def buildActionCall : Except Failure (ToolCall Other Bytes) :=
  if request.action = "buy" then buildBuy tool request
  else if request.action = "list" then buildList tool request
  else buildCancel tool request

def auditEntry (allowed : Bool) (blockReason txTarget : Option String) : AuditLog Other where
  correlationId := request.correlationId
  agentId := request.agentId
  userId := request.userId
  action := request.action
  targetNftId := (request.params.nftId.map tool.python.toStr).getD ""
  counterpartyAddress :=
    if tool.python.isTrue (get request.params.sellerAddress) then
      get request.params.sellerAddress
    else get request.params.buyerAddress
  priceWei := get request.params.priceWei
  allowed := allowed
  blockReason := blockReason
  txTarget := txTarget

/-- What an audit raises: the database's exceptions are only logged. -/
def auditRaises (entry : AuditLog Other) : Option Failure :=
  match tool.commit entry with
  | some .cancelled => some .cancelled
  | _ => none

def blockedNotification (reason : String) : Notification where
  type := .executionFailed
  recipientUserId := request.userId
  subject := "NFT trade blocked"
  body := "Your " ++ request.action ++ " request for NFT " ++
    tool.python.toStr (get request.params.nftId) ++ " was blocked: " ++ reason

def highValueNotification (priceWei : Int) : Notification where
  type := .marketplaceSale
  recipientUserId := request.userId
  subject := "High-value NFT purchase pending"
  body := "Agent is about to buy NFT " ++ tool.python.toStr (get request.params.nftId) ++
    " for " ++ toString priceWei ++ " wei — above your review threshold."

/-- What `_maybe_notify_high_value` dispatches. -/
def maybeHighValue : Except Failure (Option Notification) :=
  if request.action ≠ "buy" then .ok none
  else
    match tool.python.toInt (request.params.priceWei.getD (.int 0)) with
    | .error failure => .error failure
    | .ok priceWei =>
        if priceWei < tool.maxReasonablePriceWei then .ok none
        else .ok (some (highValueNotification tool request priceWei))

/-- What `_maybe_notify_high_value` raises. -/
def highValueRaises : Option Failure :=
  match maybeHighValue tool request with
  | .error failure => some failure
  | .ok none => none
  | .ok (some notification) => tool.dispatch notification

/-- The value that is observed. -/
def observed (call : ToolCall Other Bytes) : Value Other :=
  if tool.python.isTrue call.value then call.value
  else request.params.priceWei.getD (.int 0)

/-- What `build_call` audits, and how it ends. -/
structure Called (Other Bytes : Type) where
  audits : List (AuditLog Other)
  result : Except Raised (ToolCall Other Bytes)

/-- The branch of a trade that is rejected. -/
def reject (reason : String) : Called Other Bytes :=
  let entry := auditEntry tool request false (some reason) none
  match auditRaises tool entry with
  | some failure => ⟨[entry], .error (.failure failure)⟩
  | none =>
      match tool.dispatch (blockedNotification tool request reason) with
      | some failure => ⟨[entry], .error (.failure failure)⟩
      | none => ⟨[entry], .error (.blocked reason)⟩

/-- What follows a call that is built. -/
def accept (call : ToolCall Other Bytes) : Called Other Bytes :=
  let entry := auditEntry tool request true none (some call.target)
  match auditRaises tool entry with
  | some failure => ⟨[entry], .error (.failure failure)⟩
  | none =>
      match highValueRaises tool request with
      | some failure => ⟨[entry], .error (.failure failure)⟩
      | none =>
          match tool.observe (observed tool request call) with
          | some failure => ⟨[entry], .error (.failure failure)⟩
          | none => ⟨[entry], .ok call⟩

def buildCall : Called Other Bytes :=
  match checks tool request with
  | .error (.blocked reason) => reject tool request reason
  | .error (.failure failure) => ⟨[], .error (.failure failure)⟩
  | .ok () =>
      match buildActionCall tool request with
      | .error failure => ⟨[], .error (.failure failure)⟩
      | .ok call => accept tool request call

end

section

variable {tool : Tool Other Bytes} {request : Request Other}

@[simp] theorem orRaise_eq_ok {α : Type} (returned : Except Failure α) (result : α) :
    orRaise returned = .ok result ↔ returned = .ok result := by
  cases returned <;> simp [orRaise]

@[simp] theorem getItem_eq_ok (found : Option (Value Other)) (key : String) (value : Value Other) :
    getItem found key = .ok value ↔ found = some value := by
  cases found <;> simp [getItem]

@[simp] theorem refuseUnless_eq_ok (allowed : Bool) (reason : String) (result : Unit) :
    refuseUnless allowed reason = .ok result ↔ allowed = true := by
  cases allowed <;> simp [refuseUnless]

theorem reject_error (reason : String) {call : ToolCall Other Bytes} :
    (reject tool request reason).result ≠ .ok call := by
  unfold reject
  dsimp only
  split
  · simp
  · split <;> simp

theorem accept_ok {call returned : ToolCall Other Bytes}
    (accepted : (accept tool request call).result = .ok returned) : returned = call := by
  unfold accept at accepted
  dsimp only at accepted
  split at accepted
  · cases accepted
  · split at accepted
    · cases accepted
    · split at accepted
      · cases accepted
      · exact (Except.ok.inj accepted).symm

/-- A call that is returned passed the checks and was built. -/
theorem buildCall_ok {call : ToolCall Other Bytes}
    (returned : (buildCall tool request).result = .ok call) :
    checks tool request = .ok () ∧ buildActionCall tool request = .ok call := by
  unfold buildCall at returned
  split at returned
  next reason _ => exact absurd returned (reject_error reason)
  · cases returned
  next passed =>
    split at returned
    · cases returned
    next built built_eq =>
      rw [accept_ok returned]
      exact ⟨passed, built_eq⟩

/-- No address that is checked has its checksum on the list. -/
theorem checkAddresses_ok {addresses : List (Value Other)}
    (passed : checkAddresses tool addresses = .ok ()) :
    ∀ address ∈ addresses, ∃ checksum, tool.toChecksumAddress address = .ok checksum ∧
      checksum ∉ tool.addressBlacklist := by
  induction addresses with
  | nil => simp
  | cons first rest ih =>
    simp only [checkAddresses, bind_eq_ok, orRaise_eq_ok, refuseUnless_eq_ok,
      decide_eq_true_eq] at passed
    obtain ⟨checksum, summed, _, absent, later⟩ := passed
    intro address member
    rcases List.mem_cons.mp member with rfl | member
    · exact ⟨checksum, summed, absent⟩
    · exact ih later address member

/-- An amount in dollars that is given is allowed. -/
theorem checkSpendLimits_ok {amountUsd : Value Other}
    (passed : checkSpendLimits tool request = .ok ())
    (given : request.params.amountUsd = some amountUsd) (present : amountUsd ≠ .none) :
    ∃ reason, tool.check request.agentId amountUsd = .ok (true, reason) := by
  unfold checkSpendLimits at passed
  rw [get, given, Option.getD_some] at passed
  split at passed
  · exact absurd rfl present
  · simp only [bind_eq_ok, orRaise_eq_ok, refuseUnless_eq_ok] at passed
    obtain ⟨⟨allowed, reason⟩, answered, rfl⟩ := passed
    exact ⟨reason, answered⟩

theorem checkBlocklists_ok (passed : checkBlocklists tool request = .ok ()) :
    (∃ given nftId, request.params.nftId = some given ∧ tool.python.toInt given = .ok nftId ∧
        nftId ∉ tool.blockedNftIds) ∧
      ∀ address ∈ addressesToCheck tool request, ∃ checksum,
        tool.toChecksumAddress address = .ok checksum ∧ checksum ∉ tool.addressBlacklist := by
  simp only [checkBlocklists, bind_eq_ok, orRaise_eq_ok, getItem_eq_ok, refuseUnless_eq_ok,
    decide_eq_true_eq] at passed
  obtain ⟨given, named, nftId, converted, _, free, addresses⟩ := passed
  exact ⟨⟨given, nftId, named, converted, free⟩, checkAddresses_ok addresses⟩

/-- What the policy client is asked about a purchase. -/
theorem checkPolicy_ok (buys : request.action = "buy")
    (passed : checkPolicyAndSpendLimits tool request = .ok ()) :
    (∃ price priceWei given nftId calldata reason, request.params.priceWei = some price ∧
        tool.python.toInt price = .ok priceWei ∧ request.params.nftId = some given ∧
        tool.python.toInt given = .ok nftId ∧ tool.encodeABI "buy" [.int nftId] = .ok calldata ∧
        tool.checkAction request.agentId tool.contract priceWei calldata = .ok (true, reason)) ∧
      checkSpendLimits tool request = .ok () := by
  unfold checkPolicyAndSpendLimits at passed
  rw [if_neg (by simp [buys])] at passed
  simp only [bind_eq_ok, orRaise_eq_ok, getItem_eq_ok, refuseUnless_eq_ok] at passed
  obtain ⟨price, priced, priceWei, converted, given, named, nftId, numbered, calldata, encoded,
    ⟨allowed, reason⟩, answered, _, rfl, spend⟩ := passed
  exact ⟨⟨price, priceWei, given, nftId, calldata, reason, priced, converted, named, numbered,
    encoded, answered⟩, spend⟩

/-- A purchase that the policy allowed as it is called, and that no list or limit stands
against. -/
structure Checked (tool : Tool Other Bytes) (request : Request Other)
    (call : ToolCall Other Bytes) : Prop where
  policy : ∃ price priceWei reason, request.params.priceWei = some price ∧
    tool.python.toInt price = .ok priceWei ∧ (∀ n, price = .int n → call.value = .int priceWei) ∧
    tool.checkAction request.agentId call.target priceWei call.calldata = .ok (true, reason)
  spend : ∀ amountUsd, request.params.amountUsd = some amountUsd → amountUsd ≠ .none →
    ∃ reason, tool.check request.agentId amountUsd = .ok (true, reason)
  nft : ∃ nftId, request.params.nftId = some (.int nftId) ∧ nftId ∉ tool.blockedNftIds
  addresses : ∀ address, tool.python.isTrue address = true →
    (request.params.buyerAddress = some address ∨ request.params.sellerAddress = some address) →
    ∃ checksum, tool.toChecksumAddress address = .ok checksum ∧
      checksum ∉ tool.addressBlacklist

end

/-- A call to buy that is returned is checked, as far as the parameters name what to check. Only
integers are encoded. -/
theorem buy_checked {tool : Tool Other Bytes} {request : Request Other}
    {call : ToolCall Other Bytes}
    (encodes : ∀ value data, tool.encodeABI "buy" [value] = .ok data → ∃ n, value = .int n)
    (buys : request.action = "buy") (returned : (buildCall tool request).result = .ok call) :
    Checked tool request call := by
  obtain ⟨passed, built⟩ := buildCall_ok returned
  simp only [checks, bind_eq_ok] at passed
  obtain ⟨_, -, _, lists, policy⟩ := passed
  obtain ⟨⟨given, nftId, named, numbered, free⟩, addresses⟩ := checkBlocklists_ok lists
  obtain ⟨⟨price, priceWei, given', nftId', calldata, reason, priced, converted, named', numbered',
    encoded, answered⟩, spend⟩ := checkPolicy_ok buys policy
  cases named.symm.trans named'
  cases numbered.symm.trans numbered'
  simp only [buildActionCall, if_pos buys, buildBuy, bind_eq_ok, getItem_eq_ok,
    pure_eq_ok] at built
  obtain ⟨_, named', _, priced', _, encoded', rfl⟩ := built
  cases named.symm.trans named'
  cases priced.symm.trans priced'
  -- the calldata that is checked is that of the call, as only a plain integer is encoded
  obtain ⟨n, rfl⟩ := encodes _ _ encoded'
  cases numbered
  cases encoded.symm.trans encoded'
  refine ⟨⟨price, priceWei, reason, priced, converted, ?_, answered⟩, ?_, ⟨nftId, named, free⟩, ?_⟩
  · rintro m rfl
    cases converted
    rfl
  · intro amountUsd present some
    exact checkSpendLimits_ok spend present some
  · intro address isTrue names
    refine addresses address (List.mem_filter.mpr ⟨?_, isTrue⟩)
    rcases names with buyer | seller
    · simp [buys, get, buyer]
    · simp [buys, get, seller]

section Sample

/-- Other values are strings. -/
def strings : Python String where
  int text :=
    match text.toInt? with
    | some n => .ok n
    | none => .error (.exception "invalid literal for int() with base 10")
  truthy text := text ≠ ""
  str text := text

/-- The policy allows everything, and the spend limits nothing. -/
def refusing : Tool String String where
  python := strings
  contract := "0x00000000000000000000000000000000000000A1"
  blockedNftIds := [13]
  addressBlacklist := ["0x00000000000000000000000000000000000000B2"]
  maxReasonablePriceWei := 10000000000000000000
  encodeABI fnName args :=
    match args with
    | [.int n] => .ok (fnName ++ toString n)
    | _ => .error (.exception "Could not identify the intended function")
  checkAction _ _ _ _ := .ok (true, "allowed")
  check _ _ := .ok (false, "daily limit")
  toChecksumAddress value :=
    match value with
    | .other text => .ok text
    | _ => .error (.exception "Unknown format")
  commit _ := none
  dispatch _ := none
  observe _ := none

/-- A purchase of a token, with nothing but what `buy` needs. -/
def purchase : Request String :=
  ⟨"buy", ⟨some (.int 7), some (.int 1000000000000000000), none, none, none⟩, "1", "u", "c"⟩

def purchaseCall : ToolCall String String := ⟨refusing.contract, .int 1000000000000000000, "buy7"⟩

theorem purchase_checked : Checked refusing purchase purchaseCall := by
  refine buy_checked ?_ rfl rfl
  intro value data encoded
  cases value with
  | int n => exact ⟨n, rfl⟩
  | none => cases encoded
  | other text => cases encoded

/-- A purchase that names no amount in dollars and no address is built, with no address checked,
under spend limits that allow nothing. -/
theorem purchase_unchecked :
    (buildCall refusing purchase).result = .ok purchaseCall ∧
      (¬ ∃ amountUsd reason, refusing.check purchase.agentId amountUsd = .ok (true, reason)) ∧
      addressesToCheck refusing purchase = [] := by
  refine ⟨rfl, ?_, rfl⟩
  rintro ⟨amountUsd, reason, allowed⟩
  cases allowed

end Sample

end BigX.ToolRouter.NFTTool
