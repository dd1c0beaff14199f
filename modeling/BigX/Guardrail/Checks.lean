import BigX.Text.Wrap
import Mathlib.Data.List.DropRight
import Mathlib.Data.List.Dedup

set_option autoImplicit false

/- The guardrail service. It sanitises a message and checks what it has sanitised. -/
namespace BigX.Guardrail

abbrev Text := List Char

/-- What Unicode's tables say of NFKC, and of the lower case of the character at an index of a
text, which is never an ASCII character except for those spelled out below. -/
structure Unicode where
  nfkc : Text → Text
  lowerAt : Text → Nat → {char : Char // 128 ≤ char.toNat}

/-- `str.isspace` and `\s` -/
def isSpace (char : Char) : Bool :=
  let code := char.toNat
  (9 ≤ code ∧ code ≤ 13) ∨ (28 ≤ code ∧ code ≤ 32) ∨ (8192 ≤ code ∧ code ≤ 8202) ∨
    code ∈ [133, 160, 5760, 8232, 8233, 8239, 8287, 12288]

def lowerAscii (char : Char) : Char :=
  if 65 ≤ char.toNat ∧ char.toNat ≤ 90 then Char.ofNat (char.toNat + 32) else char

def Unicode.lowerChar (unicode : Unicode) (text : Text) (char : Char) (index : Nat) : Text :=
  if char.toNat < 128 then [lowerAscii char]
  else if char = '\u0130' then ['i', '\u0307']
  else if char = '\u212a' then ['k']
  else [unicode.lowerAt text index]

/-- `str.lower` -/
def Unicode.lower (unicode : Unicode) (text : Text) : Text :=
  text.zipIdx.flatMap fun (char, index) => unicode.lowerChar text char index

/-- `str.strip` -/
def strip (text : Text) : Text :=
  (text.dropWhile isSpace).rdropWhile isSpace

/-- `needle in text` -/
def contains (needle : String) (text : Text) : Bool :=
  needle.toList <:+: text

/-- The ASCII letter a character is read as by `re.IGNORECASE`. -/
def ignoreCase (char : Char) : Char :=
  if char = '\u0130' ∨ char = '\u0131' then 'i'
  else if char = '\u017f' then 's'
  else if char = '\u212a' then 'k'
  else lowerAscii char

/-- A literal at the head of a text, whatever its case. -/
def literal (word : String) (text : Text) : Option Nat :=
  if (text.take word.length).map ignoreCase = word.toList then some word.length else none

/-- `role\s*:` -/
def roleMarker (role : String) (text : Text) : Option Nat :=
  (literal role text).bind fun size =>
    let spaces := (text.drop size).takeWhile isSpace
    if (text.drop (size + spaces.length)).head? = some ':' then some (size + spaces.length + 1)
    else none

/-- `.*?\|>` -/
def tokenEnd : Text → Option Nat
  | [] => none
  | char :: rest =>
      if char = '|' ∧ rest.head? = some '>' then some 2
      else if char = '\n' then none
      else (tokenEnd rest).map (· + 1)

/-- `<\|.*?\|>` -/
def specialToken (text : Text) : Option Nat :=
  (literal "<|" text).bind fun size => (tokenEnd (text.drop size)).map (size + ·)

/-- `_INJECTION_WRAPPERS`: the length of its match at the head of a text. -/
def injectionWrappers (text : Text) : Option Nat :=
  roleMarker "system" text <|> roleMarker "assistant" text <|> specialToken text <|>
    literal "[inst]" text <|> literal "[/inst]" text

def invisibleChars : List Char := ['\u200b', '\u200c', '\u200d', '\u2060', '\ufeff']

def maxMessageLength : Nat := 4000

def stripInvisibleChars (text : Text) : Text :=
  text.filter fun char => char ∉ invisibleChars

def neutralizeInjectionWrappers (text : Text) : Text :=
  Text.wrapped '[' ']' (Text.marks injectionWrappers 0 text)

def truncate (text : Text) : Text :=
  if maxMessageLength < text.length then text.take maxMessageLength else text

def sanitize (unicode : Unicode) (rawMessage : Text) : Text :=
  let message := unicode.nfkc rawMessage
  let message := stripInvisibleChars message
  let message := neutralizeInjectionWrappers message
  let message := truncate message
  strip message

inductive IntentCategory
  | defiAction
  | portfolioQuery
  | generalQuestion
  | offScope
  | suspicious
  deriving DecidableEq

structure IntentResult where
  category : IntentCategory
  confidence : Rat
  allowed : Bool
  reason : Option String := none

def actionKeywords : List String :=
  ["buy", "sell", "swap", "bridge", "deposit", "withdraw", "stake", "farm", "trade"]

def queryKeywords : List String :=
  ["balance", "portfolio", "how much", "what's my", "show me my"]

def suspiciousPatterns : List String :=
  ["ignore previous instructions", "ignore all previous", "disregard your instructions",
    "you are now", "system prompt", "reveal your instructions"]

/-- `IntentCheckAgent.check`, of an agent without a language model. -/
def checkIntent (unicode : Unicode) (userMessage : Text) : IntentResult :=
  let lowered := unicode.lower userMessage
  if suspiciousPatterns.any fun pattern => contains pattern lowered then
    { category := .suspicious
      confidence := 9 / 10
      allowed := false
      reason := some "Message contains a known prompt-injection pattern" }
  else if actionKeywords.any fun keyword => contains keyword lowered then
    { category := .defiAction, confidence := 8 / 10, allowed := true }
  else if queryKeywords.any fun keyword => contains keyword lowered then
    { category := .portfolioQuery, confidence := 8 / 10, allowed := true }
  else { category := .generalQuestion, confidence := 5 / 10, allowed := true }

/-- `AbuseCheckResult` and `PolicyCheckResult` -/
structure CheckResult where
  allowed : Bool
  reason : Option String := none

def checkRepeatedContent (message : Text) : CheckResult :=
  let stripped := strip message
  if 20 < stripped.length ∧ stripped.dedup.length ≤ 3 then
    { allowed := false, reason := some "Message flagged as low-quality/repetitive content" }
  else { allowed := true }

/-- `AbuseDetectionService.check`; `checkRateLimit` is what redis makes of the user. -/
def checkAbuse (checkRateLimit : String → CheckResult) (userId : String) (message : Text) :
    CheckResult :=
  let rateResult := checkRateLimit userId
  if !rateResult.allowed then rateResult
  else
    let patternResult := checkRepeatedContent message
    if !patternResult.allowed then patternResult else { allowed := true }

structure User where
  isActive : Bool
  tier : String

def getUser (_userId : String) : Option User := some ⟨true, "free"⟩

def getDailyActionCount (_userId : String) : Nat := 0

def restrictedActionTypesByTier (tier : String) : List String :=
  if tier = "free" then ["bridge", "lending"] else []

def maxDailyActionsByTier (tier : String) : Nat :=
  if tier = "free" then 10
  else if tier = "pro" then 100
  else if tier = "enterprise" then 10000
  else 10

/-- `PolicyCheckService.check`, with sessions that open. -/
def checkPolicy (userId actionType : String) : CheckResult :=
  match getUser userId with
  | none => { allowed := false, reason := some "User not found" }
  | some user =>
      if !user.isActive then { allowed := false, reason := some "Account is suspended" }
      else if actionType ∈ restrictedActionTypesByTier user.tier then
        { allowed := false
          reason := some ("'" ++ actionType ++ "' requires a higher account tier") }
      else if maxDailyActionsByTier user.tier ≤ getDailyActionCount userId then
        { allowed := false, reason := some "Daily action limit reached" }
      else { allowed := true }

structure GuardrailRequest where
  taskId : String
  agentId : String
  message : Text

structure GuardrailResponse where
  allowed : Bool
  status : String
  reason : Option String := none

def checkGuardrails (unicode : Unicode) (checkRateLimit : String → CheckResult)
    (payload : GuardrailRequest) : GuardrailResponse :=
  let sanitizedMessage := sanitize unicode payload.message
  let intentResult := checkIntent unicode sanitizedMessage
  if !intentResult.allowed then
    { allowed := false, status := "blocked", reason := intentResult.reason }
  else
    let abuseResult := checkAbuse checkRateLimit payload.agentId sanitizedMessage
    if !abuseResult.allowed then
      { allowed := false, status := "blocked", reason := abuseResult.reason }
    else
      let policyResult := checkPolicy payload.agentId "defi_action"
      if !policyResult.allowed then
        { allowed := false, status := "blocked", reason := policyResult.reason }
      else { allowed := true, status := "allowed" }

end BigX.Guardrail
