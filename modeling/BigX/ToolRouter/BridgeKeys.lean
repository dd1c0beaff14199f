import BigX.Text.Integer
import BigX.ToolRouter.FailedQuote

set_option autoImplicit false

/- The keys under which the bridge tool takes two requests for one: the chains, the token, the
amount and the recipient written one after the other, with nothing between them. -/
namespace BigX.ToolRouter.BridgeKeys

open Decimals (Env)
open FailedQuote (Faults Stores User prepare)
open Text (numeral)

/-- What `quote` calls `_idempotent` with. -/
@[ext]
structure Asked where
  src : Int
  dst : Int
  token : String
  amt : Int
  toAddr : String
  deriving DecidableEq

/-- The text that `_idempotent` hashes. -/
def Asked.text (asked : Asked) : String :=
  asked.src.repr ++ asked.dst.repr ++ asked.token ++ asked.amt.repr ++ asked.toAddr

/-- `_idempotent` -/
def idempotent (sha256 : String → String) (src dst : Int) (token : String) (amt : Int)
    (toAddr : String) : String :=
  String.ofList ((sha256 (Asked.mk src dst token amt toAddr).text).toList.take 16)

/-- Forty hexadecimal digits, with `0x` before them or without. -/
def HexAddress (text : List Char) : Prop :=
  ∃ mark digits, text = mark ++ digits ∧ (mark = [] ∨ mark = ['0', 'x'] ∨ mark = ['0', 'X']) ∧
    digits.length = 40 ∧ ∀ digit ∈ digits, digit ∈ "0123456789abcdefABCDEF".toList

/-- `Web3.is_address`, of a text. Of what is written in hexadecimal it refuses the checksums that
are wrong. -/
structure Web3 where
  isAddress : String → Bool
  hexAddress : ∀ text, isAddress text = true → HexAddress text.toList

variable (web3 : Web3) (env : Env)

/-- A request for this reaches the marker against duplicates. -/
def Accepted (asked : Asked) : Prop :=
  ∃ (request : FailedQuote.Request) (faults : Faults Unit) (stores : Stores Unit) (user : User),
    request.src = asked.src ∧ request.dst = asked.dst ∧ request.token = asked.token ∧
      request.toAddr = asked.toAddr ∧ request.isAddress = web3.isAddress asked.toAddr ∧
      (prepare env request faults stores).2 = .ok (user, asked.amt)

variable {web3 env}

theorem prepare_ok {request : FailedQuote.Request} {faults : Faults Unit} {stores : Stores Unit}
    {accepted : User × Int} (prepared : (prepare env request faults stores).2 = .ok accepted) :
    env.connected request.src = true ∧ env.connected request.dst = true ∧
      request.isAddress = true := by
  unfold prepare at prepared
  cases user : request.user with
  | none =>
    rw [user] at prepared
    cases prepared
  | some user' =>
    rw [user] at prepared
    dsimp only at prepared
    split at prepared
    next => cases prepared
    next valid => simpa using valid

/-- A request that reaches the marker, with the decimals of its token in the tool's cache. -/
def Asked.request (asked : Asked) : FailedQuote.Request where
  tool := 0
  user := some ⟨"", "", ""⟩
  token := asked.token
  src := asked.src
  dst := asked.dst
  amount _ := .ok asked.amt
  toAddr := asked.toAddr
  isAddress := true
  maxSpend := 0

theorem prepare_request {asked : Asked} (source : env.connected asked.src = true)
    (destination : env.connected asked.dst = true) (faults : Faults Unit) (stores : Stores Unit) :
    (prepare env asked.request faults
      { stores with decimals := stores.decimals.keep 0 asked.token 18 }).2 =
        .ok (⟨"", "", ""⟩, asked.amt) := by
  have cached : (stores.decimals.keep 0 asked.token 18).cache 0 asked.token = some 18 := by
    simp [Decimals.State.keep]
  unfold prepare Env.decimals
  simp [Asked.request, source, destination, cached]

/-- `quote` looks at the chains and at the recipient, and at no more of the request. -/
theorem accepted_iff {asked : Asked} :
    Accepted web3 env asked ↔
      env.connected asked.src = true ∧ env.connected asked.dst = true ∧
        web3.isAddress asked.toAddr = true := by
  constructor
  · rintro ⟨request, faults, stores, user, source, destination, _, _, address, prepared⟩
    have valid := prepare_ok prepared
    rw [source, destination, address] at valid
    exact valid
  · rintro ⟨source, destination, address⟩
    exact ⟨asked.request, FailedQuote.smooth, _, _, rfl, rfl, rfl, rfl, address.symm,
      prepare_request source destination FailedQuote.smooth FailedQuote.start⟩

/-- The text up to the recipient. -/
def Asked.body (asked : Asked) : List Char :=
  numeral asked.src ++ numeral asked.dst ++ asked.token.toList ++ numeral asked.amt

theorem Asked.toList_text (asked : Asked) :
    asked.text.toList = asked.body ++ asked.toAddr.toList := by
  simp only [Asked.text, Asked.body, numeral, String.toList_append]

/-- The body ends with a digit of the amount. -/
theorem Asked.body_last (asked : Asked) :
    ∃ front, ∃ digit : Nat, digit < 10 ∧ asked.body = front ++ numeral digit := by
  obtain ⟨front, digit, small, whole, _⟩ := Text.numeral_last asked.amt
  refine ⟨numeral asked.src ++ numeral asked.dst ++ asked.token.toList ++ front, digit, small, ?_⟩
  rw [Asked.body, whole, ← List.append_assoc]

/-- The mark that ends with a letter; none ends with a digit. -/
def markOf (letter : Char) : List Char :=
  if letter = 'x' then ['0', 'x'] else if letter = 'X' then ['0', 'X'] else []

/-- The last character before the forty digits tells their mark. -/
theorem Asked.mark_eq (asked : Asked) {mark : List Char}
    (marked : mark = [] ∨ mark = ['0', 'x'] ∨ mark = ['0', 'X']) :
    ∃ letter, (asked.body ++ mark).getLast? = some letter ∧ mark = markOf letter := by
  rcases marked with rfl | rfl | rfl
  · obtain ⟨front, digit, small, whole⟩ := asked.body_last
    refine ⟨digit.digitChar, ?_, ?_⟩
    · rw [List.append_nil, whole, Text.numeral_digit small, List.getLast?_concat]
    · have isDigit : digit.digitChar.isDigit = true := by
        rw [Nat.isDigit_digitChar, decide_eq_true_eq]
        exact small
      have lower : digit.digitChar ≠ 'x' := fun same => absurd (same ▸ isDigit) (by decide)
      have upper : digit.digitChar ≠ 'X' := fun same => absurd (same ▸ isDigit) (by decide)
      rw [markOf, if_neg lower, if_neg upper]
  · exact ⟨'x', by simp, rfl⟩
  · exact ⟨'X', by simp, rfl⟩

/-- The last forty characters and their mark are the recipient: the amount before it ends with a
digit. -/
theorem recipient_eq {asked other : Asked} (address : HexAddress asked.toAddr.toList)
    (address' : HexAddress other.toAddr.toList) (same : other.text = asked.text) :
    other.toAddr = asked.toAddr ∧ other.body = asked.body := by
  obtain ⟨mark, digits, whole, marked, length, _⟩ := address
  obtain ⟨mark', digits', whole', marked', length', _⟩ := address'
  have lists := congrArg String.toList same
  rw [Asked.toList_text, Asked.toList_text, whole, whole', ← List.append_assoc,
    ← List.append_assoc] at lists
  obtain ⟨fronts, rfl⟩ := List.append_inj' lists (by omega)
  have marks : mark' = mark := by
    obtain ⟨letter, last, ends⟩ := asked.mark_eq marked
    obtain ⟨letter', last', ends'⟩ := other.mark_eq marked'
    rw [fronts, last] at last'
    rw [ends, ends', Option.some.inj last']
  subst marks
  exact ⟨String.toList_inj.mp (whole'.trans whole.symm), List.append_cancel_right fronts⟩

/-- The chains of a request with a text behind them: two connected chains spell its body up to a
place in it. -/
def Continues (asked : Asked) (src dst : Int) : Prop :=
  ∃ rest, rest ≠ [] ∧ numeral src ++ numeral dst ++ rest = asked.body

/-- Two texts of equal requests apart from the recipient, compared. -/
theorem text_eq_of_body {asked other : Asked} (same : other.body = asked.body)
    (recipient : other.toAddr = asked.toAddr) : other.text = asked.text := by
  apply String.toList_inj.mp
  rw [Asked.toList_text, Asked.toList_text, same, recipient]

theorem body_rest (asked : Asked) :
    numeral asked.src ++ numeral asked.dst ++ (asked.token.toList ++ numeral asked.amt) =
      asked.body := by
  simp only [Asked.body, List.append_assoc]

/-- No other request has the same text. -/
def Identified (web3 : Web3) (env : Env) (asked : Asked) : Prop :=
  ∀ other, Accepted web3 env other → other.text = asked.text → other = asked

theorem Identified.chains {asked : Asked} (accepted : Accepted web3 env asked)
    (identified : Identified web3 env asked) {src dst : Int} (source : env.connected src = true)
    (destination : env.connected dst = true) (continues : Continues asked src dst) :
    (src, dst) = (asked.src, asked.dst) := by
  obtain ⟨rest, nonempty, whole⟩ := continues
  obtain ⟨front, digit, small, last⟩ := asked.body_last
  rcases List.eq_nil_or_concat rest with empty | ⟨token, letter, split⟩
  · exact absurd empty nonempty
  · rw [List.concat_eq_append] at split
    have address := (accepted_iff.mp accepted).2.2
    have letters : [letter] = numeral digit := by
      rw [split, last, ← List.append_assoc, Text.numeral_digit small] at whole
      rw [Text.numeral_digit small, (List.append_singleton_inj.mp whole).2]
    let other : Asked := ⟨src, dst, String.ofList token, digit, asked.toAddr⟩
    have bodies : other.body = asked.body := by
      rw [← body_rest, ← whole, split, letters, String.toList_ofList]
    have equal := identified other (accepted_iff.mpr ⟨source, destination, address⟩)
      (text_eq_of_body bodies rfl)
    rw [← equal]

theorem Identified.rest {asked : Asked} (accepted : Accepted web3 env asked)
    (identified : Identified web3 env asked) (token : List Char) (amt : Int)
    (same : token ++ numeral amt = asked.token.toList ++ numeral asked.amt) :
    token = asked.token.toList ∧ amt = asked.amt := by
  obtain ⟨source, destination, address⟩ := accepted_iff.mp accepted
  let other : Asked := ⟨asked.src, asked.dst, String.ofList token, amt, asked.toAddr⟩
  have bodies : other.body = asked.body := by
    rw [← body_rest, ← body_rest, String.toList_ofList, same]
  have equal := identified other (accepted_iff.mpr ⟨source, destination, address⟩)
    (text_eq_of_body bodies rfl)
  have tokens := congrArg (fun request => request.token.toList) equal
  have amounts := congrArg Asked.amt equal
  exact ⟨String.toList_ofList.symm.trans tokens, amounts⟩

/-- No other request has the text of this one exactly if no other pair of connected chains begins
it, its amount is a single digit, and its token ends neither with a numeral nor with the sign of
the amount. -/
theorem asked_identified_iff {asked : Asked} (accepted : Accepted web3 env asked) :
    Identified web3 env asked ↔
      (∀ src dst, env.connected src = true → env.connected dst = true →
        Continues asked src dst → (src, dst) = (asked.src, asked.dst)) ∧
      (0 ≤ asked.amt ∧ asked.amt ≤ 9) ∧
      (∀ more : Nat, 0 < more → ¬ numeral more <:+ asked.token.toList) ∧
      (asked.amt = 0 ∨ ¬ ['-'] <:+ asked.token.toList) := by
  rw [← Text.numeral_unique_iff]
  constructor
  · intro identified
    constructor
    · intro src dst source destination continues
      exact identified.chains accepted source destination continues
    · intro token amt same
      exact identified.rest accepted token amt same
  · rintro ⟨chains, unique⟩ other accepted' same
    obtain ⟨source, destination, address⟩ := accepted_iff.mp accepted'
    have expected := (accepted_iff.mp accepted).2.2
    obtain ⟨recipients, bodies⟩ := recipient_eq (web3.hexAddress _ expected)
      (web3.hexAddress _ address) same
    rw [← body_rest other] at bodies
    have nonempty : other.token.toList ++ numeral other.amt ≠ [] :=
      List.append_ne_nil_of_right_ne_nil _ (Text.numeral_ne_nil _)
    have pairs := chains other.src other.dst source destination ⟨_, nonempty, bodies⟩
    obtain ⟨sources, destinations⟩ := Prod.mk.inj pairs
    rw [sources, destinations, ← body_rest asked, List.append_cancel_left_eq] at bodies
    obtain ⟨tokens, amounts⟩ := unique _ _ bodies
    exact Asked.ext sources destinations (String.toList_inj.mp tokens) amounts recipients

/-- A request is rejected as a duplicate of any other one that has its text. -/
theorem quote_duplicate (sha256 : String → String) {asked other : Asked}
    (same : other.text = asked.text) {request : FailedQuote.Request} {faults : Faults Unit}
    {stores prepared : Stores Unit} {user : User}
    (reaches : prepare env request faults stores = (prepared, .ok (user, other.amt)))
    (fields : other = ⟨request.src, request.dst, request.token, other.amt, request.toAddr⟩)
    (redis : env.redis = true) (read : faults.get = none)
    (marked : prepared.markers (idempotent sha256 asked.src asked.dst asked.token asked.amt
      asked.toAddr) = true) (id : String) :
    (FailedQuote.quote (idempotent sha256) env request faults id stores).2 =
      .error (.valueError "Duplicate") := by
  have keys : idempotent sha256 request.src request.dst request.token other.amt request.toAddr =
      idempotent sha256 asked.src asked.dst asked.token asked.amt asked.toAddr := by
    unfold idempotent
    rw [← fields, same]
  unfold FailedQuote.quote
  rw [reaches]
  dsimp only
  rw [keys, FailedQuote.claim, if_pos redis, read]
  dsimp only
  rw [if_pos marked]

section Sample

/-- Of the addresses, those written in small letters behind `0x`: they need no checksum. -/
def smallLetters : Web3 where
  isAddress text := text.toList.length == 42 && text.toList.take 2 == ['0', 'x'] &&
    (text.toList.drop 2).all fun digit => "0123456789abcdef".toList.contains digit
  hexAddress := by
    intro text accepted
    rw [Bool.and_eq_true, Bool.and_eq_true, beq_iff_eq, beq_iff_eq, List.all_eq_true] at accepted
    obtain ⟨⟨length, mark⟩, all⟩ := accepted
    refine ⟨['0', 'x'], text.toList.drop 2, ?_, Or.inr (Or.inl rfl), ?_, ?_⟩
    · rw [← mark, List.take_append_drop]
    · rw [List.length_drop]
      omega
    · intro digit member
      have small := List.contains_iff_mem.mp (all digit member)
      have whole : "0123456789abcdefABCDEF".toList =
          "0123456789abcdef".toList ++ "ABCDEF".toList := rfl
      rw [whole]
      exact List.mem_append_left _ small

def twoChains : Env := ⟨true, fun chain => decide (chain = 1 ∨ chain = 56), fun _ _ => none⟩

def recipient : String := "0x5f4ec3df9cbd43714fe2740f5e3616155c5b8419"

/-- Five units of a token. -/
def fiveUnits : Asked := ⟨1, 56, "USDC", 5, recipient⟩

theorem asked_identified_iff_fiveUnits : Identified smallLetters twoChains fiveUnits := by
  have accepted : Accepted smallLetters twoChains fiveUnits :=
    accepted_iff.mpr ⟨by decide, by decide, by decide +kernel⟩
  apply (asked_identified_iff accepted).mpr
  refine ⟨?_, ⟨by decide, by decide⟩, ?_, Or.inr (by decide)⟩
  · rintro src dst source destination ⟨rest, _, whole⟩
    have body : fiveUnits.body = ['1', '5', '6', 'U', 'S', 'D', 'C', '5'] := by decide +kernel
    have one : numeral 1 = ['1'] := rfl
    have fiftySix : numeral 56 = ['5', '6'] := rfl
    rw [body] at whole
    rcases of_decide_eq_true source with rfl | rfl <;>
      rcases of_decide_eq_true destination with rfl | rfl
    · simp [one] at whole
    · rfl
    · simp [one, fiftySix] at whole
    · simp [fiftySix] at whole
  · intro more _
    have token : fiveUnits.token.toList = ['U', 'S', 'D'] ++ ['C'] := rfl
    rw [token]
    exact Text.not_numeral_suffix (show 'C'.isDigit = false by decide) more

/-- Fifteen of a token of eighteen decimals, and five of one whose name goes on with a digit. -/
def fifteen : Asked := ⟨1, 56, "USDC", 15 * 10 ^ 18, recipient⟩

def five : Asked := ⟨1, 56, "USDC1", 5 * 10 ^ 18, recipient⟩

theorem fifteen_five_same_text :
    Accepted smallLetters twoChains fifteen ∧ Accepted smallLetters twoChains five ∧
      fifteen.text = five.text ∧ fifteen ≠ five := by
  have address : smallLetters.isAddress recipient = true := by decide +kernel
  refine ⟨accepted_iff.mpr ⟨by decide, by decide, address⟩,
    accepted_iff.mpr ⟨by decide, by decide, address⟩, by decide +kernel, by decide +kernel⟩

end Sample

end BigX.ToolRouter.BridgeKeys
