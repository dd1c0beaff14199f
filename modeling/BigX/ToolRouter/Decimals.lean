import BigX.Run.Trace
import Mathlib.Logic.Function.Basic

set_option autoImplicit false

/- `BridgeTool._decimals`. A tool keeps what it found for a token under the token alone, Redis
keeps it under the chain and the token, and both keep the 18 that stands in for what could not
be read. -/
namespace BigX.ToolRouter.Decimals

open Run

def native : String := "0xEeeeeEeeeEeEeeEeEeEeeEEEeeeeEeeeeeeeEEeE"

/-- The chains that have an RPC, and the decimals that each token's contract has on a chain. -/
structure Env where
  redis : Bool
  connected : Int → Bool
  onChain : Int → String → Option Nat

/-- The decimals of a token, those of the native placeholder included. -/
def Env.actual (env : Env) (chain : Int) (token : String) : Option Nat :=
  if token = native then some 18 else env.onChain chain token

/-- How a write to Redis ends. -/
inductive Written
  | returned
  | raised (applied : Bool)
  deriving DecidableEq

/-- A call of some tool, and what it meets: whether the read of Redis raises, whether the RPC
answers, and how the write to Redis ends. -/
structure Call where
  tool : Nat
  token : String
  chain : Int
  getRaises : Bool
  rpcAnswers : Bool
  setex : Written

/-- The caches of the tools, which nothing is taken out of, and Redis, where entries expire. -/
structure State where
  cache : Nat → String → Option Nat
  redis : Int → String → Option Nat

def State.empty : State := ⟨fun _ _ => none, fun _ _ => none⟩

def State.keep (state : State) (tool : Nat) (token : String) (dec : Nat) : State :=
  { state with
    cache := Function.update state.cache tool
      (Function.update (state.cache tool) token (some dec)) }

def State.setex (state : State) (chain : Int) (token : String) (dec : Option Nat) : State :=
  { state with
    redis := Function.update state.redis chain
      (Function.update (state.redis chain) token dec) }

/-- What the contract is asked, with 18 where it is not, or does not answer. -/
def Env.read (env : Env) (call : Call) : Nat :=
  if env.connected call.chain = true ∧ call.token ≠ native then
    if call.rpcAnswers then (env.onChain call.chain call.token).getD 18 else 18
  else 18

/-- The last lines, with neither cache having the token. -/
def Env.fetch (env : Env) (call : Call) (state : State) : State × Option Nat :=
  let dec := env.read call
  let kept := state.keep call.tool call.token dec
  if env.redis then
    match call.setex with
    | .returned => (kept.setex call.chain call.token (some dec), some dec)
    | .raised true => (kept.setex call.chain call.token (some dec), none)
    | .raised false => (kept, none)
  else (kept, some dec)

/-- `_decimals`, which returns nothing where it raises. -/
def Env.decimals (env : Env) (call : Call) (state : State) : State × Option Nat :=
  match state.cache call.tool call.token with
  | some dec => (state, some dec)
  | none =>
      if env.redis then
        if call.getRaises then (state, none)
        else
          match state.redis call.chain call.token with
          | some dec => (state.keep call.tool call.token dec, some dec)
          | none => env.fetch call state
      else env.fetch call state

inductive Move
  | called (call : Call)
  | expired (chain : Int) (token : String)

/-- No move is impossible. -/
def step (env : Env) (move : Move) (state : State) : Except Empty (State × Option Nat) :=
  match move with
  | .called call => .ok (env.decimals call state)
  | .expired chain token => .ok (state.setex chain token none, none)

abbrev history (env : Env) (moves : List Move) : Trace State Move (Option Nat) :=
  run (step env) .empty moves

/-- What a call returns are the token's decimals on its chain. -/
def Right (env : Env) (entry : Entry State Move (Option Nat)) : Prop :=
  match entry.input with
  | .called call => ∀ dec ∈ entry.output, env.actual call.chain call.token = some dec
  | .expired _ _ => True

/-- A call for the token, by this tool, that left the token in its cache. -/
def Settled (tool : Nat) (token : String) (entry : Entry State Move (Option Nat)) (chain : Int) :
    Prop :=
  ∃ call, entry.input = .called call ∧ call.tool = tool ∧ call.token = token ∧
    call.chain = chain ∧ (entry.after.cache tool token).isSome = true

/-- The contract is asked and answers, or 18 is right. -/
def Env.Reads (env : Env) (call : Call) : Prop :=
  (env.connected call.chain = true ∧ call.rpcAnswers = true ∧
    (env.onChain call.chain call.token).isSome = true) ∨
  env.actual call.chain call.token = some 18

/-- Neither cache has the token, and Redis was read if there is one. -/
def Env.Misses (env : Env) (call : Call) (state : State) : Prop :=
  state.cache call.tool call.token = none ∧
    (env.redis = true → call.getRaises = false ∧ state.redis call.chain call.token = none)

/-- A call that neither cache can answer reads the contract, and the tool has not had the token
from a chain where it has other decimals. -/
def Fits (env : Env) (earlier : List (Entry State Move (Option Nat)))
    (entry : Entry State Move (Option Nat)) : Prop :=
  match entry.input with
  | .called call =>
      (env.Misses call entry.before → env.Reads call) ∧
        ∀ other ∈ earlier, ∀ chain, Settled call.tool call.token other chain →
          env.actual chain call.token = env.actual call.chain call.token
  | .expired _ _ => True

section

variable {env : Env}

/-- Each way through a call. -/
inductive Looked (env : Env) (call : Call) (state : State) : State → Option Nat → Prop
  | cached (dec : Nat) (found : state.cache call.tool call.token = some dec) :
      Looked env call state state (some dec)
  | cut (absent : state.cache call.tool call.token = none) (redis : env.redis = true)
      (raised : call.getRaises = true) : Looked env call state state none
  | shared (dec : Nat) (absent : state.cache call.tool call.token = none)
      (redis : env.redis = true) (found : state.redis call.chain call.token = some dec) :
      Looked env call state (state.keep call.tool call.token dec) (some dec)
  | read (after : State) (output : Option Nat) (misses : env.Misses call state)
      (cache : after.cache = (state.keep call.tool call.token (env.read call)).cache)
      (redis : after.redis = state.redis ∨
        after = (state.keep call.tool call.token (env.read call)).setex call.chain call.token
          (some (env.read call)))
      (answer : ∀ dec ∈ output, dec = env.read call)
      (returned : call.setex = .returned → output = some (env.read call)) :
      Looked env call state after output

theorem fetch_looked {call : Call} {state : State} (misses : env.Misses call state) :
    Looked env call state (env.fetch call state).1 (env.fetch call state).2 := by
  have same : ∀ dec ∈ some (env.read call), dec = env.read call :=
    fun _ isRead => (Option.some.inj isRead).symm
  unfold Env.fetch
  dsimp only
  have nothing : ∀ dec ∈ (none : Option Nat), dec = env.read call := by
    intro dec absent
    cases absent
  split
  · cases written : call.setex with
    | returned => exact .read _ _ misses rfl (.inr rfl) same fun _ => rfl
    | raised applied =>
      have never : call.setex = .returned → none = some (env.read call) := by
        intro returned
        rw [written] at returned
        cases returned
      cases applied with
      | true => exact .read _ _ misses rfl (.inr rfl) nothing never
      | false => exact .read _ _ misses rfl (.inl rfl) nothing never
  · exact .read _ _ misses rfl (.inl rfl) same fun _ => rfl

theorem decimals_looked (env : Env) (call : Call) (state : State) :
    Looked env call state (env.decimals call state).1 (env.decimals call state).2 := by
  unfold Env.decimals
  cases cached : state.cache call.tool call.token with
  | some dec => exact .cached dec cached
  | none =>
    dsimp only
    cases redis : env.redis with
    | false => exact fetch_looked ⟨cached, fun other => absurd (redis ▸ other) Bool.false_ne_true⟩
    | true =>
      simp only [if_true]
      cases raised : call.getRaises with
      | true => exact .cut cached redis raised
      | false =>
        simp only [Bool.false_eq_true, if_false]
        cases shared : state.redis call.chain call.token with
        | some dec => exact .shared dec cached redis shared
        | none => exact fetch_looked ⟨cached, fun _ => ⟨raised, shared⟩⟩

theorem step_looked {call : Call} {before after : State} {output : Option Nat}
    (accepted : step env (.called call) before = .ok (after, output)) :
    Looked env call before after output := by
  have same : env.decimals call before = (after, output) := Except.ok.inj accepted
  have looked := decimals_looked env call before
  rw [same] at looked
  exact looked

/-- What a call reads is right exactly if the contract answers, or 18 is right. -/
theorem read_right_iff (env : Env) (call : Call) :
    env.actual call.chain call.token = some (env.read call) ↔ env.Reads call := by
  unfold Env.Reads Env.read
  by_cases native : call.token = native
  · simp [native, Env.actual]
  · have actual : env.actual call.chain call.token = env.onChain call.chain call.token :=
      if_neg native
    rw [actual]
    cases env.connected call.chain with
    | false => simp
    | true =>
      cases call.rpcAnswers with
      | false => simp
      | true => cases env.onChain call.chain call.token <;> simp [native]

/-- What a call leaves in its tool's cache are the token's decimals on its chain. -/
def LeavesRight (env : Env) (entry : Entry State Move (Option Nat)) : Prop :=
  match entry.input with
  | .called call => ∀ dec, entry.after.cache call.tool call.token = some dec →
      env.actual call.chain call.token = some dec
  | .expired _ _ => True

theorem keep_cache_self (state : State) (tool : Nat) (token : String) (dec : Nat) :
    (state.keep tool token dec).cache tool token = some dec := by
  simp only [State.keep, Function.update_self]

theorem keep_cache_other {state : State} {tool other : Nat} {token otherToken : String} {dec : Nat}
    (differs : ¬ (other = tool ∧ otherToken = token)) :
    (state.keep tool token dec).cache other otherToken = state.cache other otherToken := by
  unfold State.keep
  by_cases same : other = tool
  · subst same
    have tokens : otherToken ≠ token := fun equal => differs ⟨rfl, equal⟩
    simp only [Function.update_self, Function.update_of_ne tokens]
  · simp only [Function.update_of_ne same]

theorem setex_redis_self (state : State) (chain : Int) (token : String) (dec : Option Nat) :
    (state.setex chain token dec).redis chain token = dec := by
  simp only [State.setex, Function.update_self]

theorem setex_redis_other {state : State} {chain other : Int} {token otherToken : String}
    {dec : Option Nat} (differs : ¬ (other = chain ∧ otherToken = token)) :
    (state.setex chain token dec).redis other otherToken = state.redis other otherToken := by
  unfold State.setex
  by_cases same : other = chain
  · subst same
    have tokens : otherToken ≠ token := fun equal => differs ⟨rfl, equal⟩
    simp only [Function.update_self, Function.update_of_ne tokens]
  · simp only [Function.update_of_ne same]

/-- Each cached value comes from some call and is right on the chains of all, and so is what
Redis has. -/
structure Kept (env : Env) (past : List (Entry State Move (Option Nat))) (now : State) : Prop where
  settled : ∀ tool token dec, now.cache tool token = some dec →
    ∃ entry ∈ past, ∃ chain, Settled tool token entry chain
  agrees : ∀ tool token, ∀ entry ∈ past, ∀ chain, Settled tool token entry chain →
    ∃ dec, now.cache tool token = some dec ∧ env.actual chain token = some dec
  shared : ∀ chain token dec, now.redis chain token = some dec →
    env.actual chain token = some dec

variable {past : List (Entry State Move (Option Nat))} {now after : State}

/-- A call leaves exactly what is right, if it fits. -/
theorem Kept.leavesRight_iff (kept : Kept env past now) {call : Call} {output : Option Nat}
    (looked : Looked env call now after output) :
    LeavesRight env ⟨now, .called call, output, after⟩ ↔
      Fits env past ⟨now, .called call, output, after⟩ := by
  unfold LeavesRight Fits
  dsimp only
  have unsettled : now.cache call.tool call.token = none →
      ∀ other ∈ past, ∀ chain, Settled call.tool call.token other chain →
        env.actual chain call.token = env.actual call.chain call.token := by
    intro absent other member chain settled
    obtain ⟨dec, cached, -⟩ := kept.agrees _ _ other member chain settled
    rw [absent] at cached
    cases cached
  cases looked with
  | cached dec found =>
    have hit : ¬ env.Misses call now := by
      intro misses
      rw [misses.1] at found
      cases found
    constructor
    · intro right
      refine ⟨fun misses => absurd misses hit, ?_⟩
      intro other member chain settled
      obtain ⟨kept_, cached, actual⟩ := kept.agrees _ _ other member chain settled
      rw [actual, right kept_ cached]
    · rintro ⟨-, same⟩ other cached
      obtain ⟨entry, member, chain, settled⟩ := kept.settled _ _ other cached
      obtain ⟨kept_, again, actual⟩ := kept.agrees _ _ entry member chain settled
      rw [← same entry member chain settled, actual, ← again, cached]
  | cut absent redis raised =>
    refine iff_of_true ?_ ⟨?_, unsettled absent⟩
    · intro dec cached
      rw [absent] at cached
      cases cached
    · intro misses
      have quiet := (misses.2 redis).1
      rw [raised] at quiet
      cases quiet
  | shared dec absent redis found =>
    refine iff_of_true ?_ ⟨?_, unsettled absent⟩
    · intro other cached
      rw [keep_cache_self] at cached
      cases cached
      exact kept.shared _ _ _ found
    · intro misses
      have nothing := (misses.2 redis).2
      rw [found] at nothing
      cases nothing
  | read _ _ misses cache redis answer _ =>
    rw [cache, keep_cache_self, and_iff_left (unsettled misses.1), forall_prop_of_true misses,
      ← read_right_iff]
    simp only [Option.some.injEq, forall_eq']

/-- A call that leaves what is right in its cache and in Redis keeps all of it. -/
theorem Kept.called (kept : Kept env past now) {call : Call} {output : Option Nat}
    (others : ∀ tool token, ¬ (tool = call.tool ∧ token = call.token) →
      after.cache tool token = now.cache tool token)
    (right : ∀ dec, after.cache call.tool call.token = some dec →
      env.actual call.chain call.token = some dec)
    (stays : ∀ dec, now.cache call.tool call.token = some dec →
      after.cache call.tool call.token = some dec)
    (shared : ∀ chain token dec, after.redis chain token = some dec →
      env.actual chain token = some dec) :
    Kept env (past ++ [⟨now, .called call, output, after⟩]) after := by
  refine ⟨?_, ?_, shared⟩
  · intro tool token dec cached
    by_cases here : tool = call.tool ∧ token = call.token
    · obtain ⟨rfl, rfl⟩ := here
      refine ⟨_, List.mem_append_right _ (List.mem_singleton_self _), call.chain, call, rfl, rfl,
        rfl, rfl, ?_⟩
      exact Option.isSome_iff_exists.mpr ⟨dec, cached⟩
    · rw [others tool token here] at cached
      obtain ⟨entry, member, rest⟩ := kept.settled tool token dec cached
      exact ⟨entry, List.mem_append_left _ member, rest⟩
  · intro tool token entry member chain settled
    rcases List.mem_append.mp member with earlier | last
    · obtain ⟨dec, cached, actual⟩ := kept.agrees tool token entry earlier chain settled
      refine ⟨dec, ?_, actual⟩
      by_cases here : tool = call.tool ∧ token = call.token
      · obtain ⟨rfl, rfl⟩ := here
        exact stays dec cached
      · rw [others tool token here]
        exact cached
    · cases List.mem_singleton.mp last
      obtain ⟨_, same, rfl, rfl, rfl, isCached⟩ := settled
      cases same
      obtain ⟨dec, cached⟩ := Option.isSome_iff_exists.mp isCached
      exact ⟨dec, cached, right dec cached⟩

theorem Kept.looked (kept : Kept env past now) {call : Call} {output : Option Nat}
    (looked : Looked env call now after output)
    (right : LeavesRight env ⟨now, .called call, output, after⟩) :
    Kept env (past ++ [⟨now, .called call, output, after⟩]) after := by
  have absent_stays : now.cache call.tool call.token = none → ∀ dec,
      now.cache call.tool call.token = some dec → after.cache call.tool call.token = some dec := by
    intro absent dec cached
    rw [absent] at cached
    cases cached
  cases looked with
  | cached dec found => exact kept.called (fun _ _ _ => rfl) right (fun _ => id) kept.shared
  | cut absent redis raised =>
    exact kept.called (fun _ _ _ => rfl) right (fun _ => id) kept.shared
  | shared dec absent redis found =>
    exact kept.called (fun _ _ => keep_cache_other) right (absent_stays absent) kept.shared
  | read _ _ misses cache redis answer _ =>
    refine kept.called ?_ right (absent_stays misses.1) ?_
    · intro tool token other
      rw [cache]
      exact keep_cache_other other
    · have isRight : env.actual call.chain call.token = some (env.read call) := by
        apply right
        rw [cache]
        exact keep_cache_self _ _ _ _
      intro chain token dec inRedis
      rcases redis with same | same
      · rw [same] at inRedis
        exact kept.shared chain token dec inRedis
      · rw [same] at inRedis
        by_cases here : chain = call.chain ∧ token = call.token
        · obtain ⟨rfl, rfl⟩ := here
          rw [setex_redis_self] at inRedis
          cases inRedis
          exact isRight
        · rw [setex_redis_other here] at inRedis
          exact kept.shared chain token dec inRedis

theorem Kept.expired (kept : Kept env past now) (chain : Int) (token : String) :
    Kept env (past ++ [⟨now, .expired chain token, none, now.setex chain token none⟩])
      (now.setex chain token none) := by
  refine ⟨?_, ?_, ?_⟩
  · intro tool other dec cached
    obtain ⟨entry, member, rest⟩ := kept.settled tool other dec cached
    exact ⟨entry, List.mem_append_left _ member, rest⟩
  · intro tool other entry member on settled
    rcases List.mem_append.mp member with earlier | last
    · exact kept.agrees tool other entry earlier on settled
    · cases List.mem_singleton.mp last
      obtain ⟨_, same, _⟩ := settled
      cases same
  · intro on other dec inRedis
    by_cases here : on = chain ∧ other = token
    · obtain ⟨rfl, rfl⟩ := here
      rw [setex_redis_self] at inRedis
      cases inRedis
    · rw [setex_redis_other here] at inRedis
      exact kept.shared on other dec inRedis

/-- Every call leaves what is right in its tool's cache exactly if every call fits. -/
theorem leavesRight_iff (env : Env) (moves : List Move) :
    Throughout (fun _ entry => LeavesRight env entry) (history env moves).past ↔
      Throughout (Fits env) (history env moves).past := by
  apply run_throughout_iff (step env) .empty (Kept env)
  · refine ⟨?_, ?_, ?_⟩
    · intro tool token dec cached
      cases cached
    · intro tool token entry member
      cases member
    · intro chain token dec inRedis
      cases inRedis
  · intro past now move after output kept accepted
    cases move with
    | called call => exact kept.leavesRight_iff (step_looked accepted)
    | expired chain token => exact iff_of_true trivial trivial
  · intro past now move after output kept accepted fits
    cases move with
    | called call =>
      have looked := step_looked accepted
      exact kept.looked looked ((kept.leavesRight_iff looked).mpr fits)
    | expired chain token =>
      cases accepted
      exact kept.expired chain token

/-- What is returned is what the cache is left with. -/
theorem Looked.right {call : Call} {output : Option Nat} (looked : Looked env call now after output)
    (leaves : LeavesRight env ⟨now, .called call, output, after⟩) :
    Right env ⟨now, .called call, output, after⟩ := by
  intro dec returned
  apply leaves
  cases looked with
  | cached other found =>
    cases returned
    exact found
  | cut => cases returned
  | shared other absent redis found =>
    cases returned
    exact keep_cache_self _ _ _ _
  | read _ _ misses cache redis answer _ =>
    dsimp only
    rw [cache, answer dec returned]
    exact keep_cache_self _ _ _ _

theorem Looked.leavesRight {call : Call} {output : Option Nat}
    (looked : Looked env call now after output) (written : call.setex = .returned)
    (right : Right env ⟨now, .called call, output, after⟩) :
    LeavesRight env ⟨now, .called call, output, after⟩ := by
  intro dec cached
  apply right
  dsimp only at cached
  cases looked with
  | cached other found =>
    rw [found] at cached
    exact cached
  | cut absent =>
    rw [absent] at cached
    cases cached
  | shared other absent redis found =>
    rw [keep_cache_self] at cached
    exact cached
  | read _ _ misses cache redis answer returned =>
    rw [cache, keep_cache_self] at cached
    dsimp only
    rw [returned written]
    exact cached

end

/-- A call's write to Redis does not raise. -/
def Move.Writes : Move → Prop
  | .called call => call.setex = .returned
  | .expired _ _ => True

/-- Where every call fits, every call that returns returns the token's decimals on its chain, and
where no write to Redis raises, only there. -/
theorem decimals_right_iff (env : Env) (moves : List Move) :
    (Throughout (Fits env) (history env moves).past →
        ∀ entry ∈ (history env moves).past, Right env entry) ∧
      ((∀ entry ∈ (history env moves).past, entry.input.Writes) →
        (∀ entry ∈ (history env moves).past, Right env entry) →
        Throughout (Fits env) (history env moves).past) := by
  have accepted := run_accepted (step env) .empty moves
  constructor
  · intro fits entry member
    have leaves := (leavesRight_iff env moves).mpr fits
    obtain ⟨earlier, later, same⟩ := List.append_of_mem member
    have here := leaves earlier entry later same
    obtain ⟨before, move, output, after⟩ := entry
    cases move with
    | called call => exact (step_looked (accepted _ member)).right here
    | expired chain token => exact trivial
  · intro writes right
    rw [← leavesRight_iff]
    intro earlier entry later same
    have member : entry ∈ (history env moves).past := by
      rw [same]
      exact List.mem_append_right _ List.mem_cons_self
    have written := writes entry member
    have isRight := right entry member
    obtain ⟨before, move, output, after⟩ := entry
    cases move with
    | called call => exact (step_looked (accepted _ member)).leavesRight written isRight
    | expired chain token => exact trivial

instance (env : Env) (entry : Entry State Move (Option Nat)) : Decidable (Right env entry) :=
  match entry with
  | ⟨_, .called call, output, _⟩ =>
      inferInstanceAs (Decidable (∀ dec ∈ output, env.actual call.chain call.token = some dec))
  | ⟨_, .expired _ _, _, _⟩ => isTrue trivial

section Sample

/-- USDC has 6 decimals on Ethereum, and its namesake 18 on another chain. -/
def twoChains : Env where
  redis := true
  connected chain := chain = 1 ∨ chain = 56
  onChain chain token :=
    if token = "0xA0b86991c6218b36c1d19D4a2e9Eb0cE3606eB48" then
      if chain = 1 then some 6 else if chain = 56 then some 18 else none
    else none

def ask (chain : Int) (rpcAnswers : Bool) : Move :=
  .called ⟨0, "0xA0b86991c6218b36c1d19D4a2e9Eb0cE3606eB48", chain, false, rpcAnswers, .returned⟩

/-- The second call is answered from the cache, with the first chain's decimals; and a call whose
RPC does not answer returns a guess. -/
theorem decimals_wrong :
    (¬ ∀ entry ∈ (history twoChains [ask 1 true, ask 56 true]).past, Right twoChains entry) ∧
      ¬ ∀ entry ∈ (history twoChains [ask 1 false]).past, Right twoChains entry := by
  decide

end Sample

end BigX.ToolRouter.Decimals
