import BigX.Pipeline.Planning
import BigX.Run.Pool
import BigX.Run.Trace

set_option autoImplicit false

/- Logging in at the gateway with a signed message. The nonce that the message has to name is
stored by one request and compared by another, with database accesses after the comparison. -/
namespace BigX.Gateway.Siwe

open Run

structure User where
  id : String
  wallet : String
  role : String
  deriving DecidableEq

/-- A login that passed its checks: the signed pair, and the wallet and the nonce in it. -/
structure Login where
  message : String
  signature : String
  wallet : String
  nonce : String
  deriving DecidableEq

/-- A session token; its expiry and the key it is signed with are left out. -/
structure Token where
  sub : String
  wallet : String
  role : String
  login : Login

/-- What a login waits for, once it passed its checks. -/
inductive Point
  | selecting
  | committing
  | refreshing (user : User)

/-- `app.state.nonces` has at most one entry: every request makes a dictionary of its own.
`spent` tells whether a login has passed with it, `issued` what was handed out so far. -/
structure State where
  nonces : Option (String × String)
  spent : Bool
  issued : List String
  users : List User
  logins : List (Login × Point)
  tokens : List Token

def State.begin_ (users : List User) : State := ⟨none, false, [], users, [], []⟩

/-- `str.lower`, and the recovery of the signer's address, `none` where it raises. -/
structure Env where
  lower : String → String
  recover : String → String → Option String

/-- `str.strip` -/
def strip (text : List Char) : List Char :=
  ((text.dropWhile Pipeline.isSpace).reverse.dropWhile Pipeline.isSpace).reverse

/-- What follows `Nonce:` in the first line that begins with it. -/
def siweNonce (message : String) : String :=
  match (message.toList.splitOn '\n').find? fun line => "Nonce:".toList.isPrefixOf line with
  | some line => String.ofList (strip ((line.dropWhile fun c => c ≠ ':').drop 1))
  | none => ""

/-- `nonces.get(wallet)` -/
def State.stored (wallet : String) (state : State) : Option String :=
  match state.nonces with
  | some (address, nonce) => if address = wallet then some nonce else none
  | none => none

/-- What a request is answered, `pending` while it waits for the database. -/
inductive Response
  | nonce (nonce : String)
  | token (token : Token)
  | error (status : Nat) (detail : String)
  | pending

/-- `get_nonce_v1`, with what `token_urlsafe` draws. -/
def Env.getNonceV1 (env : Env) (address drawn : String) (state : State) :
    State × Response :=
  let address := env.lower address
  if address = "" then (state, .error 400 "Missing address parameter")
  else ({ state with
    nonces := some (address, drawn)
    spent := false
    issued := state.issued ++ [drawn] }, .nonce drawn)

/-- The checks of `login_siwe_v1`. -/
def Env.checkLogin (env : Env) (message signature : String) (state : State) :
    Except String Login :=
  match env.recover message signature with
  | none => .error "Invalid signature"
  | some recovered =>
      let nonce := siweNonce message
      let wallet := env.lower recovered
      if nonce = "" ∨ state.stored wallet ≠ some nonce then .error "Invalid or expired nonce"
      else .ok ⟨message, signature, wallet, nonce⟩

/-- `login_siwe_v1` up to its first `await`; a field that is missing is empty. -/
def Env.loginSiweV1 (env : Env) (message signature : Option String) (state : State) :
    State × Response :=
  match env.checkLogin (message.getD "") (signature.getD "") state with
  | .error detail => (state, .error 401 detail)
  | .ok login =>
      ({ state with logins := state.logins ++ [(login, .selecting)], spent := true }, .pending)

def User.token (user : User) (login : Login) : Token := ⟨user.id, login.wallet, user.role, login⟩

/-- A login after its database access has returned, up to its end or the next access; `id` is
the id of a user that is inserted. -/
def State.resume (id : String) (login : Login) (point : Point) (state : State) :
    State × Response :=
  let issue (user : User) : State × Response :=
    ({ state with tokens := state.tokens ++ [user.token login] }, .token (user.token login))
  match point with
  | .selecting =>
      match state.users.filter fun user => user.wallet = login.wallet with
      | [] => ({ state with logins := state.logins ++ [(login, .committing)] }, .pending)
      | [user] => issue user
      | _ => (state, .error 500 "Multiple rows were found when one or none was required")
  | .committing =>
      if state.users.any fun user => user.wallet = login.wallet then
        (state, .error 500 "UNIQUE constraint failed: users.wallet_address")
      else
        let user : User := ⟨id, login.wallet, "user"⟩
        ({ state with
          users := state.users ++ [user]
          logins := state.logins ++ [(login, .refreshing user)] }, .pending)
  | .refreshing user => issue user

/-- A request arrives, or a login's database access returns or raises. -/
inductive Move
  | getNonceV1 (address drawn : String)
  | loginSiweV1 (message signature : Option String)
  | returned (index : Nat) (id : String)
  | raised (index : Nat) (detail : String)

inductive Impossible
  | impossible

def step (env : Env) (move : Move) (state : State) :
    Except Impossible (State × Response) :=
  match move with
  | .getNonceV1 address drawn => .ok (env.getNonceV1 address drawn state)
  | .loginSiweV1 message signature => .ok (env.loginSiweV1 message signature state)
  | .returned index id =>
      match takeOut index state.logins with
      | some ((login, point), logins) => .ok ({ state with logins := logins }.resume id login point)
      | none => .error .impossible
  | .raised index detail =>
      match takeOut index state.logins with
      | some (_, logins) => .ok ({ state with logins := logins }, .error 500 detail)
      | none => .error .impossible

abbrev history (env : Env) (users : List User) (moves : List Move) :
    Trace State Move Response :=
  run (step env) (.begin_ users) moves

/-- A nonce that is drawn is new, and no login passes once another has passed since a nonce
was drawn. -/
def passesOnce (env : Env) (state : State) : Move → Prop
  | .getNonceV1 _ drawn => drawn ∉ state.issued
  | .loginSiweV1 message signature => ∀ recovered,
      env.recover (message.getD "") (signature.getD "") = some recovered →
      siweNonce (message.getD "") ≠ "" →
      state.stored (env.lower recovered) = some (siweNonce (message.getD "")) →
      state.spent = false
  | _ => True

/-- No nonce leads to two tokens, and no signed pair is accepted twice. -/
def LoginOnce (state : State) : Prop :=
  (∀ nonce, (state.tokens.countP fun token => token.login.nonce = nonce) ≤ 1) ∧
    ∀ message signature, (state.tokens.countP fun token =>
      token.login.message = message ∧ token.login.signature = signature) ≤ 1

/-- The logins and the tokens that a nonce was used for. -/
def State.uses (state : State) (nonce : String) : Nat :=
  (state.logins.countP fun login => login.1.nonce = nonce) +
    state.tokens.countP fun token => token.login.nonce = nonce

/-- A nonce that is used was issued, and the stored one is unused until it is spent. -/
structure Guarded (state : State) : Prop where
  known : ∀ address nonce, state.nonces = some (address, nonce) → nonce ∈ state.issued
  used : ∀ nonce, 0 < state.uses nonce → nonce ∈ state.issued
  unspent : state.spent = false →
    ∀ address nonce, state.nonces = some (address, nonce) → state.uses nonce = 0
  once : ∀ nonce, state.uses nonce ≤ 1
  waiting : ∀ login ∈ state.logins, login.1.nonce = siweNonce login.1.message
  granted : ∀ token ∈ state.tokens, token.login.nonce = siweNonce token.login.message

theorem checkLogin_ok {env : Env} {message signature : String} {state : State} {login : Login}
    (passed : env.checkLogin message signature state = .ok login) :
    ∃ recovered, env.recover message signature = some recovered ∧ siweNonce message ≠ "" ∧
      state.stored (env.lower recovered) = some (siweNonce message) ∧
      login = ⟨message, signature, env.lower recovered, siweNonce message⟩ := by
  unfold Env.checkLogin at passed
  split at passed
  · cases passed
  · rename_i recovered signed
    dsimp only at passed
    split at passed
    · cases passed
    · rename_i matching
      obtain ⟨named, stored⟩ := not_or.mp matching
      cases passed
      exact ⟨recovered, signed, named, Decidable.not_not.mp stored, rfl⟩

theorem stored_eq {state : State} {wallet nonce : String}
    (stored : state.stored wallet = some nonce) : state.nonces = some (wallet, nonce) := by
  unfold State.stored at stored
  split at stored
  · rename_i address value kept
    split at stored
    · rename_i same
      rw [kept, same, Option.some.inj stored]
    · cases stored
  · cases stored

theorem getNonceV1_guarded {env : Env} {address drawn : String} {state : State}
    (held : Guarded state) (fresh : drawn ∉ state.issued) :
    Guarded (env.getNonceV1 address drawn state).1 := by
  unfold Env.getNonceV1
  dsimp only
  split
  · exact held
  · refine ⟨?_, ?_, ?_, held.once, held.waiting, held.granted⟩
    · intro address nonce stored
      cases stored
      exact List.mem_append_right _ (List.mem_singleton_self _)
    · intro nonce used
      exact List.mem_append_left _ (held.used nonce used)
    · intro _ address nonce stored
      cases stored
      by_contra used
      exact fresh (held.used drawn (Nat.pos_of_ne_zero used))

theorem loginSiweV1_guarded {env : Env} {message signature : Option String} {state : State}
    (held : Guarded state) (condition : passesOnce env state (.loginSiweV1 message signature)) :
    Guarded (env.loginSiweV1 message signature state).1 := by
  unfold Env.loginSiweV1
  cases passed : env.checkLogin (message.getD "") (signature.getD "") state with
  | error detail => exact held
  | ok login =>
    obtain ⟨recovered, signed, named, stored, rfl⟩ := checkLogin_ok passed
    have unspent := condition recovered signed named stored
    have current := stored_eq stored
    have unused := held.unspent unspent _ _ current
    have uses : ∀ nonce, State.uses { state with
        logins := state.logins ++ [(⟨message.getD "", signature.getD "", env.lower recovered,
          siweNonce (message.getD "")⟩, .selecting)], spent := true } nonce =
            state.uses nonce + if siweNonce (message.getD "") = nonce then 1 else 0 := by
      intro nonce
      simp only [State.uses, List.countP_append, List.countP_singleton, decide_eq_true_eq]
      omega
    refine ⟨held.known, ?_, nofun, ?_, ?_, held.granted⟩
    · intro nonce used
      rw [uses] at used
      by_cases same : siweNonce (message.getD "") = nonce
      · rw [← same]
        exact held.known _ _ current
      · rw [if_neg same] at used
        exact held.used nonce used
    · intro nonce
      rw [uses]
      by_cases same : siweNonce (message.getD "") = nonce
      · rw [← same, unused, if_pos rfl]
      · rw [if_neg same]
        exact held.once nonce
    · intro login member
      rcases List.mem_append.mp member with earlier | last
      · exact held.waiting login earlier
      · rw [List.mem_singleton.mp last]

/-- A login that was waiting beside `logins` ends, goes on waiting or gets a token. -/
inductive Resumed (state after : State) (login : Login) (logins : List (Login × Point)) : Prop
  | ended (waiting : after.logins = logins) (tokens : after.tokens = state.tokens)
  | waits (next : Point) (waiting : after.logins = logins ++ [(login, next)])
      (tokens : after.tokens = state.tokens)
  | granted (user : User) (waiting : after.logins = logins)
      (tokens : after.tokens = state.tokens ++ [user.token login])

/-- A login that goes on or ends keeps its nonce at most. -/
theorem Resumed.uses_le {state after : State} {index : Nat} {login : Login} {point : Point}
    {logins : List (Login × Point)} (resumed : Resumed state after login logins)
    (taken : takeOut index state.logins = some ((login, point), logins)) (nonce : String) :
    after.uses nonce ≤ state.uses nonce := by
  have before : state.uses nonce = (if login.nonce = nonce then 1 else 0) +
      (logins.countP fun login => login.1.nonce = nonce) +
        state.tokens.countP fun token => token.login.nonce = nonce := by
    rw [State.uses, (takeOut_perm taken).countP_eq, List.countP_cons]
    simp only [decide_eq_true_eq]
    omega
  rw [before]
  cases resumed with
  | ended waiting tokens =>
    rw [State.uses, waiting, tokens]
    omega
  | waits next waiting tokens =>
    rw [State.uses, waiting, tokens, List.countP_append, List.countP_singleton]
    simp only [decide_eq_true_eq]
    omega
  | granted user waiting tokens =>
    have one : ([user.token login].countP fun token => token.login.nonce = nonce) =
        if login.nonce = nonce then 1 else 0 :=
      List.countP_singleton.trans (if_congr decide_eq_true_iff rfl rfl)
    rw [State.uses, waiting, tokens, List.countP_append, one]
    omega

/-- The nonce of each login and token after the step is that of its message. -/
theorem Resumed.named {state after : State} {login : Login} {logins : List (Login × Point)}
    (resumed : Resumed state after login logins) (own : login.nonce = siweNonce login.message)
    (rest : ∀ waiting ∈ logins, waiting.1.nonce = siweNonce waiting.1.message)
    (granted : ∀ token ∈ state.tokens, token.login.nonce = siweNonce token.login.message) :
    (∀ waiting ∈ after.logins, waiting.1.nonce = siweNonce waiting.1.message) ∧
      ∀ token ∈ after.tokens, token.login.nonce = siweNonce token.login.message := by
  cases resumed with
  | ended waiting tokens =>
    rw [waiting, tokens]
    exact ⟨rest, granted⟩
  | waits next waiting tokens =>
    rw [waiting, tokens]
    refine ⟨?_, granted⟩
    intro entry member
    rcases List.mem_append.mp member with earlier | last
    · exact rest entry earlier
    · rw [List.mem_singleton.mp last]
      exact own
  | granted user waiting tokens =>
    rw [waiting, tokens]
    refine ⟨rest, ?_⟩
    intro token member
    rcases List.mem_append.mp member with earlier | last
    · exact granted token earlier
    · rw [List.mem_singleton.mp last]
      exact own

theorem resumed_guarded {state after : State} {index : Nat} {login : Login} {point : Point}
    {logins : List (Login × Point)} (held : Guarded state)
    (taken : takeOut index state.logins = some ((login, point), logins))
    (nonces : after.nonces = state.nonces) (spent : after.spent = state.spent)
    (issued : after.issued = state.issued) (resumed : Resumed state after login logins) :
    Guarded after := by
  have perm := takeOut_perm taken
  have fewer := resumed.uses_le taken
  have own : login.nonce = siweNonce login.message :=
    held.waiting (login, point) (perm.mem_iff.mpr List.mem_cons_self)
  have rest : ∀ waiting ∈ logins, waiting.1.nonce = siweNonce waiting.1.message :=
    fun waiting member => held.waiting waiting (perm.mem_iff.mpr (List.mem_cons_of_mem _ member))
  obtain ⟨waiting, granted⟩ := resumed.named own rest held.granted
  refine ⟨?_, ?_, ?_, ?_, waiting, granted⟩
  · rw [nonces, issued]
    exact held.known
  · intro nonce used
    rw [issued]
    exact held.used nonce (Nat.lt_of_lt_of_le used (fewer nonce))
  · intro unspent address nonce stored
    have none_before := held.unspent (spent ▸ unspent) address nonce (nonces ▸ stored)
    have bound := fewer nonce
    omega
  · intro nonce
    exact (fewer nonce).trans (held.once nonce)

theorem step_guarded {env : Env} {now after : State} {move : Move} {response : Response}
    (held : Guarded now) (condition : passesOnce env now move)
    (accepted : step env move now = .ok (after, response)) : Guarded after := by
  cases move with
  | getNonceV1 address drawn =>
    simp only [step, Except.ok.injEq] at accepted
    have guarded : Guarded (env.getNonceV1 address drawn now).1 :=
      getNonceV1_guarded held condition
    rw [accepted] at guarded
    exact guarded
  | loginSiweV1 message signature =>
    simp only [step, Except.ok.injEq] at accepted
    have guarded : Guarded (env.loginSiweV1 message signature now).1 :=
      loginSiweV1_guarded held condition
    rw [accepted] at guarded
    exact guarded
  | returned index id =>
    simp only [step] at accepted
    split at accepted
    · rename_i login point logins taken
      simp only [Except.ok.injEq] at accepted
      cases point with
      | selecting =>
        simp only [State.resume] at accepted
        split at accepted
        · cases accepted
          exact resumed_guarded held taken rfl rfl rfl (.waits _ rfl rfl)
        · cases accepted
          exact resumed_guarded held taken rfl rfl rfl (.granted _ rfl rfl)
        · cases accepted
          exact resumed_guarded held taken rfl rfl rfl (.ended rfl rfl)
      | committing =>
        simp only [State.resume] at accepted
        split at accepted
        · cases accepted
          exact resumed_guarded held taken rfl rfl rfl (.ended rfl rfl)
        · cases accepted
          exact resumed_guarded held taken rfl rfl rfl (.waits _ rfl rfl)
      | refreshing user =>
        cases accepted
        exact resumed_guarded held taken rfl rfl rfl (.granted user rfl rfl)
    · cases accepted
  | raised index detail =>
    simp only [step] at accepted
    split at accepted
    · rename_i waiting logins taken
      cases accepted
      exact resumed_guarded held taken rfl rfl rfl (.ended rfl rfl)
    · cases accepted

theorem Guarded.loginOnce {state : State} (held : Guarded state) : LoginOnce state := by
  have perNonce : ∀ nonce, (state.tokens.countP fun token => token.login.nonce = nonce) ≤ 1 := by
    intro nonce
    have once := held.once nonce
    unfold State.uses at once
    omega
  refine ⟨perNonce, ?_⟩
  intro message signature
  apply (List.countP_mono_left ?_).trans (perNonce (siweNonce message))
  intro token member same
  rw [decide_eq_true_eq] at same ⊢
  rw [held.granted token member, same.1]

/-- In the runs in which at most one login passes for each nonce that is drawn, and the nonces
differ, no nonce leads to two tokens and no signed pair is accepted twice. -/
theorem login_once (env : Env) (users : List User) (moves : List Move)
    (condition : Meets (passesOnce env) (history env users moves).past) :
    LoginOnce (history env users moves).now := by
  have rule := run_of_meets (step env) (.begin_ users) (fun _ now => Guarded now)
    (passesOnce env) ⟨nofun, nofun, nofun, fun _ => Nat.zero_le 1, nofun, nofun⟩
  apply (rule ?_ moves condition).loginOnce
  intro past now move after response held condition accepted
  exact step_guarded held condition accepted

section Sample

/-- A signature is the address that signed. -/
def local_ : Env :=
  ⟨fun address => if address = "0xAB" then "0xab" else address, fun _ signature => some signature⟩

/-- The wallet logs in, and logs in again with a new nonce. -/
def twoLogins : List Move :=
  [.getNonceV1 "0xAB" "n1", .loginSiweV1 (some "Sign in\nNonce: n1") (some "0xab"), .returned 0 "1",
   .getNonceV1 "0xAB" "n2", .loginSiweV1 (some "Sign in\nNonce: n2") (some "0xab"), .returned 0 "1"]

theorem login_once_two : LoginOnce (history local_ [⟨"1", "0xab", "user"⟩] twoLogins).now := by
  apply login_once
  intro entry member
  change entry ∈ [_, _, _, _, _, _] at member
  simp only [List.mem_cons, List.not_mem_nil, or_false] at member
  rcases member with rfl | rfl | rfl | rfl | rfl | rfl
  · exact List.not_mem_nil
  · exact fun _ _ _ _ => rfl
  · trivial
  · change "n2" ∉ ["n1"]
    decide
  · exact fun _ _ _ _ => rfl
  · trivial

/-- A signed pair that was seen is sent again. -/
def replayed : List Move :=
  [.getNonceV1 "0xAB" "n1", .loginSiweV1 (some "Sign in\nNonce: n1") (some "0xab"), .returned 0 "1",
   .loginSiweV1 (some "Sign in\nNonce: n1") (some "0xab"), .returned 0 "1"]

/-- Both the owner and whoever has seen the pair get a token. -/
theorem login_once_replayed :
    ¬ LoginOnce (history local_ [⟨"1", "0xab", "user"⟩] replayed).now := by
  intro once
  exact absurd (once.1 "n1") (by decide +kernel)

end Sample

end BigX.Gateway.Siwe
