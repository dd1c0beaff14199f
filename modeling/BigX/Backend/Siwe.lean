import BigX.Gateway.Siwe
import BigX.Run.Latest
import BigX.Run.Project
import Mathlib.Data.List.AList

set_option autoImplicit false

/- Logging in at the backend service layer, which keeps a nonce for every address and deletes
the one it accepts. Each request uses the dictionary of nonces in one step. -/
namespace BigX.Backend.Siwe

open Run
open Gateway.Siwe (Env siweNonce)

/-- What `secrets.token_urlsafe(16)` draws, which is never empty. -/
abbrev Nonce : Type := { text : String // text ≠ "" }

/-- `_nonces` -/
abbrev State : Type := AList fun _ : String => Nonce

inductive Response
  | nonce (nonce : Nonce)
  | accepted (recoveredAddress nonce : String)
  | error (status : Nat) (detail : String)
  deriving DecidableEq

/-- `store_nonce` -/
def storeNonce (env : Env) (address : String) (nonce : Nonce) (nonces : State) : State :=
  nonces.insert (env.lower address) nonce

/-- `verify_and_consume_nonce` -/
def verifyAndConsumeNonce (env : Env) (address nonce : String) (nonces : State) :
    State × Bool :=
  match nonces.lookup (env.lower address) with
  | none => (nonces, false)
  | some stored =>
      if stored.1 ≠ nonce then (nonces, false)
      else (nonces.erase (env.lower address), true)

/-- `get_nonce`, with what is drawn; a missing `address` is empty. -/
def getNonce (env : Env) (address : String) (drawn : Nonce) (nonces : State) :
    State × Response :=
  let address := env.lower address
  if address = "" then (nonces, .error 400 "Missing address parameter")
  else (storeNonce env address drawn nonces, .nonce drawn)

/-- `verify_siwe` -/
def verifySiwe (env : Env) (message signature : String) (nonces : State) : State × Response :=
  match env.recover message signature with
  | none => (nonces, .error 401 "Invalid signature")
  | some recovered =>
      let nonce := siweNonce message
      if nonce = "" then (nonces, .error 400 "Missing nonce in SIWE message")
      else
        let result := verifyAndConsumeNonce env recovered nonce nonces
        if result.2 = true then (result.1, .accepted recovered nonce)
        else (result.1, .error 401 "Invalid or expired nonce")

inductive Move
  | getNonce (address : String) (drawn : Nonce)
  | login (message signature : String)
  deriving DecidableEq

def serve (env : Env) (move : Move) (nonces : State) : State × Response :=
  match move with
  | .getNonce address drawn => getNonce env address drawn nonces
  | .login message signature => verifySiwe env message signature nonces

def step (env : Env) (move : Move) (nonces : State) : Except Empty (State × Response) :=
  .ok (serve env move nonces)

abbrev Entry : Type := Run.Entry State Move Response

abbrev history (env : Env) (moves : List Move) : Trace State Move Response :=
  run (step env) ∅ moves

/-- The nonce that was handed out. -/
def Response.drawn : Response → Option String
  | .nonce drawn => some drawn.1
  | _ => none

/-- The nonce that was accepted. -/
def Response.taken : Response → Option String
  | .accepted _ text => some text
  | _ => none

@[simp] theorem drawn_nonce (nonce : Nonce) : (Response.nonce nonce).drawn = some nonce.1 := rfl
@[simp] theorem taken_nonce (nonce : Nonce) : (Response.nonce nonce).taken = none := rfl

@[simp] theorem drawn_accepted (recovered nonce : String) :
    (Response.accepted recovered nonce).drawn = none := rfl
@[simp] theorem taken_accepted (recovered nonce : String) :
    (Response.accepted recovered nonce).taken = some nonce := rfl

@[simp] theorem drawn_error (status : Nat) (detail : String) :
    (Response.error status detail).drawn = none := rfl
@[simp] theorem taken_error (status : Nat) (detail : String) :
    (Response.error status detail).taken = none := rfl

/-- A nonce was issued for the wallet, an address in lower case. -/
def issues (env : Env) (wallet : String) (entry : Entry) : Bool :=
  match entry.input with
  | .getNonce address _ => env.lower address ≠ "" ∧ env.lower address = wallet
  | .login _ _ => false

/-- A login of the wallet was accepted. -/
def accepts (env : Env) (wallet : String) (entry : Entry) : Bool :=
  match entry.output with
  | .accepted recovered _ => env.lower recovered = wallet
  | _ => false

/-- The nonce issued last for the wallet, unless a login was accepted since. -/
def unspent (env : Env) (wallet : String) (past : List Entry) : Option String :=
  match latest (issues env wallet) past with
  | none => none
  | some issue =>
      if (since (issues env wallet) past).any (accepts env wallet) then none
      else issue.output.drawn

/-- The move is about the wallet. -/
def Move.concerns (env : Env) (wallet : String) : Move → Bool
  | .getNonce address _ => env.lower address = wallet
  | .login message signature => (env.recover message signature).any fun recovered =>
      env.lower recovered = wallet

/-- A correctly signed login is accepted exactly if its message names the nonce that was issued
last for the recovered address, and none was accepted for it since. -/
def LoginExact (env : Env) (earlier : List Entry) (entry : Entry) : Prop :=
  ∀ message signature recovered, entry.input = .login message signature →
    env.recover message signature = some recovered →
    (entry.output = .accepted recovered (siweNonce message) ↔
      ∃ issue, latest (issues env (env.lower recovered)) earlier = some issue ∧
        issue.output.drawn = some (siweNonce message) ∧
        ∀ passed ∈ since (issues env (env.lower recovered)) earlier,
          accepts env (env.lower recovered) passed = false)

section Facts

variable {env : Env}

theorem verifyAndConsumeNonce_taken {address nonce : String} {nonces : State}
    (taken : (verifyAndConsumeNonce env address nonce nonces).2 = true) :
    ∃ stored, nonces.lookup (env.lower address) = some stored ∧ stored.1 = nonce ∧
      (verifyAndConsumeNonce env address nonce nonces).1 = nonces.erase (env.lower address) := by
  unfold verifyAndConsumeNonce at taken ⊢
  split at taken
  · cases taken
  · rename_i stored found
    split at taken
    · cases taken
    · rename_i same
      exact ⟨stored, found, Decidable.not_not.mp same, by simp [same]⟩

theorem verifyAndConsumeNonce_refused {address nonce : String} {nonces : State}
    (refused : (verifyAndConsumeNonce env address nonce nonces).2 = false) :
    (verifyAndConsumeNonce env address nonce nonces).1 = nonces := by
  unfold verifyAndConsumeNonce at refused ⊢
  split
  · rfl
  · split
    · rfl
    · rename_i stored found same
      simp [found, same] at refused

/-- A login takes the nonce that is stored for its address, or leaves everything as it is. -/
theorem verifySiwe_cases (env : Env) (message signature : String) (nonces : State) :
    (∃ recovered stored, env.recover message signature = some recovered ∧
      nonces.lookup (env.lower recovered) = some stored ∧ stored.1 = siweNonce message ∧
      verifySiwe env message signature nonces =
        (nonces.erase (env.lower recovered), .accepted recovered (siweNonce message))) ∨
    (∃ status detail, verifySiwe env message signature nonces =
        (nonces, .error status detail) ∧
      ∀ recovered, env.recover message signature = some recovered →
        (nonces.lookup (env.lower recovered)).map Subtype.val ≠ some (siweNonce message)) := by
  unfold verifySiwe
  cases signed : env.recover message signature with
  | none => exact .inr ⟨_, _, rfl, by simp⟩
  | some recovered =>
    dsimp only
    by_cases missing : siweNonce message = ""
    · rw [if_pos missing]
      refine .inr ⟨_, _, rfl, ?_⟩
      intro other same
      cases same
      rw [missing]
      intro named
      obtain ⟨stored, _, empty⟩ := Option.map_eq_some_iff.mp named
      exact stored.2 empty
    · rw [if_neg missing]
      cases taken : (verifyAndConsumeNonce env recovered (siweNonce message) nonces).2 with
      | true =>
        obtain ⟨stored, found, same, left⟩ := verifyAndConsumeNonce_taken taken
        rw [if_pos rfl, left]
        exact .inl ⟨recovered, stored, rfl, found, same, rfl⟩
      | false =>
        rw [if_neg (by simp), verifyAndConsumeNonce_refused taken]
        refine .inr ⟨_, _, rfl, ?_⟩
        intro other same named
        cases same
        obtain ⟨stored, found, equal⟩ := Option.map_eq_some_iff.mp named
        simp [verifyAndConsumeNonce, found, equal] at taken

theorem unspent_eq_some {wallet nonce : String} {past : List Entry} :
    unspent env wallet past = some nonce ↔
      ∃ issue, latest (issues env wallet) past = some issue ∧
        issue.output.drawn = some nonce ∧
        ∀ passed ∈ since (issues env wallet) past, accepts env wallet passed = false := by
  unfold unspent
  cases latest (issues env wallet) past with
  | none => simp
  | some issue =>
    cases spent : (since (issues env wallet) past).any (accepts env wallet) with
    | true =>
      obtain ⟨passed, member, accepted⟩ := List.any_eq_true.mp spent
      simp only [if_true, Option.some.injEq, exists_eq_left', false_iff, reduceCtorEq]
      rintro ⟨_, unaccepted⟩
      rw [unaccepted passed member] at accepted
      cases accepted
    | false =>
      rw [List.any_eq_false] at spent
      simp only [Bool.false_eq_true, if_false, Option.some.injEq, exists_eq_left']
      constructor
      · intro drawn
        exact ⟨drawn, fun passed member => by simpa using spent passed member⟩
      · exact And.left

theorem unspent_snoc (wallet : String) (past : List Entry) (last : Entry) :
    unspent env wallet (past ++ [last]) =
      if issues env wallet last then last.output.drawn
      else if accepts env wallet last then none
      else unspent env wallet past := by
  unfold unspent
  rw [latest_snoc, since_snoc]
  cases issues env wallet last with
  | true => rfl
  | false =>
    simp only [Bool.false_eq_true, if_false, List.any_cons]
    cases latest (issues env wallet) past with
    | none => simp
    | some issue =>
      cases accepts env wallet last with
      | true => simp
      | false => simp

/-- The dictionary holds, for every wallet, the nonce that can be spent. -/
def Tracks (env : Env) (past : List Entry) (now : State) : Prop :=
  ∀ wallet, (now.lookup wallet).map Subtype.val = unspent env wallet past

theorem getNonce_tracks (idempotent : ∀ text, env.lower (env.lower text) = env.lower text)
    {past : List Entry} {now : State} (tracks : Tracks env past now) (address : String)
    (drawn : Nonce) :
    Tracks env (past ++ [⟨now, .getNonce address drawn, (getNonce env address drawn now).2,
      (getNonce env address drawn now).1⟩]) (getNonce env address drawn now).1 := by
  intro wallet
  rw [unspent_snoc]
  by_cases missing : env.lower address = ""
  · simp [getNonce, missing, issues, accepts, tracks wallet]
  · by_cases same : env.lower address = wallet
    · subst same
      simp [getNonce, missing, issues, storeNonce, idempotent, Response.drawn]
    · have other : wallet ≠ env.lower address := fun equal => same equal.symm
      simp [getNonce, missing, issues, accepts, storeNonce, idempotent, same,
        AList.lookup_insert_ne other, tracks wallet]

theorem login_tracks {past : List Entry} {now : State} (tracks : Tracks env past now)
    (message signature : String) :
    Tracks env (past ++ [⟨now, .login message signature,
      (verifySiwe env message signature now).2, (verifySiwe env message signature now).1⟩])
      (verifySiwe env message signature now).1 := by
  intro wallet
  rw [unspent_snoc]
  rcases verifySiwe_cases env message signature now with
    ⟨recovered, stored, _, found, _, result⟩ | ⟨status, detail, result, _⟩
  · by_cases same : env.lower recovered = wallet
    · subst same
      simp [result, issues, accepts]
    · have other : wallet ≠ env.lower recovered := fun equal => same equal.symm
      simp [result, issues, accepts, same, AList.lookup_erase_ne other, tracks wallet]
  · simp [result, issues, accepts, tracks wallet]

/-- What is stored decides a login. -/
theorem verifySiwe_accepts {message signature recovered : String} {nonces : State}
    (signed : env.recover message signature = some recovered) :
    (verifySiwe env message signature nonces).2 = .accepted recovered (siweNonce message) ↔
      (nonces.lookup (env.lower recovered)).map Subtype.val = some (siweNonce message) := by
  rcases verifySiwe_cases env message signature nonces with
    ⟨other, stored, signed', found, same, result⟩ | ⟨status, detail, result, differs⟩
  · rw [signed] at signed'
    cases signed'
    simp [result, found, same]
  · rw [result]
    constructor
    · intro accepted
      cases accepted
    · intro named
      exact absurd named (differs recovered signed)

theorem step_ok {move : Move} {now after : State} {output : Response}
    (served : step env move now = .ok (after, output)) :
    after = (serve env move now).1 ∧ output = (serve env move now).2 := by
  have same : serve env move now = (after, output) := Except.ok.inj served
  rw [same]
  exact ⟨rfl, rfl⟩

theorem step_keeps (idempotent : ∀ text, env.lower (env.lower text) = env.lower text)
    {past : List Entry} {now after : State} {move : Move} {output : Response}
    (tracks : Tracks env past now) (served : step env move now = .ok (after, output)) :
    LoginExact env past ⟨now, move, output, after⟩ ∧
      Tracks env (past ++ [⟨now, move, output, after⟩]) after := by
  obtain ⟨rfl, rfl⟩ := step_ok served
  cases move with
  | getNonce address drawn =>
    refine ⟨?_, getNonce_tracks idempotent tracks address drawn⟩
    intro message signature recovered same
    cases same
  | login message signature =>
    refine ⟨?_, login_tracks tracks message signature⟩
    intro message' signature' recovered same signed
    cases same
    exact (verifySiwe_accepts signed).trans
      (by rw [tracks (env.lower recovered)]; exact unspent_eq_some)

/-- The nonces in the dictionary that read `text`. -/
def held (text : String) (nonces : State) : Nat :=
  nonces.entries.countP fun entry => entry.2.1 = text

/-- What `text` was issued for covers what it was accepted for and what it is held for. -/
def Covered (past : List Entry) (now : State) : Prop :=
  ∀ text, (past.countP fun entry => entry.output.taken = some text) + held text now ≤
    past.countP fun entry => entry.output.drawn = some text

theorem held_insert (text wallet : String) (drawn : Nonce) (nonces : State) :
    held text (nonces.insert wallet drawn) ≤
      held text nonces + if drawn.1 = text then 1 else 0 := by
  have fewer := (List.kerase_sublist wallet nonces.entries).countP_le
    (p := fun entry => decide (entry.2.1 = text))
  simp only [held, AList.entries_insert, List.countP_cons, decide_eq_true_eq] at fewer ⊢
  omega

theorem held_erase {wallet : String} {stored : Nonce} {nonces : State}
    (found : nonces.lookup wallet = some stored) :
    ∀ text, held text (nonces.erase wallet) + (if stored.1 = text then 1 else 0) =
      held text nonces := by
  intro text
  have present : wallet ∈ nonces.entries.keys :=
    AList.mem_keys.mpr (AList.lookup_isSome.mp (by rw [found]; rfl))
  obtain ⟨value, front, back, _, whole, left⟩ := List.exists_of_kerase present
  have same : nonces.lookup wallet = some value := by
    apply AList.mem_lookup_iff.mpr
    rw [whole]
    simp
  rw [found] at same
  cases same
  have parts : nonces.entries.countP (fun entry => decide (entry.2.1 = text)) =
      (front ++ ⟨wallet, stored⟩ :: back).countP fun entry => decide (entry.2.1 = text) := by
    rw [whole]
  have rest : (nonces.erase wallet).entries = front ++ back := left
  simp only [held, rest, parts, List.countP_append, List.countP_cons, decide_eq_true_eq]
  omega

theorem step_covered {past : List Entry} {now after : State} {move : Move} {output : Response}
    (covered : Covered past now) (served : step env move now = .ok (after, output)) :
    Covered (past ++ [⟨now, move, output, after⟩]) after := by
  obtain ⟨rfl, rfl⟩ := step_ok served
  intro text
  have before := covered text
  simp only [List.countP_append, List.countP_singleton]
  cases move with
  | getNonce address drawn =>
    by_cases missing : env.lower address = ""
    · simp only [serve, getNonce, missing, if_true, drawn_error, taken_error, reduceCtorEq,
        decide_false, Bool.false_eq_true, if_false]
      omega
    · have stored := held_insert text (env.lower (env.lower address)) drawn now
      simp only [serve, getNonce, missing, if_false, storeNonce, drawn_nonce, taken_nonce,
        Option.some.injEq, decide_eq_true_eq, reduceCtorEq, decide_false, Bool.false_eq_true]
      omega
  | login message signature =>
    rcases verifySiwe_cases env message signature now with
      ⟨recovered, stored, _, found, same, result⟩ | ⟨status, detail, result, _⟩
    · have left := held_erase found text
      rw [same] at left
      simp only [serve, result, drawn_accepted, taken_accepted, Option.some.injEq,
        decide_eq_true_eq, reduceCtorEq, decide_false, Bool.false_eq_true, if_false]
      omega
    · simp only [serve, result, drawn_error, taken_error, reduceCtorEq, decide_false,
        Bool.false_eq_true, if_false]
      omega

/-- A request about another wallet leaves the nonce of this one alone. -/
theorem serve_other {wallet : String} {move : Move}
    (idempotent : ∀ text, env.lower (env.lower text) = env.lower text)
    (other : move.concerns env wallet = false) (nonces : State) :
    (serve env move nonces).1.lookup wallet = nonces.lookup wallet := by
  cases move with
  | getNonce address drawn =>
    simp only [Move.concerns, decide_eq_false_iff_not] at other
    have differ : wallet ≠ env.lower (env.lower address) := by
      rw [idempotent]
      exact fun equal => other equal.symm
    simp only [serve, getNonce]
    split
    · rfl
    · exact AList.lookup_insert_ne differ
  | login message signature =>
    rcases verifySiwe_cases env message signature nonces with
      ⟨recovered, stored, signed, _, _, result⟩ | ⟨status, detail, result, _⟩
    · simp only [Move.concerns, signed, Option.any_some, decide_eq_false_iff_not] at other
      have differ : wallet ≠ env.lower recovered := fun equal => other equal.symm
      simp only [serve, result]
      exact AList.lookup_erase_ne differ
    · simp only [serve, result]

theorem verifyAndConsumeNonce_same {address : String} {nonces nonces' : State} (nonce : String)
    (same : nonces.lookup (env.lower address) = nonces'.lookup (env.lower address)) :
    (verifyAndConsumeNonce env address nonce nonces).2 =
        (verifyAndConsumeNonce env address nonce nonces').2 ∧
      (verifyAndConsumeNonce env address nonce nonces).1.lookup (env.lower address) =
        (verifyAndConsumeNonce env address nonce nonces').1.lookup (env.lower address) := by
  have found' := same
  cases found : nonces.lookup (env.lower address) with
  | none =>
    rw [found] at found'
    simp only [verifyAndConsumeNonce, found, ← found', and_self]
  | some stored =>
    rw [found] at found'
    by_cases taken : stored.1 = nonce
    · simp [verifyAndConsumeNonce, found, ← found', taken]
    · simp [verifyAndConsumeNonce, found, ← found', taken]

/-- A request about the wallet is answered by what is stored for the wallet, and what is stored
for it then depends on nothing else either. -/
theorem serve_same {wallet : String} {move : Move}
    (idempotent : ∀ text, env.lower (env.lower text) = env.lower text)
    (concerned : move.concerns env wallet = true) {nonces nonces' : State}
    (same : nonces.lookup wallet = nonces'.lookup wallet) :
    (serve env move nonces).2 = (serve env move nonces').2 ∧
      (serve env move nonces).1.lookup wallet = (serve env move nonces').1.lookup wallet := by
  cases move with
  | getNonce address drawn =>
    simp only [Move.concerns, decide_eq_true_eq] at concerned
    subst concerned
    simp only [serve, getNonce]
    split
    · exact ⟨rfl, same⟩
    · simp only [storeNonce, idempotent, AList.lookup_insert, and_self]
  | login message signature =>
    simp only [Move.concerns, Option.any_eq_true_iff_get, decide_eq_true_eq] at concerned
    obtain ⟨signed, concerned⟩ := concerned
    obtain ⟨recovered, recovers⟩ := Option.isSome_iff_exists.mp signed
    simp only [recovers, Option.get_some] at concerned
    subst concerned
    obtain ⟨answer, left⟩ := verifyAndConsumeNonce_same (siweNonce message) same
    simp only [serve, verifySiwe, recovers]
    split
    · exact ⟨rfl, same⟩
    · rw [answer]
      split
      · exact ⟨rfl, left⟩
      · exact ⟨rfl, left⟩

/-- The requests about a wallet, by themselves, come to the same nonce for it. -/
theorem lookup_concerned (idempotent : ∀ text, env.lower (env.lower text) = env.lower text)
    (wallet : String) (moves : List Move) :
    (history env (moves.filter (Move.concerns env wallet))).now.lookup wallet =
      (history env moves).now.lookup wallet := by
  refine (run_filter (step env) ∅ (Move.concerns env wallet) (fun nonces => nonces.lookup wallet)
    ?_ ?_ moves).1
  · intro nonces move after response unconcerned served
    have after_eq : (serve env move nonces).1 = after := congrArg Prod.fst (Except.ok.inj served)
    rw [← after_eq]
    exact serve_other idempotent unconcerned nonces
  · intro move nonces nonces' concerned same
    obtain ⟨answer, left⟩ := serve_same idempotent concerned same
    simp only [step, Except.map, Prod.map, answer, left]

/-- A login after any requests is answered as after those about its wallet alone. -/
def Undisturbed (env : Env) (moves : List Move) : Prop :=
  ∀ message signature recovered, env.recover message signature = some recovered →
    (verifySiwe env message signature (history env moves).now).2 =
      (verifySiwe env message signature
        (history env (moves.filter (Move.concerns env (env.lower recovered)))).now).2

theorem history_undisturbed
    (idempotent : ∀ text, env.lower (env.lower text) = env.lower text) (moves : List Move) :
    Undisturbed env moves := by
  intro message signature recovered signed
  have concerned : (Move.login message signature).concerns env (env.lower recovered) = true := by
    simp [Move.concerns, signed]
  exact (serve_same idempotent concerned
    (lookup_concerned idempotent (env.lower recovered) moves).symm).1

end Facts

/-- In every run, a login is accepted exactly if it names the nonce issued last for its address
and not accepted yet; a text is accepted no more often than it was issued; and what others ask
for makes no difference to a login. -/
theorem nonces_oneTime (env : Env)
    (idempotent : ∀ text, env.lower (env.lower text) = env.lower text) (moves : List Move) :
    Throughout (LoginExact env) (history env moves).past ∧
      (∀ text, ((history env moves).past.countP fun entry => entry.output.taken = some text) ≤
        (history env moves).past.countP fun entry => entry.output.drawn = some text) ∧
      Undisturbed env moves := by
  refine ⟨?_, ?_, history_undisturbed idempotent moves⟩
  · have meets : Meets (fun _ _ => True) (history env moves).past := by
      intro entry member
      trivial
    refine (run_throughout_of_meets (step env) ∅ (Tracks env) (fun _ _ => True) (LoginExact env)
      ?_ ?_ moves meets).1
    · intro wallet
      rfl
    · intro past now move after output tracks _ served
      exact step_keeps idempotent tracks served
  · intro text
    suffices covered : Covered (history env moves).past (history env moves).now from
      (Nat.le_add_right _ _).trans (covered text)
    apply run_induction (step env) ∅ Covered
    · intro other
      exact Nat.le_refl _
    · intro past now move after output covered served
      exact step_covered covered served

/-- Two spellings of one address, and a key that signs texts that name nonces `n1` and `n2`. -/
def sampleEnv : Env :=
  ⟨fun text => if text = "0xAB" then "0xab" else text,
    fun message signature =>
      if signature = "0x51" ∧ (message = "Log in\nNonce: n1" ∨ message = "Log in\nNonce: n2") then
        some "0xAB"
      else none⟩

theorem sampleEnv_idempotent (text : String) :
    sampleEnv.lower (sampleEnv.lower text) = sampleEnv.lower text := by
  simp only [sampleEnv]
  split
  · rfl
  · rfl

/-- A nonce is issued anew before it is used, and the second one is used twice. -/
def sampleMoves : List Move :=
  [.getNonce "0xAB" ⟨"n1", by decide⟩, .getNonce "0xab" ⟨"n2", by decide⟩,
    .login "Log in\nNonce: n1" "0x51", .login "Log in\nNonce: n2" "0x51",
    .login "Log in\nNonce: n2" "0x51"]

example : (history sampleEnv sampleMoves).past.map Run.Entry.output =
    [.nonce ⟨"n1", by decide⟩, .nonce ⟨"n2", by decide⟩, .error 401 "Invalid or expired nonce",
      .accepted "0xAB" "n2", .error 401 "Invalid or expired nonce"] := by
  decide +kernel

theorem nonces_oneTime_sample :
    Throughout (LoginExact sampleEnv) (history sampleEnv sampleMoves).past ∧
      (∀ text, ((history sampleEnv sampleMoves).past.countP fun entry =>
          entry.output.taken = some text) ≤
        (history sampleEnv sampleMoves).past.countP fun entry =>
          entry.output.drawn = some text) ∧
      Undisturbed sampleEnv sampleMoves :=
  nonces_oneTime sampleEnv sampleEnv_idempotent sampleMoves

end BigX.Backend.Siwe
