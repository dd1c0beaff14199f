import BigX.Gateway.Siwe
import BigX.Run.Latest

set_option autoImplicit false

/- What wallets that log in at the gateway at the same time do to each other: there is one
dictionary of nonces, and each request for a nonce replaces it. -/
namespace BigX.Gateway.Siwe

open Run

abbrev Entry : Type := Run.Entry State Move Response

/-- What the request puts into the place of the dictionary. -/
def issued (env : Env) (entry : Entry) : Option (String × String) :=
  match entry.input with
  | .getNonceV1 address drawn =>
      if env.lower address = "" then none else some (env.lower address, drawn)
  | _ => none

/-- A nonce was issued. -/
def issues (env : Env) (entry : Entry) : Bool := (issued env entry).isSome

/-- A nonce was issued for the wallet, an address in lower case. -/
def issuesFor (env : Env) (wallet : String) (entry : Entry) : Bool :=
  (issued env entry).any fun pair => pair.1 = wallet

/-- A login whose message names the nonce that was issued last for the wallet that signed it. -/
def CarriesLatest (env : Env) (earlier : List Entry) (entry : Entry) (wallet : String) : Prop :=
  ∃ message signature recovered issue,
    entry.input = .loginSiweV1 message signature ∧
    env.recover (message.getD "") (signature.getD "") = some recovered ∧
    env.lower recovered = wallet ∧ siweNonce (message.getD "") ≠ "" ∧
    latest (issuesFor env wallet) earlier = some issue ∧
    issued env issue = some (wallet, siweNonce (message.getD ""))

def Response.isPending : Response → Bool
  | .pending => true
  | _ => false

/-- The login got past its checks. -/
def Accepted (entry : Entry) : Prop := entry.output.isPending = true

/-- No nonce was issued for another wallet since the last one for this. -/
def Alone (env : Env) (wallet : String) (earlier : List Entry) : Prop :=
  ∀ passed ∈ since (issuesFor env wallet) earlier, issues env passed = false

theorem issuesFor_issues {env : Env} {wallet : String} {entry : Entry}
    (issue : issuesFor env wallet entry = true) : issues env entry = true := by
  unfold issuesFor at issue
  unfold issues
  cases made : issued env entry with
  | none =>
    rw [made] at issue
    cases issue
  | some pair => rfl

/-- The dictionary is what the last request for a nonce made it. -/
def Latest (env : Env) (past : List Entry) (now : State) : Prop :=
  now.nonces = (latest (issues env) past).bind (issued env)

theorem resume_nonces (id : String) (login : Login) (point : Point) (state : State) :
    (state.resume id login point).1.nonces = state.nonces := by
  unfold State.resume
  cases point with
  | selecting =>
    dsimp only
    split <;> rfl
  | committing =>
    dsimp only
    split <;> rfl
  | refreshing user => rfl

/-- Only a request for a nonce changes the dictionary. -/
theorem step_nonces {env : Env} {now after : State} {move : Move} {response : Response}
    (accepted : step env move now = .ok (after, response)) :
    after.nonces = ((issued env ⟨now, move, response, after⟩).map some).getD now.nonces := by
  cases move with
  | getNonceV1 address drawn =>
    simp only [step, Except.ok.injEq, Env.getNonceV1] at accepted
    simp only [issued]
    split at accepted
    · rename_i missing
      cases accepted
      simp [missing]
    · rename_i present
      cases accepted
      simp [present]
  | loginSiweV1 message signature =>
    simp only [step, Except.ok.injEq, Env.loginSiweV1] at accepted
    split at accepted
    · cases accepted
      rfl
    · cases accepted
      rfl
  | returned index id =>
    simp only [step] at accepted
    split at accepted
    · rename_i login point logins taken
      have same := congrArg Prod.fst (Except.ok.inj accepted)
      have kept := resume_nonces id login point { now with logins := logins }
      rw [same] at kept
      exact kept
    · cases accepted
  | raised index detail =>
    simp only [step] at accepted
    split at accepted
    · cases accepted
      rfl
    · cases accepted

theorem step_latest {env : Env} {past : List Entry} {now after : State} {move : Move}
    {response : Response} (held : Latest env past now)
    (accepted : step env move now = .ok (after, response)) :
    Latest env (past ++ [⟨now, move, response, after⟩]) after := by
  unfold Latest
  rw [latest_snoc, step_nonces accepted]
  unfold issues
  cases made : issued env ⟨now, move, response, after⟩ with
  | none => exact held
  | some pair => exact made.symm

/-- A login passes its checks exactly if the dictionary holds its nonce for the wallet. -/
theorem loginSiweV1_pending {env : Env} {message signature : Option String} {recovered : String}
    {now : State} (signed : env.recover (message.getD "") (signature.getD "") = some recovered)
    (named : siweNonce (message.getD "") ≠ "") :
    (env.loginSiweV1 message signature now).2.isPending = true ↔
      now.stored (env.lower recovered) = some (siweNonce (message.getD "")) := by
  unfold Env.loginSiweV1 Env.checkLogin
  rw [signed]
  by_cases stored : now.stored (env.lower recovered) = some (siweNonce (message.getD ""))
  · simp [named, stored, Response.isPending]
  · simp [named, stored, Response.isPending]

theorem stored_of_nonces {now : State} {address wallet nonce : String}
    (nonces : now.nonces = some (address, nonce)) :
    now.stored wallet = if address = wallet then some nonce else none := by
  simp only [State.stored, nonces]

/-- What is stored for a wallet is its latest nonce exactly if no other wallet came after it. -/
theorem stored_latest {env : Env} {wallet nonce : String} {past : List Entry} {now : State}
    {issue : Entry} (held : Latest env past now)
    (found : latest (issuesFor env wallet) past = some issue)
    (made : issued env issue = some (wallet, nonce)) :
    now.stored wallet = some nonce ↔ Alone env wallet past := by
  obtain ⟨marked, others, _⟩ := latest_split found
  constructor
  · intro stored passed member
    by_contra issue'
    obtain ⟨newer, after, last⟩ := latest_of_passed found member
      (Bool.eq_true_of_not_eq_false issue')
    have nonces : now.nonces = issued env newer := by rw [held, last, Option.bind_some]
    have other := others newer after
    unfold issuesFor at other
    cases wrote : issued env newer with
    | none =>
      have marks := (List.find?_eq_some_iff_append.mp last).1
      simp [issues, wrote] at marks
    | some pair =>
      rw [wrote] at nonces other
      have differ : pair.1 ≠ wallet := by simpa using other
      rw [stored_of_nonces nonces, if_neg differ] at stored
      cases stored
  · intro alone
    have last := latest_of_quiet found (issuesFor_issues marked) alone
    have nonces : now.nonces = some (wallet, nonce) := by rw [held, last, Option.bind_some, made]
    rw [stored_of_nonces nonces, if_pos rfl]

/-- In every run, a login that carries its wallet's latest nonce is accepted exactly if no nonce
was issued for another wallet in between. -/
theorem login_accepted_iff_alone (env : Env) (users : List User) (moves : List Move) :
    Throughout (fun earlier entry => ∀ wallet, CarriesLatest env earlier entry wallet →
      (Accepted entry ↔ Alone env wallet earlier)) (history env users moves).past := by
  have meets : Meets (fun _ _ => True) (history env users moves).past := by
    intro entry member
    trivial
  refine (run_throughout_of_meets (step env) (.begin_ users) (Latest env) (fun _ _ => True) _
    ?_ ?_ moves meets).1
  · rfl
  · intro past now move after output held _ accepted
    refine ⟨?_, step_latest held accepted⟩
    rintro wallet ⟨message, signature, recovered, issue, same, signed, rfl, named, found, made⟩
    simp only at same
    subst same
    have answer : (env.loginSiweV1 message signature now).2 = output :=
      congrArg Prod.snd (Except.ok.inj accepted)
    have passes : (env.loginSiweV1 message signature now).2.isPending = true ↔ _ :=
      loginSiweV1_pending signed named
    rw [answer] at passes
    exact passes.trans (stored_latest held found made)

/-- One wallet's key, which signs one message. -/
def oneKey : Env :=
  ⟨fun text => text, fun message signature =>
    if message = "Log in\nNonce: n1" ∧ signature = "0x51" then some "0xaa" else none⟩

/-- Two wallets ask for a nonce each, and the first one logs in with its own. -/
def clash : Trace State Move Response :=
  history oneKey [] [.getNonceV1 "0xaa" "n1", .getNonceV1 "0xbb" "n2",
    .loginSiweV1 (some "Log in\nNonce: n1") (some "0x51")]

theorem clash_length : 2 < clash.past.length := by decide +kernel

theorem clash_issue : (latest (issuesFor oneKey "0xaa") (clash.past.take 2)).isSome = true := by
  decide +kernel

/-- The first wallet's login is refused. -/
theorem login_accepted_clash :
    ¬ ∀ (env : Env) (users : List User) (moves : List Move),
      Throughout (fun earlier entry => ∀ wallet, CarriesLatest env earlier entry wallet →
        Accepted entry) (history env users moves).past := by
  intro always
  have third := (always oneKey [] [.getNonceV1 "0xaa" "n1", .getNonceV1 "0xbb" "n2",
    .loginSiweV1 (some "Log in\nNonce: n1") (some "0x51")]).at_index 2 clash_length "0xaa"
  have accepted := third
    ⟨some "Log in\nNonce: n1", some "0x51", "0xaa", _, rfl, by decide +kernel, rfl,
      by decide +kernel, (Option.some_get clash_issue).symm, by decide +kernel⟩
  revert accepted
  unfold Accepted
  decide +kernel

end BigX.Gateway.Siwe
