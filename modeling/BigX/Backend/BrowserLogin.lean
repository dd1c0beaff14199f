import BigX.Backend.Siwe

set_option autoImplicit false

/- Logging in from the web pages: a page fetches a nonce for the wallet's account, builds the
message, has the wallet sign it and posts both. Many pages do so at once, and everybody else
sends the backend any requests they can. -/
namespace BigX.Backend.BrowserLogin

open Run
open Gateway.Siwe (Env siweNonce strip)
open Siwe (Nonce Response)

/-- What `token_urlsafe` draws from. -/
def urlSafe (c : Char) : Bool :=
  c.isAlphanum || c = '-' || c = '_'

/-- `window.location`. A host is in lower case, and neither has a line break. -/
structure Location where
  host : String
  origin : String
  host_plain : ∀ c ∈ host.toList, c ≠ '\n' ∧ c ≠ 'N'
  origin_line : '\n' ∉ origin.toList

/-- An account that the wallet names. -/
structure Account where
  text : String
  hexadecimal : "0x".toList <+: text.toList
  line : '\n' ∉ text.toList

/-- `buildSiweMessage` -/
def buildSiweMessage (location : Location) (address nonce issuedAt : String) : String :=
  location.host ++ " wants you to sign in with your Ethereum account:\n" ++ address ++
    "\n\nSign in to Agentic DeFi Platform.\n\nURI: " ++ location.origin ++
    "\nVersion: 1\nChain ID: 1\nNonce: " ++ nonce ++ "\nIssued At: " ++ issuedAt

/-- How far `loginWithSiwe` got. -/
inductive Point
  | fetched (nonce : String)
  | signed (message signature : String)
  | posted (message : String) (answer : Response)

/-- A page on which somebody logs in. -/
structure Tab where
  location : Location
  address : Account
  point : Point

/-- What a page was answered. -/
def Tab.answer (tab : Tab) : Option Response :=
  match tab.point with
  | .posted _ answer => some answer
  | _ => none

/-- The backend with all that it was asked, the pages, and the messages that wallets have
signed, each with the address of the wallet in lower case. -/
structure State where
  backend : Trace Siwe.State Siwe.Move Response
  tabs : List Tab
  signed : List (String × String)

def State.begin_ : State := ⟨⟨[], ∅⟩, [], []⟩

/-- The signatures of each account, and the wallets whose keys nobody else has. -/
structure Setting where
  env : Env
  sign : String → String → String
  guarded : String → Bool

/-- What `recover_message` and `lower` are relied on for. -/
structure Setting.Sound (setting : Setting) : Prop where
  idempotent : ∀ text, setting.env.lower (setting.env.lower text) = setting.env.lower text
  recovers : ∀ address message, ∃ recovered,
    setting.env.recover message (setting.sign address message) = some recovered ∧
      setting.env.lower recovered = setting.env.lower address

inductive Move
  | fetchNonce (location : Location) (address : Account) (drawn : Nonce)
  | signMessage (tab : Nat) (issuedAt : String)
  | post (tab : Nat)
  /-- A wallet signs what some other page shows it. -/
  | prompt (address message : String)
  /-- A request that comes from none of the pages. -/
  | request (move : Siwe.Move)

/-- What cannot happen: a draw that repeats, a forged signature, a page that is not there. -/
inductive Impossible
  | repeated
  | forged
  | absent

/-- All nonces that were handed out. -/
def State.drawn (state : State) : List String :=
  state.backend.past.filterMap fun entry => entry.output.drawn

/-- A draw is new, and url-safe. -/
def State.Draws (state : State) (drawn : Nonce) : Prop :=
  drawn.1 ∉ state.drawn ∧ drawn.1.toList.all urlSafe = true

instance (state : State) (drawn : Nonce) : Decidable (state.Draws drawn) :=
  inferInstanceAs (Decidable (_ ∧ _))

/-- A message that a guarded wallet has not signed comes with no signature of it. -/
def State.Unforged (setting : Setting) (state : State) (message signature : String) : Prop :=
  ∀ recovered ∈ setting.env.recover message signature,
    setting.guarded (setting.env.lower recovered) = true →
      (setting.env.lower recovered, message) ∈ state.signed

instance (setting : Setting) (state : State) (message signature : String) :
    Decidable (state.Unforged setting message signature) :=
  inferInstanceAs (Decidable (∀ recovered ∈ setting.env.recover message signature, _))

/-- The backend serves a request. -/
def State.serve (setting : Setting) (move : Siwe.Move) (state : State) : State :=
  { state with backend := state.backend.extend (Siwe.step setting.env) move }

/-- What the backend answers to it. -/
def State.answer (setting : Setting) (move : Siwe.Move) (state : State) : Response :=
  (Siwe.serve setting.env move state.backend.now).2

def step (setting : Setting) (move : Move) (state : State) : Except Impossible (State × Unit) :=
  match move with
  | .fetchNonce location address drawn =>
      if state.Draws drawn then
        let served := state.serve setting (.getNonce address.text drawn)
        match state.answer setting (.getNonce address.text drawn) with
        | .nonce nonce =>
            .ok ({ served with tabs := served.tabs ++ [⟨location, address, .fetched nonce.1⟩] }, ())
        | _ => .ok (served, ())
      else .error .repeated
  | .signMessage tab issuedAt =>
      match state.tabs[tab]? with
      | some ⟨location, address, .fetched nonce⟩ =>
          let message := buildSiweMessage location address.text nonce issuedAt
          let point := Point.signed message (setting.sign address.text message)
          .ok ({ state with
            tabs := state.tabs.set tab ⟨location, address, point⟩
            signed := state.signed ++ [(setting.env.lower address.text, message)] }, ())
      | _ => .error .absent
  | .post tab =>
      match state.tabs[tab]? with
      | some ⟨location, address, .signed message signature⟩ =>
          let served := state.serve setting (.login message signature)
          let point := Point.posted message (state.answer setting (.login message signature))
          .ok ({ served with tabs := served.tabs.set tab ⟨location, address, point⟩ }, ())
      | _ => .error .absent
  | .prompt address message =>
      .ok ({ state with signed := state.signed ++ [(setting.env.lower address, message)] }, ())
  | .request (.getNonce address drawn) =>
      if state.Draws drawn then .ok (state.serve setting (.getNonce address drawn), ())
      else .error .repeated
  | .request (.login message signature) =>
      if state.Unforged setting message signature then
        .ok (state.serve setting (.login message signature), ())
      else .error .forged

abbrev history (setting : Setting) (moves : List Move) : Trace State Move Unit :=
  run (step setting) State.begin_ moves

section Message

/-- The first line of a text that begins with `Nonce:`. -/
def nonceLine (text : List Char) : Option (List Char) :=
  (text.splitOn '\n').find? fun line => "Nonce:".toList.isPrefixOf line

theorem nonceLine_skip {line rest : List Char} (one : '\n' ∉ line)
    (other : "Nonce:".toList.isPrefixOf line = false) :
    nonceLine (line ++ '\n' :: rest) = nonceLine rest := by
  rw [nonceLine, List.splitOn_append_cons_self_of_not_mem one,
    List.find?_cons_of_neg (by rw [other]; exact Bool.false_ne_true)]
  rfl

theorem nonceLine_here {line rest : List Char} (one : '\n' ∉ line)
    (this : "Nonce:".toList.isPrefixOf line = true) :
    nonceLine (line ++ '\n' :: rest) = some line := by
  rw [nonceLine, List.splitOn_append_cons_self_of_not_mem one, List.find?_cons_of_pos this]

theorem urlSafe_plain {c : Char} (safe : urlSafe c = true) :
    Pipeline.isSpace c = false ∧ c ≠ '\n' := by
  have range : (48 ≤ c.toNat ∧ c.toNat ≤ 57) ∨ (65 ≤ c.toNat ∧ c.toNat ≤ 90) ∨
      (97 ≤ c.toNat ∧ c.toNat ≤ 122) ∨ c.toNat = 45 ∨ c.toNat = 95 := by
    delta urlSafe Char.isAlphanum Char.isAlpha Char.isUpper Char.isLower Char.isDigit at safe
    simp only [Bool.or_eq_true, Bool.and_eq_true, decide_eq_true_eq, UInt32.le_iff_toNat_le,
      ge_iff_le] at safe
    have same : c.val.toNat = c.toNat := rfl
    rcases safe with ((alpha | digit) | rfl) | rfl
    · rw [same] at alpha
      simp at alpha
      omega
    · rw [same] at digit
      simp at digit
      omega
    · decide
    · decide
  constructor
  · simp only [Pipeline.isSpace, Bool.or_eq_false_iff, Bool.and_eq_false_iff,
      decide_eq_false_iff_not]
    omega
  · rintro rfl
    simp at range

/-- Nothing of a nonce is stripped. -/
theorem strip_nonce {nonce : List Char} (safe : nonce.all urlSafe = true) :
    strip (' ' :: nonce) = nonce := by
  have plain : ∀ c ∈ nonce, Pipeline.isSpace c = false :=
    fun c inside => (urlSafe_plain (List.all_eq_true.mp safe c inside)).1
  have kept : ∀ text : List Char, (∀ c ∈ text, Pipeline.isSpace c = false) →
      text.dropWhile Pipeline.isSpace = text := by
    intro text spaceless
    cases text with
    | nil => rfl
    | cons first rest => rw [List.dropWhile_cons_of_neg (by simp [spaceless first])]
  have front : (' ' :: nonce).dropWhile Pipeline.isSpace = nonce := by
    rw [List.dropWhile_cons_of_pos (by decide), kept nonce plain]
  rw [strip, front, kept nonce.reverse (fun c inside => plain c (List.mem_reverse.mp inside)),
    List.reverse_reverse]

/-- The message, line by line. -/
theorem build_lines (location : Location) (address nonce issuedAt : String) :
    (buildSiweMessage location address nonce issuedAt).toList =
      (location.host.toList ++ " wants you to sign in with your Ethereum account:".toList) ++
      '\n' :: (address.toList ++ '\n' :: ([] ++ '\n' ::
      ("Sign in to Agentic DeFi Platform.".toList ++ '\n' :: ([] ++ '\n' ::
      (("URI: ".toList ++ location.origin.toList) ++ '\n' :: ("Version: 1".toList ++ '\n' ::
      ("Chain ID: 1".toList ++ '\n' :: (("Nonce: ".toList ++ nonce.toList) ++ '\n' ::
      ("Issued At: ".toList ++ issuedAt.toList))))))))) := by
  simp [buildSiweMessage]

/-- What the backend reads from a page's message is the nonce that it was built with. -/
theorem siweNonce_build (location : Location) (address : Account) {nonce : String}
    (issuedAt : String) (safe : nonce.toList.all urlSafe = true) :
    siweNonce (buildSiweMessage location address.text nonce issuedAt) = nonce := by
  have plain : '\n' ∉ nonce.toList :=
    fun inside => (urlSafe_plain (List.all_eq_true.mp safe _ inside)).2 rfl
  have host_line : '\n' ∉ location.host.toList :=
    fun inside => (location.host_plain _ inside).1 rfl
  have first_line : '\n' ∉ location.host.toList ++
      " wants you to sign in with your Ethereum account:".toList := by
    rw [List.mem_append, not_or]
    exact ⟨host_line, by decide⟩
  have first_other : "Nonce:".toList.isPrefixOf (location.host.toList ++
      " wants you to sign in with your Ethereum account:".toList) = false := by
    cases found : location.host.toList with
    | nil => rfl
    | cons c rest =>
      have other : c ≠ 'N' := (location.host_plain c (by rw [found]; exact List.mem_cons_self)).2
      show (('N' == c) && _) = false
      rw [beq_false_of_ne (Ne.symm other), Bool.false_and]
  have address_other : "Nonce:".toList.isPrefixOf address.text.toList = false := by
    obtain ⟨rest, same⟩ := address.hexadecimal
    rw [← same]
    rfl
  have origin_line : '\n' ∉ "URI: ".toList ++ location.origin.toList := by
    rw [List.mem_append, not_or]
    exact ⟨by decide, location.origin_line⟩
  have nonce_line : '\n' ∉ "Nonce: ".toList ++ nonce.toList := by
    rw [List.mem_append, not_or]
    exact ⟨by decide, plain⟩
  have line : nonceLine (buildSiweMessage location address.text nonce issuedAt).toList =
      some ("Nonce: ".toList ++ nonce.toList) := by
    rw [build_lines, nonceLine_skip first_line first_other,
      nonceLine_skip address.line address_other, nonceLine_skip (by decide) rfl,
      nonceLine_skip (by decide) rfl, nonceLine_skip (by decide) rfl,
      nonceLine_skip origin_line rfl, nonceLine_skip (by decide) rfl,
      nonceLine_skip (by decide) rfl, nonceLine_here nonce_line rfl]
  have rest : (("Nonce: ".toList ++ nonce.toList).dropWhile fun c => c ≠ ':').drop 1 =
      ' ' :: nonce.toList := rfl
  unfold nonceLine at line
  simp only [siweNonce, line, rest, strip_nonce safe, String.ofList_toList]

end Message

section Runs

variable {setting : Setting}

/-- The nonce was handed out for the account, and what the backend did since. -/
def FetchedAt (setting : Setting) (address nonce : String) (fetch : Siwe.Entry) : Prop :=
  Siwe.issues setting.env (setting.env.lower address) fetch = true ∧
    fetch.output.drawn = some nonce ∧ nonce.toList.all urlSafe = true

/-- Neither another nonce for the account nor an accepted login of it. -/
def Quiet (setting : Setting) (address : String) (entries : List Siwe.Entry) : Prop :=
  ∀ passed ∈ entries, Siwe.issues setting.env (setting.env.lower address) passed = false ∧
    Siwe.accepts setting.env (setting.env.lower address) passed = false

/-- What a page has done so far, found again in the backend's past. -/
def Tab.Kept (setting : Setting) (past : List Siwe.Entry) (tab : Tab) : Prop :=
  match tab.point with
  | .fetched nonce => ∃ before fetch middle, past = before ++ fetch :: middle ∧
      FetchedAt setting tab.address.text nonce fetch
  | .signed message signature => ∃ nonce issuedAt before fetch middle,
      past = before ++ fetch :: middle ∧ FetchedAt setting tab.address.text nonce fetch ∧
      message = buildSiweMessage tab.location tab.address.text nonce issuedAt ∧
      signature = setting.sign tab.address.text message
  | .posted message answer => ∃ nonce issuedAt before fetch middle posted later,
      past = before ++ fetch :: (middle ++ posted :: later) ∧
      FetchedAt setting tab.address.text nonce fetch ∧
      message = buildSiweMessage tab.location tab.address.text nonce issuedAt ∧
      posted.input = .login message (setting.sign tab.address.text message) ∧
      posted.output = answer ∧
      ((∃ recovered, answer = .accepted recovered nonce) ↔
        Quiet setting tab.address.text middle)

theorem Tab.Kept.append {tab : Tab} {past : List Siwe.Entry} (kept : tab.Kept setting past)
    (more : List Siwe.Entry) : tab.Kept setting (past ++ more) := by
  obtain ⟨location, address, point⟩ := tab
  cases point with
  | fetched nonce =>
    obtain ⟨before, fetch, middle, rfl, fetched⟩ := kept
    exact ⟨before, fetch, middle ++ more, by simp, fetched⟩
  | signed message signature =>
    obtain ⟨nonce, issuedAt, before, fetch, middle, rfl, rest⟩ := kept
    exact ⟨nonce, issuedAt, before, fetch, middle ++ more, by simp, rest⟩
  | posted message answer =>
    obtain ⟨nonce, issuedAt, before, fetch, middle, posted, later, rfl, rest⟩ := kept
    exact ⟨nonce, issuedAt, before, fetch, middle, posted, later ++ more, by simp, rest⟩

/-- An accepted login is of a signature, and where the wallet is guarded, of one that it gave. -/
def Authentic (setting : Setting) (signed : List (String × String)) (entry : Siwe.Entry) : Prop :=
  ∀ recovered nonce, entry.output = .accepted recovered nonce →
    ∃ message signature, entry.input = .login message signature ∧
      setting.env.recover message signature = some recovered ∧ siweNonce message = nonce ∧
      (setting.guarded (setting.env.lower recovered) = true →
        (setting.env.lower recovered, message) ∈ signed)

/-- What holds in every state. -/
structure Regular (setting : Setting) (state : State) : Prop where
  tracks : Siwe.Tracks setting.env state.backend.past state.backend.now
  covered : Siwe.Covered state.backend.past state.backend.now
  fresh : state.drawn.Nodup
  authentic : ∀ entry ∈ state.backend.past, Authentic setting state.signed entry
  tabs : ∀ tab ∈ state.tabs, tab.Kept setting state.backend.past
  prompted : ∀ tab ∈ state.tabs, ∀ message signature, tab.point = .signed message signature →
    (setting.env.lower tab.address.text, message) ∈ state.signed

theorem regular_begin : Regular setting State.begin_ where
  tracks := fun _ => rfl
  covered := fun _ => Nat.le_refl _
  fresh := List.nodup_nil
  authentic := fun _ found => by cases found
  tabs := fun _ found => by cases found
  prompted := fun _ found => by cases found

/-- The requests that can come. -/
def State.Allows (setting : Setting) (state : State) : Siwe.Move → Prop
  | .getNonce _ drawn => state.Draws drawn
  | .login message signature => state.Unforged setting message signature

/-- The entry of a request. -/
def State.entry (setting : Setting) (move : Siwe.Move) (state : State) : Siwe.Entry :=
  ⟨state.backend.now, move, state.answer setting move,
    (Siwe.serve setting.env move state.backend.now).1⟩

theorem serve_past (move : Siwe.Move) (state : State) :
    (state.serve setting move).backend.past =
      state.backend.past ++ [state.entry setting move] := rfl

theorem answer_drawn {state : State} {move : Siwe.Move} {nonce : String}
    (drawn : (state.answer setting move).drawn = some nonce) :
    ∃ address given, move = .getNonce address given ∧ nonce = given.1 ∧
      setting.env.lower address ≠ "" := by
  cases move with
  | getNonce address given =>
    by_cases missing : setting.env.lower address = ""
    · simp [State.answer, Siwe.serve, Siwe.getNonce, missing] at drawn
    · simp only [State.answer, Siwe.serve, Siwe.getNonce, missing, if_false, Siwe.drawn_nonce,
        Option.some.injEq] at drawn
      exact ⟨address, given, rfl, drawn.symm, missing⟩
  | login message signature =>
    rcases Siwe.verifySiwe_cases setting.env message signature state.backend.now with
      ⟨recovered, stored, -, -, -, result⟩ | ⟨status, detail, result, -⟩
    · simp [State.answer, Siwe.serve, result] at drawn
    · simp [State.answer, Siwe.serve, result] at drawn

theorem answer_accepted {state : State} {message signature recovered nonce : String}
    (accepted : state.answer setting (.login message signature) = .accepted recovered nonce) :
    setting.env.recover message signature = some recovered ∧ siweNonce message = nonce := by
  rcases Siwe.verifySiwe_cases setting.env message signature state.backend.now with
    ⟨other, stored, signed, -, -, result⟩ | ⟨status, detail, result, -⟩
  · simp only [State.answer, Siwe.serve, result, Response.accepted.injEq] at accepted
    obtain ⟨rfl, rfl⟩ := accepted
    exact ⟨signed, rfl⟩
  · simp only [State.answer, Siwe.serve, result] at accepted
    cases accepted

/-- One request keeps all this. -/
theorem Regular.serve {state : State} (regular : Regular setting state) (sound : setting.Sound)
    {move : Siwe.Move} (allowed : state.Allows setting move) :
    Regular setting (state.serve setting move) := by
  have served : Siwe.step setting.env move state.backend.now =
      .ok (Siwe.serve setting.env move state.backend.now) := rfl
  refine ⟨?_, ?_, ?_, ?_, ?_, regular.prompted⟩
  · exact (Siwe.step_keeps sound.idempotent regular.tracks served).2
  · exact Siwe.step_covered regular.covered served
  · have drawn_eq : (state.serve setting move).drawn =
        state.drawn ++ [state.entry setting move].filterMap fun entry => entry.output.drawn :=
      List.filterMap_append
    rw [drawn_eq]
    cases drawn : (state.answer setting move).drawn with
    | none =>
      have none_new : ([state.entry setting move].filterMap fun entry => entry.output.drawn) =
          [] := by
        simp [State.entry, drawn]
      rw [none_new, List.append_nil]
      exact regular.fresh
    | some nonce =>
      have one_new : ([state.entry setting move].filterMap fun entry => entry.output.drawn) =
          [nonce] := by
        simp [State.entry, drawn]
      obtain ⟨address, given, rfl, rfl, -⟩ := answer_drawn drawn
      rw [one_new]
      exact List.Nodup.append regular.fresh (List.nodup_singleton _)
        (List.disjoint_singleton.mpr allowed.1)
  · intro entry member
    rw [serve_past, List.mem_append, List.mem_singleton] at member
    rcases member with earlier | rfl
    · exact regular.authentic entry earlier
    · intro recovered nonce accepted
      cases move with
      | getNonce address drawn =>
        by_cases missing : setting.env.lower address = ""
        · simp [State.entry, State.answer, Siwe.serve, Siwe.getNonce, missing] at accepted
        · simp [State.entry, State.answer, Siwe.serve, Siwe.getNonce, missing] at accepted
      | login message signature =>
        obtain ⟨recovers, names⟩ := answer_accepted accepted
        exact ⟨message, signature, rfl, recovers, names, allowed recovered recovers⟩
  · intro tab member
    exact (regular.tabs tab member).append _

/-- The nonce that a page fetched is the one to be spent exactly if all was quiet since. -/
theorem latest_iff_quiet {address nonce : String} {before middle : List Siwe.Entry}
    {fetch : Siwe.Entry} (fetched : FetchedAt setting address nonce fetch)
    (fresh : ((before ++ fetch :: middle).filterMap fun entry => entry.output.drawn).Nodup) :
    (∃ issue, latest (Siwe.issues setting.env (setting.env.lower address))
        (before ++ fetch :: middle) = some issue ∧ issue.output.drawn = some nonce ∧
      ∀ passed ∈ since (Siwe.issues setting.env (setting.env.lower address))
        (before ++ fetch :: middle),
        Siwe.accepts setting.env (setting.env.lower address) passed = false) ↔
      Quiet setting address middle := by
  obtain ⟨issued, drawn, -⟩ := fetched
  have reversed : (before ++ fetch :: middle).reverse =
      middle.reverse ++ fetch :: before.reverse := by simp
  by_cases unissued : ∀ passed ∈ middle,
      Siwe.issues setting.env (setting.env.lower address) passed = false
  · have none_later : ∀ passed ∈ middle.reverse,
        Siwe.issues setting.env (setting.env.lower address) passed = false :=
      fun passed inside => unissued passed (List.mem_reverse.mp inside)
    have last : latest (Siwe.issues setting.env (setting.env.lower address))
        (before ++ fetch :: middle) = some fetch := by
      rw [latest, reversed, List.find?_append,
        List.find?_eq_none.mpr (fun passed inside => by simp [none_later passed inside]),
        Option.none_or, List.find?_cons_of_pos issued]
    have after : since (Siwe.issues setting.env (setting.env.lower address))
        (before ++ fetch :: middle) = middle.reverse := by
      rw [since, reversed, List.takeWhile_append_of_pos
        (fun passed inside => by simp [none_later passed inside])]
      simp [issued]
    rw [last, after]
    constructor
    · rintro ⟨issue, -, -, unspent⟩ passed inside
      exact ⟨unissued passed inside, unspent passed (List.mem_reverse.mpr inside)⟩
    · intro quiet
      exact ⟨fetch, rfl, drawn, fun passed inside =>
        (quiet passed (List.mem_reverse.mp inside)).2⟩
  · refine iff_of_false ?_ fun quiet => unissued fun passed inside => (quiet passed inside).1
    rintro ⟨issue, last, same, -⟩
    -- A nonce issued later is another one.
    have later : issue ∈ middle := by
      rw [latest, reversed, List.find?_append] at last
      cases found : middle.reverse.find?
          (Siwe.issues setting.env (setting.env.lower address)) with
      | none =>
        refine absurd (fun passed inside => ?_) unissued
        have unmarked := List.find?_eq_none.mp found passed (List.mem_reverse.mpr inside)
        simpa using unmarked
      | some newer =>
        rw [found, Option.some_or] at last
        cases last
        exact List.mem_reverse.mp (List.mem_of_find?_eq_some found)
    have here : ((fetch :: middle).filterMap fun entry => entry.output.drawn) =
        nonce :: middle.filterMap fun entry => entry.output.drawn :=
      List.filterMap_cons_some drawn
    rw [List.filterMap_append, here] at fresh
    have others := (List.nodup_cons.mp (List.nodup_append.mp fresh).2.1).1
    exact others (List.mem_filterMap.mpr ⟨issue, later, same⟩)

/-- What became of a page that posts. -/
theorem posted_kept {state : State} (regular : Regular setting state) (sound : setting.Sound)
    {location : Location} {address : Account} {message signature : String}
    (kept : Tab.Kept setting state.backend.past ⟨location, address, .signed message signature⟩) :
    Tab.Kept setting (state.serve setting (.login message signature)).backend.past
      ⟨location, address, .posted message (state.answer setting (.login message signature))⟩ := by
  obtain ⟨nonce, issuedAt, before, fetch, middle, whole, fetched, built, signed⟩ := kept
  have names : siweNonce message = nonce := by
    rw [built]
    exact siweNonce_build location address issuedAt fetched.2.2
  obtain ⟨recovered, recovers, same⟩ := sound.recovers address.text message
  rw [show setting.sign address.text message = signature from signed.symm] at recovers
  have served : Siwe.step setting.env (.login message signature) state.backend.now =
      .ok (Siwe.serve setting.env (.login message signature) state.backend.now) := rfl
  have exact_login : state.answer setting (.login message signature) =
      .accepted recovered (siweNonce message) ↔
      ∃ issue, latest (Siwe.issues setting.env (setting.env.lower recovered))
          state.backend.past = some issue ∧ issue.output.drawn = some (siweNonce message) ∧
        ∀ passed ∈ since (Siwe.issues setting.env (setting.env.lower recovered))
          state.backend.past,
          Siwe.accepts setting.env (setting.env.lower recovered) passed = false :=
    (Siwe.step_keeps sound.idempotent regular.tracks served).1 message signature recovered rfl
      recovers
  have fresh := regular.fresh
  unfold State.drawn at fresh
  rw [whole] at fresh exact_login
  rw [same, names, latest_iff_quiet fetched fresh] at exact_login
  refine ⟨nonce, issuedAt, before, fetch, middle, state.entry setting (.login message signature),
    [], ?_, fetched, built, by rw [← signed]; rfl, rfl, ?_⟩
  · rw [serve_past, whole]
    simp
  · rw [← exact_login]
    constructor
    · rintro ⟨other, accepted⟩
      have other_recovers := (answer_accepted accepted).1
      rw [recovers] at other_recovers
      cases other_recovers
      exact accepted
    · intro accepted
      exact ⟨recovered, accepted⟩

/-- One more tab. -/
theorem Regular.addTab {state : State} (regular : Regular setting state) {tab : Tab}
    (kept : tab.Kept setting state.backend.past)
    (prompted : ∀ message signature, tab.point = .signed message signature →
      (setting.env.lower tab.address.text, message) ∈ state.signed) :
    Regular setting { state with tabs := state.tabs ++ [tab] } := by
  refine ⟨regular.tracks, regular.covered, regular.fresh, regular.authentic, ?_, ?_⟩
  · intro other member
    rcases List.mem_append.mp member with old | new
    · exact regular.tabs other old
    · rw [List.mem_singleton.mp new]
      exact kept
  · intro other member
    rcases List.mem_append.mp member with old | new
    · exact regular.prompted other old
    · rw [List.mem_singleton.mp new]
      exact prompted

/-- Another tab instead of one. -/
theorem Regular.setTab {state : State} (regular : Regular setting state) (position : Nat)
    {tab : Tab} (kept : tab.Kept setting state.backend.past)
    (prompted : ∀ message signature, tab.point = .signed message signature →
      (setting.env.lower tab.address.text, message) ∈ state.signed) :
    Regular setting { state with tabs := state.tabs.set position tab } := by
  refine ⟨regular.tracks, regular.covered, regular.fresh, regular.authentic, ?_, ?_⟩
  · intro other member
    rcases List.mem_or_eq_of_mem_set member with old | rfl
    · exact regular.tabs other old
    · exact kept
  · intro other member
    rcases List.mem_or_eq_of_mem_set member with old | rfl
    · exact regular.prompted other old
    · exact prompted

/-- One more signature. -/
theorem Regular.prompt {state : State} (regular : Regular setting state)
    (more : String × String) : Regular setting { state with signed := state.signed ++ [more] } := by
  refine ⟨regular.tracks, regular.covered, regular.fresh, ?_, regular.tabs, ?_⟩
  · intro entry member recovered nonce accepted
    obtain ⟨message, signature, asked, recovers, names, authentic⟩ :=
      regular.authentic entry member recovered nonce accepted
    exact ⟨message, signature, asked, recovers, names, fun guarded =>
      List.mem_append_left _ (authentic guarded)⟩
  · intro tab member message signature signed
    exact List.mem_append_left _ (regular.prompted tab member message signature signed)

/-- Every move keeps all this. -/
theorem step_regular (sound : setting.Sound) {state after : State} {move : Move}
    (regular : Regular setting state) (accepted : step setting move state = .ok (after, ())) :
    Regular setting after := by
  cases move with
  | fetchNonce location address drawn =>
    simp only [step] at accepted
    split at accepted
    · rename_i draws
      have allowed : state.Allows setting (.getNonce address.text drawn) := draws
      have served := regular.serve sound allowed
      split at accepted
      · rename_i nonce answered
        cases accepted
        refine served.addTab ?_ (fun _ _ signed => by cases signed)
        have given : (state.answer setting (.getNonce address.text drawn)).drawn =
            some nonce.1 := by rw [answered]; rfl
        obtain ⟨_, _, same, equal, real⟩ := answer_drawn given
        cases same
        refine ⟨state.backend.past, state.entry setting (.getNonce address.text drawn), [], rfl,
          ?_, given, ?_⟩
        · simp [Siwe.issues, State.entry, real]
        · rw [equal]
          exact draws.2
      · cases accepted
        exact served
    · cases accepted
  | signMessage position issuedAt =>
    simp only [step] at accepted
    split at accepted
    · rename_i location address nonce found
      cases accepted
      obtain ⟨before, fetch, middle, whole, fetched⟩ :=
        regular.tabs _ (List.mem_of_getElem? found)
      have signed := regular.prompt (setting.env.lower address.text,
        buildSiweMessage location address.text nonce issuedAt)
      refine signed.setTab position ⟨nonce, issuedAt, before, fetch, middle, whole, fetched, rfl,
        rfl⟩ ?_
      intro message signature same
      cases same
      exact List.mem_append_right _ (List.mem_singleton_self _)
    · cases accepted
  | post position =>
    simp only [step] at accepted
    split at accepted
    · rename_i location address message signature found
      cases accepted
      have member := List.mem_of_getElem? found
      have kept := regular.tabs _ member
      obtain ⟨nonce, issuedAt, before, fetch, middle, -, -, -, signed⟩ := id kept
      obtain ⟨recovered, recovers, same⟩ := sound.recovers address.text message
      rw [show setting.sign address.text message = signature from signed.symm] at recovers
      have unforged : state.Allows setting (.login message signature) := by
        intro other recovers' _
        rw [Option.mem_def, recovers] at recovers'
        cases recovers'
        rw [same]
        exact regular.prompted _ member message signature rfl
      refine (regular.serve sound unforged).setTab position (posted_kept regular sound kept) ?_
      intro _ _ other
      cases other
    · cases accepted
  | prompt address message =>
    cases accepted
    exact regular.prompt _
  | request move =>
    cases move with
    | getNonce address drawn =>
      simp only [step] at accepted
      split at accepted
      · rename_i draws
        cases accepted
        exact regular.serve sound draws
      · cases accepted
    | login message signature =>
      simp only [step] at accepted
      split at accepted
      · rename_i unforged
        cases accepted
        exact regular.serve sound unforged
      · cases accepted

/-- The message of a login that was accepted. -/
def acceptedMessage (entry : Siwe.Entry) : Option String :=
  match entry.input, entry.output with
  | .login message _, .accepted _ _ => some message
  | _, _ => none

/-- What is accepted is what is named by the message. -/
theorem taken_eq {signed : List (String × String)} {entry : Siwe.Entry}
    (authentic : Authentic setting signed entry) :
    entry.output.taken = (acceptedMessage entry).map siweNonce := by
  obtain ⟨before, input, output, after⟩ := entry
  cases output with
  | accepted recovered nonce =>
    obtain ⟨message, signature, asked, -, names, -⟩ := authentic recovered nonce rfl
    cases asked
    exact congrArg some names.symm
  | nonce drawn => cases input <;> rfl
  | error status detail => cases input <;> rfl

/-- No message is accepted twice. -/
theorem Regular.once {state : State} (regular : Regular setting state) :
    (state.backend.past.filterMap acceptedMessage).Nodup := by
  have taken_once : (state.backend.past.filterMap fun entry => entry.output.taken).Nodup := by
    apply List.nodup_iff_count_le_one.mpr
    intro text
    have covered := regular.covered text
    have drawn_once := List.nodup_iff_count_le_one.mp regular.fresh text
    unfold State.drawn at drawn_once
    rw [List.count_filterMap] at drawn_once ⊢
    simp only [Bool.beq_eq_decide_eq] at drawn_once ⊢
    exact ((Nat.le_add_right _ _).trans covered).trans drawn_once
  have same : (state.backend.past.filterMap fun entry => entry.output.taken) =
      (state.backend.past.filterMap acceptedMessage).map siweNonce := by
    rw [List.map_filterMap]
    exact List.filterMap_congr fun entry member => taken_eq (regular.authentic entry member)
  rw [same] at taken_once
  exact List.Nodup.of_map siweNonce taken_once

/-- What pages, wallets and the backend agree on: every accepted login of a guarded wallet is of a
message that the wallet signed, no message is accepted twice, and a page that has posted was
accepted exactly if all was quiet for its account since it fetched its nonce. -/
structure Agreement (setting : Setting) (state : State) : Prop where
  authentic : ∀ entry ∈ state.backend.past, Authentic setting state.signed entry
  once : (state.backend.past.filterMap acceptedMessage).Nodup
  tabs : ∀ tab ∈ state.tabs, tab.Kept setting state.backend.past

end Runs

/-- A signature tells whose it is; that it belongs to the message is for the moves to see to. -/
def sampleSetting : Setting where
  env := ⟨fun text => text, fun _ signature => some signature⟩
  sign := fun address _ => address
  guarded := fun wallet => wallet = "0xab"

theorem sampleSetting_sound : sampleSetting.Sound where
  idempotent := fun _ => rfl
  recovers := fun address _ => ⟨address, rfl, rfl⟩

def samplePage : Location :=
  ⟨"app", "https://app", by simp, by simp⟩

def sampleAccount : Account := ⟨"0xab", by simp, by simp⟩

theorem n1_ne : "n1" ≠ "" := by decide
theorem n2_ne : "n2" ≠ "" := by decide

/-- A page's nonce is replaced by one that somebody else fetches for the same account. -/
def sampleMoves : List Move :=
  [.fetchNonce samplePage sampleAccount ⟨"n1", n1_ne⟩,
    .request (.getNonce "0xab" ⟨"n2", n2_ne⟩), .signMessage 0 "today", .post 0]

end BigX.Backend.BrowserLogin
