import BigX.Infra.Cache
import BigX.Run.Latest
import Mathlib.Algebra.Ring.Int.Defs

set_option autoImplicit false

/- The strings of the redis client, and the sessions among them: JSON under a key of their own
that expires. -/
namespace BigX.Infra.Sessions

open Json Redis Run Session
open Cache (Fault Outcome payload)

abbrev Strings := Store String Text

abbrev Client := Session Strings Fault

/-- How connecting ends, and the command. -/
structure Network where
  connect : Outcome
  command : Outcome

/-- Nothing fails. -/
def Network.up : Network := ⟨.returned, .returned⟩

def command (ending : Outcome) (effect : Strings → Strings) : Client Unit :=
  match ending with
  | .returned => modify effect
  | .raised fault executed => do
    if executed then modify effect
    throw fault

/-- The expiries that `SET` takes. -/
def accepts (clock : Nat) (ttl : Option Int) : Bool :=
  ttl.all fun seconds => decide (0 < seconds ∧ (clock : Int) + 1000 * seconds ≤ 2 ^ 63 - 1)

/-- What `SET` leaves under its key. -/
def item (clock : Nat) (text : Text) (ttl : Option Int) : Item Text :=
  ⟨text, ttl.map fun seconds => clock + 1000 * seconds.toNat⟩

def setCommand (ending : Outcome) (key : String) (text : Text) (ttl : Option Int) :
    Client Unit := do
  let store ← get
  if accepts store.clock ttl then
    command ending (Store.write key (some (item store.clock text ttl)))
  else
    command ending id
    throw (.redis "invalid expire time in 'set' command")

def getCommand (ending : Outcome) (key : String) : Client (Option Text) := do
  let store ← get
  command ending id
  return store.get key

/-- A `RedisError` is answered with `otherwise`. -/
def caught {α : Type} (otherwise : α) (session : Client α) : Client α :=
  tryCatch session fun fault =>
    match fault with
    | .redis _ => return otherwise
    | .other _ => throw fault

def sessionKey (sessionId : String) : String := s!"session:{sessionId}"

namespace RedisClient

variable {F : Type} (floats : Floats F) (encode : Value F → Except Fault Text)

/-- `encode` is how the client makes a value into text that it sends. -/
def set (network : Network) (key : String) (value : Value F) (ttl : Option Int) : Client Bool :=
  caught false do
    command network.connect id
    let text ← liftExcept (encode (payload floats value))
    setCommand network.command key text ttl
    return true

def get (network : Network) (key : String) : Client (Option Text) :=
  caught none do
    command network.connect id
    getCommand network.command key

def getJson (network : Network) (key : String) : Client (Option (Value F)) := do
  let value ← RedisClient.get network key
  return value.bind (loads floats)

def delete (network : Network) (key : String) : Client Bool :=
  caught false do
    command network.connect id
    command network.command (Store.delete key)
    return true

def exists_ (network : Network) (key : String) : Client Bool :=
  caught false do
    command network.connect id
    let value ← getCommand network.command key
    return value.isSome

def createSession (network : Network) (sessionId : String) (data : List (List Nat × Value F))
    (ttl : Option Int) : Client Bool :=
  caught false do
    command network.connect id
    setCommand network.command (sessionKey sessionId)
      ((Value.dict data).dumps floats .default) ttl
    return true

/-- `json.loads` of what is under the key of the session. -/
def readSession (text : Option Text) : Except Fault (Option (Value F)) :=
  match text with
  | none => .ok none
  | some text =>
      match loads floats text with
      | some value => .ok (some value)
      | none => .error (.other "JSONDecodeError")

def getSession (network : Network) (sessionId : String) : Client (Option (Value F)) :=
  caught none do
    command network.connect id
    let text ← getCommand network.command (sessionKey sessionId)
    liftExcept (readSession floats text)

def deleteSession (network : Network) (sessionId : String) : Client Bool :=
  delete network (sessionKey sessionId)

end RedisClient

section After

variable {α β : Type}

/-- The store after a session. -/
def after (session : Client α) (store : Strings) : Strings := (session.outcome store).2

def carriedOut : Outcome → Bool
  | .returned => true
  | .raised _ executed => executed

def connected : Outcome → Bool
  | .returned => true
  | .raised _ _ => false

theorem after_command (ending : Outcome) (effect : Strings → Strings) (store : Strings) :
    after (command ending effect) store = if carriedOut ending then effect store else store := by
  cases ending with
  | returned => rfl
  | raised fault executed => cases executed <;> rfl

theorem after_caught (otherwise : α) (session : Client α) (store : Strings) :
    after (caught otherwise session) store = after session store := by
  unfold after caught
  rw [outcome_tryCatch]
  obtain ⟨result, later⟩ := session.outcome store
  cases result with
  | ok value => rfl
  | error fault => cases fault <;> rfl

/-- What follows a session and sends nothing leaves the store as it is. -/
theorem after_bind_silent (session : Client α) {next : α → Client β}
    (silent : ∀ value later, after (next value) later = later) (store : Strings) :
    after (session >>= next) store = after session store := by
  unfold after at silent ⊢
  rw [outcome_bind]
  obtain ⟨result, later⟩ := session.outcome store
  cases result with
  | error fault => rfl
  | ok value => exact silent value later

theorem after_bind_pure (session : Client α) (answer : α → β) (store : Strings) :
    after (session >>= fun value => pure (answer value)) store = after session store :=
  after_bind_silent session (fun _ _ => rfl) store

/-- What follows the connection happens if it stands. -/
theorem after_connect (ending : Outcome) (next : Unit → Client α) (store : Strings) :
    after (command ending id >>= next) store =
      if connected ending then after (next ()) store else store := by
  unfold after
  rw [outcome_bind]
  cases ending with
  | returned => rfl
  | raised fault executed => cases executed <;> rfl

theorem after_setCommand (ending : Outcome) (key : String) (text : Text) (ttl : Option Int)
    (store : Strings) :
    after (setCommand ending key text ttl) store =
      if accepts store.clock ttl = true ∧ carriedOut ending = true then
        store.write key (some (item store.clock text ttl))
      else store := by
  unfold after setCommand
  rw [outcome_get_bind]
  cases taken : accepts store.clock ttl with
  | true =>
    have sent := after_command ending (Store.write key (some (item store.clock text ttl))) store
    simp only [if_true, true_and]
    exact sent
  | false =>
    have refused : after (command ending id >>= fun _ =>
        (throw (.redis "invalid expire time in 'set' command") : Client Unit)) store = store := by
      rw [after_connect]
      cases ending <;> rfl
    simp only [Bool.false_eq_true, if_false, false_and]
    exact refused

theorem after_getCommand (ending : Outcome) (key : String) (store : Strings) :
    after (getCommand ending key) store = store := by
  unfold after getCommand
  rw [outcome_get_bind]
  have read := after_connect ending (fun _ => (pure (store.get key) : Client (Option Text))) store
  have same : after (pure (store.get key) : Client (Option Text)) store = store := rfl
  rw [same, ite_self] at read
  exact read

end After

variable {F : Type}

inductive Call (F : Type)
  | set (key : String) (value : Value F) (ttl : Option Int)
  | get (key : String)
  | getJson (key : String)
  | delete (key : String)
  | exists_ (key : String)
  | createSession (sessionId : String) (data : List (List Nat × Value F)) (ttl : Option Int)
  | getSession (sessionId : String)
  | deleteSession (sessionId : String)

inductive Answer (F : Type)
  | done (done : Bool)
  | text (text : Option Text)
  | value (value : Option (Value F))

variable (floats : Floats F) (encode : Value F → Except Fault Text)

def Call.make (network : Network) : Call F → Client (Answer F)
  | .set key value ttl => do return .done (← RedisClient.set floats encode network key value ttl)
  | .get key => do return .text (← RedisClient.get network key)
  | .getJson key => do return .value (← RedisClient.getJson floats network key)
  | .delete key => do return .done (← RedisClient.delete network key)
  | .exists_ key => do return .done (← RedisClient.exists_ network key)
  | .createSession sessionId data ttl => do
      return .done (← RedisClient.createSession floats network sessionId data ttl)
  | .getSession sessionId => do
      return .value (← RedisClient.getSession floats network sessionId)
  | .deleteSession sessionId => do
      return .done (← RedisClient.deleteSession network sessionId)

/-- What a call leaves under a key, if it changes it. -/
def Call.leaves (network : Network) (clock : Nat) (key : String) (call : Call F) :
    Option (Option (Item Text)) :=
  if connected network.connect = true ∧ carriedOut network.command = true then
    match call with
    | .set other value ttl =>
        match encode (payload floats value) with
        | .ok text =>
            if other = key ∧ accepts clock ttl = true then some (some (item clock text ttl))
            else none
        | .error _ => none
    | .createSession sessionId data ttl =>
        if sessionKey sessionId = key ∧ accepts clock ttl = true then
          some (some (item clock ((Value.dict data).dumps floats .default) ttl))
        else none
    | .delete other => if other = key then some none else none
    | .deleteSession sessionId => if sessionKey sessionId = key then some none else none
    | _ => none
  else none

/-- A client calls, or time passes. -/
inductive Move (F : Type)
  | called (network : Network) (call : Call F)
  | waited (milliseconds : Nat)

abbrev Answered (F : Type) := Option (Except Fault (Answer F))

def step (move : Move F) (store : Strings) : Except Empty (Strings × Answered F) :=
  match move with
  | .called network call =>
      let ended := (call.make floats encode network).outcome store
      .ok (ended.2, some ended.1)
  | .waited milliseconds => .ok (store.pass milliseconds, none)

abbrev history (clock : Nat) (moves : List (Move F)) : Trace Strings (Move F) (Answered F) :=
  run (step floats encode) (.empty clock) moves

/-- What an entry leaves under a key, if it changes it. -/
def leaves (key : String) (entry : Entry Strings (Move F) (Answered F)) :
    Option (Option (Item Text)) :=
  match entry.input with
  | .called network call => call.leaves floats encode network entry.before.clock key
  | .waited _ => none

section Calls

variable {floats encode} {network : Network} {store : Strings}

theorem items_write (key other : String) (item : Option (Item Text)) (store : Strings) :
    (store.write other item).items key = if other = key then item else store.items key := by
  by_cases same : other = key
  · rw [same]
    simp [Store.write]
  · simp [Store.write, same, Ne.symm same]

theorem after_set (key : String) (value : Value F) (ttl : Option Int) :
    after (RedisClient.set floats encode network key value ttl) store =
      if connected network.connect = true then
        match encode (payload floats value) with
        | .ok text => after (setCommand network.command key text ttl) store
        | .error _ => store
      else store := by
  rw [RedisClient.set, after_caught, after_connect]
  congr 1
  unfold after
  rw [outcome_bind, outcome_liftExcept]
  cases encode (payload floats value) with
  | error fault => rfl
  | ok text => exact after_bind_pure _ (fun _ => true) store

theorem after_delete (key : String) :
    after (RedisClient.delete network key) store =
      if connected network.connect = true ∧ carriedOut network.command = true then
        store.delete key
      else store := by
  rw [RedisClient.delete, after_caught, after_connect,
    after_bind_pure (command network.command (Store.delete key)) (fun _ => true), after_command]
  cases connected network.connect <;> simp

theorem after_createSession (sessionId : String) (data : List (List Nat × Value F))
    (ttl : Option Int) :
    after (RedisClient.createSession floats network sessionId data ttl) store =
      if connected network.connect = true then
        after (setCommand network.command (sessionKey sessionId)
          ((Value.dict data).dumps floats .default) ttl) store
      else store := by
  rw [RedisClient.createSession, after_caught, after_connect]
  congr 1
  exact after_bind_pure _ (fun _ => true) store

theorem after_get (key : String) : after (RedisClient.get network key) store = store := by
  rw [RedisClient.get, after_caught, after_connect, after_getCommand, ite_self]

theorem after_getSession (sessionId : String) :
    after (RedisClient.getSession floats network sessionId) store = store := by
  rw [RedisClient.getSession, after_caught, after_connect, after_bind_silent, after_getCommand,
    ite_self]
  intro text later
  unfold after
  rw [outcome_liftExcept]

theorem after_exists (key : String) : after (RedisClient.exists_ network key) store = store := by
  rw [RedisClient.exists_, after_caught, after_connect,
    after_bind_pure (getCommand network.command key) Option.isSome, after_getCommand, ite_self]

theorem items_after_set (ending : Outcome) (key other : String) (text : Text)
    (ttl : Option Int) :
    (after (setCommand ending other text ttl) store).items key =
      if other = key ∧ accepts store.clock ttl = true ∧ carriedOut ending = true then
        some (item store.clock text ttl)
      else store.items key := by
  rw [after_setCommand]
  by_cases done : accepts store.clock ttl = true ∧ carriedOut ending = true
  · rw [if_pos done, items_write]
    simp [done]
  · rw [if_neg done, if_neg fun all => done all.2]

/-- One call changes what it says and nothing else. -/
theorem items_after_call (call : Call F) (key : String) :
    (after (call.make floats encode network) store).items key =
      (call.leaves floats encode network store.clock key).getD (store.items key) := by
  unfold Call.leaves
  cases call with
  | set other value ttl =>
    rw [Call.make, after_bind_pure (RedisClient.set floats encode network other value ttl),
      after_set]
    cases connected network.connect with
    | false => simp
    | true =>
      simp only [if_true, true_and]
      cases encode (payload floats value) with
      | error fault => simp
      | ok text =>
        dsimp only
        rw [items_after_set]
        by_cases done : carriedOut network.command = true <;>
          by_cases same : other = key <;>
            by_cases taken : accepts store.clock ttl = true <;> simp [done, same, taken]
  | get other =>
    rw [Call.make, after_bind_pure (RedisClient.get network other), after_get]
    simp
  | getJson other =>
    rw [Call.make, after_bind_pure (RedisClient.getJson floats network other), RedisClient.getJson,
      after_bind_pure (RedisClient.get network other), after_get]
    simp
  | delete other =>
    rw [Call.make, after_bind_pure (RedisClient.delete network other), after_delete]
    by_cases done : connected network.connect = true ∧ carriedOut network.command = true
    · rw [if_pos done, if_pos done, Store.delete, items_write]
      by_cases same : other = key <;> simp [same]
    · rw [if_neg done, if_neg done]
      rfl
  | exists_ other =>
    rw [Call.make, after_bind_pure (RedisClient.exists_ network other), after_exists]
    simp
  | createSession sessionId data ttl =>
    rw [Call.make, after_bind_pure (RedisClient.createSession floats network sessionId data ttl),
      after_createSession]
    cases connected network.connect with
    | false => simp
    | true =>
      simp only [if_true, true_and]
      rw [items_after_set]
      by_cases done : carriedOut network.command = true <;>
        by_cases same : sessionKey sessionId = key <;>
          by_cases taken : accepts store.clock ttl = true <;> simp [done, same, taken]
  | getSession sessionId =>
    rw [Call.make, after_bind_pure (RedisClient.getSession floats network sessionId),
      after_getSession]
    simp
  | deleteSession sessionId =>
    rw [Call.make, after_bind_pure (RedisClient.deleteSession network sessionId),
      RedisClient.deleteSession, after_delete]
    by_cases done : connected network.connect = true ∧ carriedOut network.command = true
    · rw [if_pos done, if_pos done, Store.delete, items_write]
      by_cases same : sessionKey sessionId = key <;> simp [same]
    · rw [if_neg done, if_neg done]
      rfl

theorem command_ok {ending : Outcome} {effect : Strings → Strings} {later : Strings}
    {value : Unit} (done : (command ending effect).outcome store = (.ok value, later)) :
    later = effect store := by
  cases ending with
  | returned => exact (Prod.mk.inj done).2.symm
  | raised fault executed => cases executed <;> cases (Prod.mk.inj done).1

theorem readSession_error {text : Option Text} {fault : Fault}
    (raised : RedisClient.readSession floats text = .error fault) :
    fault = .other "JSONDecodeError" := by
  unfold RedisClient.readSession at raised
  split at raised
  · cases raised
  · split at raised
    · cases raised
    · cases raised
      rfl

/-- A session is what is under its key. -/
theorem getSession_up (sessionId : String) :
    ((RedisClient.getSession floats .up sessionId).outcome store).1 =
      RedisClient.readSession floats (store.get (sessionKey sessionId)) := by
  have sent : (command (Network.up).connect id >>= fun _ =>
      getCommand (Network.up).command (sessionKey sessionId) >>= fun text =>
        liftExcept (RedisClient.readSession floats text)).outcome store =
      (RedisClient.readSession floats (store.get (sessionKey sessionId)), store) := by
    rw [← outcome_liftExcept (RedisClient.readSession floats _) store]
    rfl
  unfold RedisClient.getSession caught
  rw [outcome_tryCatch, sent]
  cases read : RedisClient.readSession floats (store.get (sessionKey sessionId)) with
  | ok value => rfl
  | error fault =>
    rw [readSession_error read]
    rfl

/-- Data that is answered is what is under the key, whatever fails. -/
theorem getSession_some {sessionId : String} {found : Value F}
    (answered : ((RedisClient.getSession floats network sessionId).outcome store).1 =
      .ok (some found)) :
    RedisClient.readSession floats (store.get (sessionKey sessionId)) = .ok (some found) := by
  unfold RedisClient.getSession caught at answered
  rw [outcome_tryCatch] at answered
  split at answered
  next answer later done =>
    obtain ⟨_, first, connected, reads⟩ := bind_ok done
    obtain ⟨text, second, got, read⟩ := bind_ok reads
    rw [getCommand, outcome_get_bind] at got
    obtain ⟨_, third, sent, last⟩ := bind_ok got
    have start : first = store := command_ok connected
    have same : first.get (sessionKey sessionId) = text := Except.ok.inj (Prod.mk.inj last).1
    rw [outcome_liftExcept] at read
    rw [← start, same, (Prod.mk.inj read).1]
    exact answered
  next fault later raised =>
    cases fault <;> cases answered

end Calls

/-- What was last left under a key. -/
def written (key : String) (past : List (Entry Strings (Move F) (Answered F))) :
    Option (Item Text) :=
  ((latest (fun entry => (leaves floats encode key entry).isSome) past).bind
    (leaves floats encode key)).join

/-- The data of the session that was last opened, until it expires or is deleted. -/
def kept (sessionId : String) (clock : Nat)
    (past : List (Entry Strings (Move F) (Answered F))) : Option (List (List Nat × Value F)) :=
  (latest (fun entry => (leaves floats encode (sessionKey sessionId) entry).isSome) past).bind
    fun record =>
      match record.input with
      | .called _ (.createSession _ data ttl) =>
          if ttl.all fun seconds => clock ≤ record.before.clock + 1000 * seconds.toNat then
            some data
          else none
      | _ => none

/-- A session that is found holds what it was last opened with, and if nothing fails it is found
exactly until it expires or is deleted. -/
def Kept (past : List (Entry Strings (Move F) (Answered F)))
    (entry : Entry Strings (Move F) (Answered F)) : Prop :=
  ∀ network sessionId, entry.input = .called network (.getSession sessionId) →
    (network = .up → entry.output = some (.ok (.value
      ((kept floats encode sessionId entry.before.clock past).map .dict)))) ∧
    ∀ found, entry.output = some (.ok (.value (some found))) →
      (kept floats encode sessionId entry.before.clock past).map .dict = some found

section Runs

variable {floats encode} {past : List (Entry Strings (Move F) (Answered F))}

theorem items_eq_written {key : String} {now : Strings}
    (held : LastWritten (leaves floats encode key) (fun store : Strings => store.items key) none
      past now) : now.items key = written floats encode key past := by
  unfold LastWritten at held
  unfold written
  split at held
  next record found =>
    rw [found, Option.bind_some, held]
    rfl
  next absent =>
    rw [absent]
    exact held

theorem step_written {move : Move F} {now after : Strings} {output : Answered F} {key : String}
    (held : LastWritten (leaves floats encode key) (fun store : Strings => store.items key) none
      past now)
    (accepted : step floats encode move now = .ok (after, output)) :
    LastWritten (leaves floats encode key) (fun store : Strings => store.items key) none
      (past ++ [⟨now, move, output, after⟩]) after := by
  apply held.snoc ⟨now, move, output, after⟩
  cases move with
  | waited milliseconds =>
    cases accepted
    rfl
  | called network call =>
    cases accepted
    exact items_after_call call key

variable (floats encode) in
/-- The entry answers a session with what was last left under its key. -/
def Answers (past : List (Entry Strings (Move F) (Answered F)))
    (entry : Entry Strings (Move F) (Answered F)) : Prop :=
  ∀ network sessionId, entry.input = .called network (.getSession sessionId) →
    (network = .up → entry.output = some ((RedisClient.readSession floats
      (((written floats encode (sessionKey sessionId) past).filter
        (Item.alive entry.before.clock)).map Item.value)).map .value)) ∧
    ∀ found, entry.output = some (.ok (.value (some found))) →
      RedisClient.readSession floats (((written floats encode (sessionKey sessionId) past).filter
        (Item.alive entry.before.clock)).map Item.value) = .ok (some found)

theorem step_answers {move : Move F} {now after : Strings} {output : Answered F}
    (held : ∀ key, LastWritten (leaves floats encode key) (fun store : Strings => store.items key)
      none past now)
    (accepted : step floats encode move now = .ok (after, output)) :
    Answers floats encode past ⟨now, move, output, after⟩ := by
  intro network sessionId called
  have found := items_eq_written (held (sessionKey sessionId))
  dsimp only at called ⊢
  subst called
  rw [← found]
  show (_ → _ = some ((RedisClient.readSession floats (now.get (sessionKey sessionId))).map _)) ∧
    ∀ found, _ → RedisClient.readSession floats (now.get (sessionKey sessionId)) = _
  have answer : output = some ((Call.make floats encode network (.getSession sessionId)).outcome
      now).1 := by
    cases accepted
    rfl
  rw [answer, Call.make, outcome_bind]
  cases ended : (RedisClient.getSession floats network sessionId).outcome now with
  | mk result later =>
    have first : ((RedisClient.getSession floats network sessionId).outcome now).1 = result := by
      rw [ended]
    constructor
    · rintro rfl
      rw [getSession_up] at first
      rw [first]
      cases result <;> rfl
    · intro found same
      cases result with
      | error fault => cases same
      | ok value =>
        cases same
        exact getSession_some first

variable (floats) in
/-- What is opened can be written as JSON, and nothing else is set under a session's key. -/
def Plain : Move F → Prop
  | .called _ (.createSession _ data _) => (Value.dict data).Representable floats
  | .called _ (.set key _ _) => ∀ sessionId, key ≠ sessionKey sessionId
  | _ => True

theorem readSession_written (lawful : floats.Lawful) (sessionId : String) (clock : Nat)
    (plain : ∀ entry ∈ past, Plain floats entry.input) :
    RedisClient.readSession floats (((written floats encode (sessionKey sessionId) past).filter
      (Item.alive clock)).map Item.value) =
      .ok ((kept floats encode sessionId clock past).map .dict) := by
  unfold written kept
  cases found : latest (fun entry =>
      (leaves floats encode (sessionKey sessionId) entry).isSome) past with
  | none => rfl
  | some record =>
    have plain := plain record (List.mem_reverse.mp (List.mem_of_find?_eq_some found))
    have left := (latest_split found).1
    rw [Option.bind_some, Option.bind_some]
    unfold leaves at left ⊢
    obtain ⟨before, move, output, later⟩ := record
    dsimp only at plain left ⊢
    cases move with
    | waited milliseconds => cases left
    | called network call =>
      unfold Call.leaves at left ⊢
      dsimp only at left ⊢
      split at left
      next reached =>
        rw [if_pos reached]
        cases call with
        | get other => cases left
        | getJson other => cases left
        | exists_ other => cases left
        | getSession other => cases left
        | delete other =>
          dsimp only at left ⊢
          split at left
          next same => rw [if_pos same]; rfl
          next => cases left
        | deleteSession other =>
          dsimp only at left ⊢
          split at left
          next same => rw [if_pos same]; rfl
          next => cases left
        | set other value ttl =>
          dsimp only at left
          have apart := plain sessionId
          split at left
          · simp [apart] at left
          · cases left
        | createSession other data ttl =>
          dsimp only at left ⊢
          split at left
          next same =>
            have back := loads_dumps .default lawful Separators.default_plain (.dict data) plain
            have alive : Item.alive clock
                (item before.clock ((Value.dict data).dumps floats .default) ttl) =
                ttl.all fun seconds =>
                  decide (clock ≤ before.clock + 1000 * seconds.toNat) := by
              cases ttl <;> rfl
            rw [if_pos same, Option.join_some, Option.filter_some, alive]
            split
            · show RedisClient.readSession floats
                (some ((Value.dict data).dumps floats .default)) = _
              rw [RedisClient.readSession, back]
              rfl
            · rfl
          next => cases left
      next => cases left

end Runs

/-- The second client is told that its session could not be opened. -/
def replaced : List (Move Text) :=
  [.called .up (.createSession "one" [("user".toList.map Char.toNat, .int 1)] (some 60)),
    .called ⟨.returned, .raised (.redis "Timeout reading from socket") true⟩
      (.createSession "one" [("user".toList.map Char.toNat, .int 2)] (some 30)),
    .waited 30000, .called .up (.getSession "one"), .waited 1, .called .up (.getSession "one")]

end BigX.Infra.Sessions
