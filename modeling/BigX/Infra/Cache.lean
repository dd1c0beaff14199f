import BigX.Json.RoundTrip
import BigX.Redis.Store
import BigX.Run.Session

set_option autoImplicit false

/- The cache of the redis client. A dict or a list is written as JSON and anything else as it is;
what is read is taken for JSON wherever it can be. -/
namespace BigX.Infra.Cache

open Json Redis Run Session

/-- `RedisError`, or an exception that is not one. -/
inductive Fault
  | redis (message : String)
  | other (message : String)
  deriving DecidableEq

/-- What is under the fields of a key. -/
abbrev Hash := String → Option Text

/-- How a command ends. One that raises has been carried out or not. -/
inductive Outcome
  | returned
  | raised (fault : Fault) (executed : Bool)

/-- How connecting ends, and each of the commands. -/
structure Network where
  connect : Outcome
  hset : Outcome
  expire : Outcome
  hget : Outcome

/-- Nothing fails. -/
def Network.up : Network := ⟨.returned, .returned, .returned, .returned⟩

abbrev Client := Session (Store String Hash) Fault

def command (ending : Outcome) (effect : Store String Hash → Store String Hash) : Client Unit :=
  match ending with
  | .returned => modify effect
  | .raised fault executed => do
    if executed then modify effect
    throw fault

theorem outcome_command_returned (effect : Store String Hash → Store String Hash)
    (store : Store String Hash) :
    outcome (command .returned effect) store = (.ok (), effect store) := rfl

theorem command_ok {ending : Outcome} {effect : Store String Hash → Store String Hash}
    {store after : Store String Hash} {value : Unit}
    (done : outcome (command ending effect) store = (.ok value, after)) :
    after = effect store := by
  cases ending with
  | returned => exact (Prod.mk.inj done).2.symm
  | raised fault executed => cases executed <;> cases (Prod.mk.inj done).1

/-- The effect of `HSET`. -/
def setField (key field : String) (text : Text) (store : Store String Hash) :
    Store String Hash :=
  store.put key (Function.update ((store.get key).getD fun _ => none) field (some text))

/-- The answer of `HGET`. -/
def fieldOf (key field : String) (store : Store String Hash) : Option Text :=
  (store.get key).bind fun hash => hash field

section Calls

variable {F : Type} (floats : Floats F) (encode : Value F → Except Fault Text)

/-- What the client is given to send. -/
def payload (value : Value F) : Value F :=
  match value with
  | .dict members => .string (((Value.dict members).dumps floats .default).map Char.toNat)
  | .list items => .string (((Value.list items).dumps floats .default).map Char.toNat)
  | value => value

/-- `encode` is how the client makes a value into text that it sends. -/
def cacheSet (network : Network) (key field : String) (value : Value F) (ttl : Option Int) :
    Client Bool :=
  tryCatch
    (do
      command network.connect id
      let text ← liftExcept (encode (payload floats value))
      command network.hset (setField key field text)
      if let some seconds := ttl.filter (· ≠ 0) then
        command network.expire (Store.expire key seconds)
      return true)
    fun fault =>
      match fault with
      | .redis _ => return false
      | .other _ => throw fault

def cacheGet (network : Network) (key field : String) : Client (Value F) :=
  tryCatch
    (do
      command network.connect id
      let store ← get
      command network.hget id
      match fieldOf key field store with
      | none => return .null
      | some text =>
        match loads floats text with
        | some value => return value
        | none => return .string (text.map Char.toNat))
    fun fault =>
      match fault with
      | .redis _ => return .null
      | .other _ => throw fault

/-- The server after a value has been stored as `text`. -/
def written (key field : String) (text : Text) (ttl : Option Int) (store : Store String Hash) :
    Store String Hash :=
  match ttl.filter (· ≠ 0) with
  | some seconds => (setField key field text store).expire key seconds
  | none => setField key field text store

/-- When a key expires whose field is set with this time to live. Without one its expiry stays. -/
def expiresAt (key : String) (ttl : Option Int) (store : Store String Hash) : Option Int :=
  match ttl.filter (· ≠ 0) with
  | some seconds => some (store.clock + 1000 * seconds)
  | none => (store.expiry key).map Nat.cast

variable {floats encode} {network : Network} {key field : String} {value : Value F}
variable {ttl : Option Int} {store : Store String Hash}

/-- Where the call answers that it has stored the value, each of its commands was carried out. -/
theorem cacheSet_true
    (stored : ((cacheSet floats encode network key field value ttl).outcome store).1 =
      .ok true) :
    ∃ text, encode (payload floats value) = .ok text ∧
      ((cacheSet floats encode network key field value ttl).outcome store).2 =
        written key field text ttl store := by
  unfold cacheSet at stored ⊢
  rw [outcome_tryCatch] at stored ⊢
  split at stored
  next answer after done =>
    obtain ⟨_, first, connected, encodes⟩ := bind_ok done
    obtain ⟨text, second, encoded, sets⟩ := bind_ok encodes
    obtain ⟨_, third, set, expires⟩ := bind_ok sets
    rw [outcome_liftExcept] at encoded
    have start : first = store := command_ok connected
    have kept : first = second := (Prod.mk.inj encoded).2
    have put : third = setField key field text second := command_ok set
    rw [← kept, start] at put
    refine ⟨text, (Prod.mk.inj encoded).1, ?_⟩
    unfold written
    dsimp only at expires ⊢
    split at expires
    next seconds timed =>
      obtain ⟨_, fourth, expired, last⟩ := bind_ok expires
      have timed' : fourth = Store.expire key seconds third := command_ok expired
      rw [timed, ← put]
      dsimp only
      rw [← timed']
      exact (Prod.mk.inj last).2.symm
    next untimed =>
      cases filtered : ttl.filter (· ≠ 0) with
      | some seconds => exact (untimed seconds filtered).elim
      | none =>
        rw [← put]
        exact (Prod.mk.inj expires).2.symm
  next fault after raised =>
    cases fault with
    | redis message => cases stored
    | other message => cases stored

/-- Until the key expires the field holds what it was set to. -/
theorem fieldOf_written (text : Text) {milliseconds : Nat}
    (early : ∀ expiry, expiresAt key ttl store = some expiry →
      (store.clock + milliseconds : Int) ≤ expiry) :
    fieldOf key field ((written key field text ttl store).pass milliseconds) = some text := by
  have put : (setField key field text store).lookup key = some ⟨_, store.expiry key⟩ :=
    store.lookup_put_self key _
  have clock : (setField key field text store).clock = store.clock := Store.put_clock _ _ _
  unfold expiresAt at early
  unfold written fieldOf Store.get
  cases filtered : ttl.filter (· ≠ 0) with
  | none =>
    rw [filtered] at early
    have alive : Redis.Item.alive (store.clock + milliseconds)
        (⟨Function.update ((store.get key).getD fun _ => none) field (some text),
          store.expiry key⟩ : Item Hash) = true := by
      simp only [Item.alive, Option.all_eq_true, decide_eq_true_eq]
      intro expiry same
      have bound := early expiry (by rw [same]; rfl)
      omega
    rw [← clock] at alive
    dsimp only
    rw [Store.lookup_pass_of_lookup put alive]
    exact Function.update_self field _ _
  | some seconds =>
    rw [filtered] at early
    have bound := early _ rfl
    have nonzero : seconds ≠ 0 := by
      have kept := (Option.filter_eq_some_iff.mp filtered).2
      simpa using kept
    have timed := (setField key field text store).lookup_expire_self key
      (show 0 < seconds by omega)
    rw [put, Option.map_some] at timed
    dsimp only
    rw [Store.lookup_pass_of_lookup timed]
    · exact Function.update_self field _ _
    · simp only [Item.alive, Option.all_some, decide_eq_true_eq, Store.expire_clock, clock]
      omega

/-- What is read is the value of the text if it is JSON, and otherwise the text. -/
theorem cacheGet_found {text : Text} (found : fieldOf key field store = some text) :
    ((cacheGet floats .up key field).outcome store).1 =
      .ok ((loads floats text).getD (.string (text.map Char.toNat))) := by
  unfold cacheGet
  rw [outcome_tryCatch, outcome_bind]
  simp only [Network.up, outcome_command_returned, id]
  rw [outcome_bind, outcome_get]
  dsimp only
  rw [outcome_bind, outcome_command_returned]
  dsimp only [id]
  rw [found]
  dsimp only
  cases loads floats text with
  | none => rfl
  | some value => rfl

/-- The kinds of values that are cached. -/
def Cacheable : Value F → Prop
  | .string _ | .int _ | .bool _ | .dict _ | .list _ => True
  | .null | .float _ => False

/-- What the client's documentation says of sending: a string goes out as its characters and an
integer as its digits, and a boolean is refused. -/
structure Documented (encode : Value F → Except Fault Text) : Prop where
  string : ∀ points text, encode (.string points) = .ok text → text.map Char.toNat = points
  int : ∀ number text, encode (.int number) = .ok text → text = number.repr.toList
  bool : ∀ bool text, encode (.bool bool) ≠ .ok text

variable (floats) in
/-- A string that can be taken for JSON. -/
def ReadsAsJson (value : Value F) : Prop :=
  ∃ text : Text, value = .string (text.map Char.toNat) ∧ (loads floats text).isSome

/-- A value comes back if it is JSON, or if its text is not. -/
theorem loads_payload (documented : Documented encode) (lawful : floats.Lawful)
    (cacheable : Cacheable value) (representable : value.Representable floats) {text : Text}
    (encoded : encode (payload floats value) = .ok text) :
    (loads floats text).getD (.string (text.map Char.toNat)) = value ↔
      ¬ ReadsAsJson floats value := by
  have dumped : ∀ written : Text,
      encode (.string (written.map Char.toNat)) = .ok text → text = written := by
    intro written sent
    exact points_injective (documented.string _ _ sent)
  have back : text = value.dumps floats .default → (loads floats text).getD
      (.string (text.map Char.toNat)) = value := by
    intro same
    rw [same, loads_dumps .default lawful Separators.default_plain value representable]
    rfl
  have other (unlike : ∀ points, value ≠ .string points) : ¬ ReadsAsJson floats value := by
    rintro ⟨points, same, _⟩
    exact unlike _ same
  cases value with
  | null => exact cacheable.elim
  | float number => exact cacheable.elim
  | bool bool => exact (documented.bool bool text encoded).elim
  | int number =>
    have written : text = (Value.int number).dumps floats .default := by
      rw [documented.int number text encoded, Value.dumps]
    exact iff_of_true (back written) (other fun _ same => by cases same)
  | dict members => exact iff_of_true (back (dumped _ encoded)) (other fun _ same => by cases same)
  | list items => exact iff_of_true (back (dumped _ encoded)) (other fun _ same => by cases same)
  | string points =>
    have same : text.map Char.toNat = points := documented.string points text encoded
    constructor
    · rintro came ⟨other, written, json⟩
      have equal : other.map Char.toNat = text.map Char.toNat := by
        rw [same]
        exact (Value.string.inj written).symm
      rw [points_injective equal] at json
      obtain ⟨read, found⟩ := Option.isSome_iff_exists.mp json
      rw [found, Option.getD_some] at came
      rw [came] at found
      -- a string is shorter than the text that it is read from
      have shorter := loads_string_shorter found
      rw [← same, List.length_map] at shorter
      omega
    · intro plain
      cases found : loads floats text with
      | some read => exact (plain ⟨text, by rw [same], by rw [found]; rfl⟩).elim
      | none => rw [Option.getD_none, same]

/-- A stored value is read back, until its key expires, if and only if it is not a string that
can be taken for JSON. -/
theorem cacheGet_cacheSet (documented : Documented encode) (lawful : floats.Lawful)
    (cacheable : Cacheable value) (representable : value.Representable floats)
    (stored : ((cacheSet floats encode network key field value ttl).outcome store).1 = .ok true)
    {milliseconds : Nat}
    (early : ∀ expiry, expiresAt key ttl store = some expiry →
      (store.clock + milliseconds : Int) ≤ expiry) :
    ((cacheGet floats .up key field).outcome
      (((cacheSet floats encode network key field value ttl).outcome store).2.pass
        milliseconds)).1 = .ok value ↔ ¬ ReadsAsJson floats value := by
  obtain ⟨text, encoded, after⟩ := cacheSet_true stored
  rw [after, cacheGet_found (fieldOf_written text early)]
  have payload := loads_payload documented lawful cacheable representable encoded
  rw [← payload]
  constructor
  · intro same
    exact Except.ok.inj same
  · intro same
    rw [same]

end Calls

/-- A client that takes texts and integers. -/
def sent : Value Text → Except Fault Text
  | .string points =>
    if ∀ point ∈ points, point.isValidChar then .ok (points.map Char.ofNat)
    else .error (.other "surrogates not allowed")
  | .int number => .ok number.repr.toList
  | .bool _ => .error (.redis "Invalid input of type: 'bool'.")
  | _ => .error (.redis "Invalid input of type")

theorem sent_documented : Documented sent where
  string := by
    intro points text ok
    rw [sent] at ok
    split at ok
    next valid =>
      rw [← Except.ok.inj ok]
      exact map_ofNat valid
    next => cases ok
  int := fun number text ok => (Except.ok.inj ok).symm
  bool := nofun

theorem cacheGet_cacheSet_price :
    ((cacheGet Floats.literal .up "price" "ethereum:ETH").outcome
      (((cacheSet Floats.literal sent .up "price" "ethereum:ETH"
        (.dict [("price".toList.map Char.toNat, .int 3500)]) (some 60)).outcome
          (.empty 1000)).2.pass 59000)).1 =
      .ok (.dict [("price".toList.map Char.toNat, .int 3500)]) ↔
    ¬ ReadsAsJson Floats.literal (.dict [("price".toList.map Char.toNat, .int 3500)]) :=
  cacheGet_cacheSet sent_documented Floats.literal_lawful (by exact trivial)
    (by exact ⟨by decide, encodable_text _, trivial, trivial⟩) rfl
    (by intro expiry same; cases same; decide)

/-- A string of digits comes back as a number. -/
theorem cacheGet_digits :
    ((cacheSet Floats.literal sent .up "key" "field" (.string ("123".toList.map Char.toNat))
      none).outcome (.empty 0)).1 = .ok true ∧
    ((cacheGet Floats.literal .up "key" "field").outcome
      ((cacheSet Floats.literal sent .up "key" "field" (.string ("123".toList.map Char.toNat))
        none).outcome (.empty 0)).2).1 = .ok (.int 123) :=
  ⟨rfl, rfl⟩

end BigX.Infra.Cache
