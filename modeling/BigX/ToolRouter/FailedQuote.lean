import BigX.ToolRouter.BridgeTool
import BigX.ToolRouter.Decimals

set_option autoImplicit false

/- One `quote` of the bridge tool with everything that can fail on its way. The marker against
duplicates is set before a route is looked for, the row is written before it is queued, and
nothing is taken back. -/
namespace BigX.ToolRouter.FailedQuote

open Decimals (Env Written native)

variable {Tx : Type}

inductive Raised
  | valueError (text : String)
  | other (text : String)
  deriving DecidableEq

/-- What the claims of the caller's token say, `""` where they say nothing. -/
structure User where
  sub : String
  ip : String
  device : String
  deriving DecidableEq

/-- A request at one tool. `amount` is `int(amount * 10 ** decimals)`, which raises for a number
that is not finite, and `user` is missing where the token is refused. -/
structure Request where
  tool : Nat
  user : Option User
  token : String
  src : Int
  dst : Int
  amount : Nat → Except String Int
  toAddr : String
  isAddress : Bool
  maxSpend : Int

/-- A write that raises may have been applied. -/
inductive Write
  | returned
  | raised (error : String) (applied : Bool)
  deriving DecidableEq

/-- How the steps of a request end: those of `_decimals`, the read and the write of the marker,
the providers' answers and the comparisons of their fees, the oracle, the database's pool, the
insert, and the push to the queue. -/
structure Faults (Tx : Type) where
  decimalsGet : Bool
  decimalsRpc : Bool
  decimalsSetex : Written
  decimalsError : String
  get : Option String
  setex : Write
  answers : List (Option (String × Rat × Rat × Tx))
  compare : Option String
  oracle : Quote Tx → Except String Bool
  pool : Option String
  insert : Write
  rpush : Write

structure Row (Tx : Type) where
  id : String
  src : Int
  dst : Int
  token : String
  amount : Int
  toAddr : String
  provider : String
  status : Status
  quote : Quote Tx
  user : User

/-- The decimals that are cached, the markers and the queue in Redis, and the bridges. -/
structure Stores (Tx : Type) where
  decimals : Decimals.State
  markers : String → Bool
  rows : List (Row Tx)
  queue : List (Item Tx)

def Stores.mark (stores : Stores Tx) (key : String) : Stores Tx :=
  { stores with markers := Function.update stores.markers key true }

def Stores.insert (stores : Stores Tx) (row : Row Tx) : Stores Tx :=
  { stores with rows := stores.rows ++ [row] }

def Stores.push (stores : Stores Tx) (item : Item Tx) : Stores Tx :=
  { stores with queue := stores.queue ++ [item] }

/-- `quote`, up to the amount in the token's units. -/
def prepare (env : Env) (request : Request) (faults : Faults Tx) (stores : Stores Tx) :
    Stores Tx × Except Raised (User × Int) :=
  match request.user with
  | none => (stores, .error (.valueError "Invalid token"))
  | some user =>
      if env.connected request.src = false ∨ env.connected request.dst = false ∨
          request.isAddress = false then
        (stores, .error (.valueError "Invalid"))
      else
        match env.decimals ⟨request.tool, request.token, request.src, faults.decimalsGet,
            faults.decimalsRpc, faults.decimalsSetex⟩ stores.decimals with
        | (decimals, none) => ({ stores with decimals }, .error (.other faults.decimalsError))
        | (decimals, some dec) =>
            match request.amount dec with
            | .error error => ({ stores with decimals }, .error (.other error))
            | .ok amt =>
                if request.maxSpend ≠ 0 ∧ amt > request.maxSpend then
                  ({ stores with decimals }, .error (.valueError "Exceeds spend"))
                else ({ stores with decimals }, .ok (user, amt))

/-- The marker against duplicates, where there is Redis. -/
def claim (env : Env) (faults : Faults Tx) (key : String) (stores : Stores Tx) :
    Stores Tx × Except Raised Unit :=
  if env.redis then
    match faults.get with
    | some error => (stores, .error (.other error))
    | none =>
        if stores.markers key then (stores, .error (.valueError "Duplicate"))
        else
          match faults.setex with
          | .returned => (stores.mark key, .ok ())
          | .raised error applied =>
              (if applied then stores.mark key else stores, .error (.other error))
  else (stores, .ok ())

/-- The loop over the providers, and the oracle. -/
def route (faults : Faults Tx) : Except Raised (Quote Tx) :=
  match faults.compare with
  | some error => .error (.other error)
  | none =>
      match bestQuote faults.answers with
      | none => .error (.valueError "No route")
      | some best =>
          match faults.oracle best with
          | .error error => .error (.other error)
          | .ok false => .error (.valueError "Oracle mismatch")
          | .ok true => .ok best

/-- `_enqueue` -/
def enqueue (env : Env) (faults : Faults Tx) (item : Item Tx) (stores : Stores Tx) :
    Stores Tx × Except Raised Unit :=
  if env.redis then
    match faults.rpush with
    | .returned => (stores.push item, .ok ())
    | .raised error applied =>
        (if applied then stores.push item else stores, .error (.other error))
  else (stores, .ok ())

/-- The insert, and the queue. -/
def store (env : Env) (faults : Faults Tx) (row : Row Tx) (stores : Stores Tx) :
    Stores Tx × Except Raised Unit :=
  match faults.pool with
  | some error => (stores, .error (.other error))
  | none =>
      match faults.insert with
      | .raised error applied =>
          (if applied then stores.insert row else stores, .error (.other error))
      | .returned => enqueue env faults ⟨row.id, row.quote, 0⟩ (stores.insert row)

/-- The row of the bridge. -/
def Request.row (request : Request) (user : User) (amt : Int) (id : String) (best : Quote Tx) :
    Row Tx where
  id := id
  src := request.src
  dst := request.dst
  token := request.token
  amount := amt
  toAddr := request.toAddr
  provider := best.provider
  status := .queued
  quote := best
  user := user

/-- What follows the marker. -/
def finish (env : Env) (faults : Faults Tx) (row : Quote Tx → Row Tx) (stores : Stores Tx) :
    Stores Tx × Except Raised Unit :=
  match route faults with
  | .error raised => (stores, .error raised)
  | .ok best => store env faults (row best) stores

variable (idempotent : Int → Int → String → Int → String → String)

/-- `quote`, with the id that it draws. -/
def quote (env : Env) (request : Request) (faults : Faults Tx) (id : String)
    (stores : Stores Tx) : Stores Tx × Except Raised Unit :=
  match prepare env request faults stores with
  | (stores, .error raised) => (stores, .error raised)
  | (stores, .ok (user, amt)) =>
      let key := idempotent request.src request.dst request.token amt request.toAddr
      match claim env faults key stores with
      | (stores, .error raised) => (stores, .error raised)
      | (stores, .ok ()) => finish env faults (request.row user amt id) stores

/-- An error other than `Duplicate` leaves no marker, no bridge and no queue entry behind. -/
def Traceless (stores : Stores Tx) (result : Stores Tx × Except Raised Unit) : Prop :=
  ∀ raised, result.2 = .error raised → raised ≠ .valueError "Duplicate" →
    result.1.markers = stores.markers ∧ result.1.rows = stores.rows ∧
      result.1.queue = stores.queue

/-- Nothing fails after the marker. -/
structure Smooth (env : Env) (faults : Faults Tx) : Prop where
  routed : ∃ best, route faults = .ok best
  pool : faults.pool = none
  insert : faults.insert = .returned
  rpush : env.redis = true → faults.rpush = .returned

/-- With Redis, the request fails before its marker is set, or not at all; without, no insert
raises that was applied. -/
def FailsEarly (env : Env) (request : Request) (faults : Faults Tx) (stores : Stores Tx) : Prop :=
  ∀ user amt, (prepare env request faults stores).2 = .ok (user, amt) →
    (env.redis = true → faults.get = none →
      stores.markers (idempotent request.src request.dst request.token amt request.toAddr) = false →
      (∃ error, faults.setex = .raised error false) ∨
        faults.setex = .returned ∧ Smooth env faults) ∧
    (env.redis = false → (∃ best, route faults = .ok best) → faults.pool = none →
      ∀ error, faults.insert ≠ .raised error true)

section

variable {env : Env} {request : Request} {faults : Faults Tx} {id : String} {stores : Stores Tx}
variable {user : User} {amt : Int} {row : Quote Tx → Row Tx}

@[simp] theorem enqueue_markers (item : Item Tx) :
    (enqueue env faults item stores).1.markers = stores.markers := by
  unfold enqueue
  split
  · split
    · rfl
    · split <;> rfl
  · rfl

theorem enqueue_ok_iff (item : Item Tx) :
    (enqueue env faults item stores).2 = .ok () ↔ env.redis = true → faults.rpush = .returned := by
  unfold enqueue
  cases env.redis <;> cases faults.rpush <;> simp

theorem enqueue_not_duplicate (item : Item Tx) :
    (enqueue env faults item stores).2 ≠ .error (.valueError "Duplicate") := by
  unfold enqueue
  cases env.redis <;> cases faults.rpush <;> simp

@[simp] theorem store_markers (row : Row Tx) :
    (store env faults row stores).1.markers = stores.markers := by
  unfold store
  split
  · rfl
  · split
    · split <;> rfl
    · rw [enqueue_markers]
      rfl

theorem route_not_duplicate : route faults ≠ .error (.valueError "Duplicate") := by
  unfold route
  split
  · simp
  · split
    · simp
    · split <;> simp

/-- Nothing after the marker touches it. -/
@[simp] theorem finish_markers : (finish env faults row stores).1.markers = stores.markers := by
  unfold finish
  split
  · rfl
  · exact store_markers _

theorem finish_not_duplicate :
    (finish env faults row stores).2 ≠ .error (.valueError "Duplicate") := by
  unfold finish
  split
  next raised h =>
    intro same
    exact route_not_duplicate (h.trans (congrArg Except.error (Except.error.inj same)))
  next best h =>
    unfold store
    split
    · simp
    · split
      · simp
      · exact enqueue_not_duplicate _

theorem finish_ok_iff : (finish env faults row stores).2 = .ok () ↔ Smooth env faults := by
  unfold finish
  constructor
  · intro h
    split at h
    · cases h
    next best routed =>
      unfold store at h
      split at h
      · cases h
      next pool =>
        split at h
        · cases h
        next insert => exact ⟨⟨best, routed⟩, pool, insert, (enqueue_ok_iff _).mp h⟩
  · rintro ⟨⟨best, routed⟩, pool, insert, rpush⟩
    rw [routed]
    simp only [store, pool, insert]
    exact (enqueue_ok_iff _).mpr rpush

/-- Without Redis, an error leaves a bridge behind only where the insert raised. -/
theorem finish_traceless_iff (redis : env.redis = false) :
    Traceless stores (finish env faults row stores) ↔
      ((∃ best, route faults = .ok best) → faults.pool = none →
        ∀ error, faults.insert ≠ .raised error true) := by
  constructor
  · rintro h ⟨best, routed⟩ pool error insert
    have failed : finish env faults row stores =
        (stores.insert (row best), .error (.other error)) := by
      simp [finish, routed, store, pool, insert]
    rw [failed] at h
    have rows := (h _ rfl (by simp)).2.1
    simpa [Stores.insert] using congrArg List.length rows
  · intro h raised error _
    unfold finish at error ⊢
    split at error
    · exact ⟨rfl, rfl, rfl⟩
    next best routed =>
      unfold store at error ⊢
      split at error
      · exact ⟨rfl, rfl, rfl⟩
      next pool =>
        split at error
        next raisedBy applied insert =>
          cases applied with
          | false => exact ⟨rfl, rfl, rfl⟩
          | true => exact absurd insert (h ⟨best, routed⟩ pool raisedBy)
        next insert => simp [enqueue, redis] at error

/-- The marker is not there before it is set. -/
theorem mark_changes {key : String} (fresh : stores.markers key = false) :
    (stores.mark key).markers ≠ stores.markers := by
  intro same
  have := congrFun same key
  simp [Stores.mark, fresh] at this

/-- Validation writes to the decimals alone. -/
theorem prepare_frame (env : Env) (request : Request) (faults : Faults Tx) (stores : Stores Tx) :
    (prepare env request faults stores).1.markers = stores.markers ∧
      (prepare env request faults stores).1.rows = stores.rows ∧
      (prepare env request faults stores).1.queue = stores.queue := by
  unfold prepare
  split
  · exact ⟨rfl, rfl, rfl⟩
  · split
    · exact ⟨rfl, rfl, rfl⟩
    · split
      · exact ⟨rfl, rfl, rfl⟩
      · split
        · exact ⟨rfl, rfl, rfl⟩
        · split <;> exact ⟨rfl, rfl, rfl⟩

/-- What is left of a request that passed validation. -/
theorem quote_prepared (prepared : (prepare env request faults stores).2 = .ok (user, amt)) :
    quote idempotent env request faults id stores =
      match claim env faults
          (idempotent request.src request.dst request.token amt request.toAddr)
          (prepare env request faults stores).1 with
      | (stores, .error raised) => (stores, .error raised)
      | (stores, .ok ()) => finish env faults (request.row user amt id) stores := by
  unfold quote
  rw [← Prod.eta (prepare env request faults stores), prepared]

/-- A claim with Redis, at a marker that is not there. -/
theorem claim_fresh {key : String} (redis : env.redis = true) (read : faults.get = none)
    (fresh : stores.markers key = false) :
    claim env faults key stores =
      match faults.setex with
      | .returned => (stores.mark key, .ok ())
      | .raised error applied =>
          (if applied then stores.mark key else stores, .error (.other error)) := by
  simp [claim, redis, read, fresh]

/-- With Redis, at a marker that is not there and is read, nothing may fail once it is set. -/
theorem claimed_traceless_iff {key : String} (redis : env.redis = true)
    (read : faults.get = none) (fresh : stores.markers key = false) :
    Traceless stores
        (match claim env faults key stores with
          | (stores, .error raised) => (stores, .error raised)
          | (stores, .ok ()) => finish env faults row stores) ↔
      (∃ error, faults.setex = .raised error false) ∨
        faults.setex = .returned ∧ Smooth env faults := by
  rw [claim_fresh redis read fresh]
  cases setex : faults.setex with
  | returned =>
      simp only [reduceCtorEq, exists_false, false_or, true_and]
      constructor
      · intro h
        cases result : (finish env faults row (stores.mark key)).2 with
        | ok _ => exact finish_ok_iff.mp result
        | error raised =>
            have other : raised ≠ .valueError "Duplicate" := by
              rintro rfl
              exact finish_not_duplicate result
            have kept := (h raised result other).1
            rw [finish_markers] at kept
            exact absurd kept (mark_changes fresh)
      · intro smooth raised error
        rw [finish_ok_iff.mpr smooth] at error
        cases error
  | raised error applied =>
      cases applied with
      | false =>
          refine ⟨fun _ => .inl ⟨error, rfl⟩, fun _ => ?_⟩
          intro _ _ _
          exact ⟨rfl, rfl, rfl⟩
      | true =>
          constructor
          · intro h
            exact absurd (h _ rfl (by simp)).1 (mark_changes fresh)
          · rintro (⟨_, same⟩ | ⟨same, _⟩) <;> cases same

/-- The two cases of a request that passed validation, one for each way to run the tool. -/
theorem accepted_traceless_iff {key : String} :
    Traceless stores
        (match claim env faults key stores with
          | (stores, .error raised) => (stores, .error raised)
          | (stores, .ok ()) => finish env faults row stores) ↔
      (env.redis = true → faults.get = none → stores.markers key = false →
        (∃ error, faults.setex = .raised error false) ∨
          faults.setex = .returned ∧ Smooth env faults) ∧
      (env.redis = false → (∃ best, route faults = .ok best) → faults.pool = none →
        ∀ error, faults.insert ≠ .raised error true) := by
  cases redis : env.redis with
  | false =>
      rw [show claim env faults key stores = (stores, .ok ()) by simp [claim, redis]]
      simpa using finish_traceless_iff redis
  | true =>
      cases read : faults.get with
      | some error => simp [claim, redis, read, Traceless]
      | none =>
          cases present : stores.markers key with
          | true =>
              -- the request is answered with `Duplicate`, of which nothing is asked
              rw [show claim env faults key stores = (stores, .error (.valueError "Duplicate")) by
                simp [claim, redis, read, present]]
              simp [Traceless]
          | false => simpa using claimed_traceless_iff redis read present

end

/-- A failed quote leaves no trace iff it fails before its marker, or not at all. -/
theorem traceless_iff (env : Env) (request : Request) (faults : Faults Tx) (id : String)
    (stores : Stores Tx) :
    Traceless stores (quote idempotent env request faults id stores) ↔
      FailsEarly idempotent env request faults stores := by
  have frame : ∀ result : Stores Tx × Except Raised Unit,
      Traceless (prepare env request faults stores).1 result ↔ Traceless stores result := by
    obtain ⟨markers, rows, queue⟩ := prepare_frame env request faults stores
    simp [Traceless, markers, rows, queue]
  cases prepared : (prepare env request faults stores).2 with
  | error raised =>
      have failed : quote idempotent env request faults id stores =
          ((prepare env request faults stores).1, .error raised) := by
        unfold quote
        rw [← Prod.eta (prepare env request faults stores), prepared]
      rw [failed]
      simp [Traceless, FailsEarly, prepare_frame, prepared]
  | ok accepted =>
      obtain ⟨user, amt⟩ := accepted
      rw [quote_prepared idempotent prepared, ← frame, accepted_traceless_iff]
      simp [FailsEarly, prepared, prepare_frame]

section Sample

def start : Stores Unit := ⟨.empty, fun _ => false, [], []⟩

/-- One ether from Ethereum to another chain. -/
def oneEther : Request where
  tool := 0
  user := some ⟨"", "", ""⟩
  token := native
  src := 1
  dst := 56
  amount dec := .ok (10 ^ dec)
  toAddr := "0xd8dA6BF26964aF9D7eEd9e03E53415D37aA96045"
  isAddress := true
  maxSpend := 0

/-- A provider answers, and nothing fails. -/
def smooth : Faults Unit where
  decimalsGet := false
  decimalsRpc := true
  decimalsSetex := .returned
  decimalsError := ""
  get := none
  setex := .returned
  answers := [some ("socket", 1, 1, ())]
  compare := none
  oracle _ := .ok true
  pool := none
  insert := .returned
  rpush := .returned

def attempt (faults : Faults Unit) (stores : Stores Unit) : Stores Unit × Except Raised Unit :=
  quote (fun _ _ token _ toAddr => token ++ toAddr)
    ⟨true, fun chain => chain = 1 ∨ chain = 56, fun _ _ => none⟩ oneEther faults "b" stores

/-- No provider answers. -/
def noRoute : Faults Unit := { smooth with answers := [none] }

/-- A quote without a route fails, and the same request is a duplicate then. -/
theorem failed_quote_kept :
    (attempt noRoute start).2 = .error (.valueError "No route") ∧
      ¬ Traceless start (attempt noRoute start) ∧
      (attempt smooth (attempt noRoute start).1).2 = .error (.valueError "Duplicate") := by
  have failed : (attempt noRoute start).2 = .error (.valueError "No route") := by decide
  refine ⟨failed, ?_, by decide⟩
  intro traceless
  have kept := (traceless _ failed (by decide)).1
  have marked : (attempt noRoute start).1.markers (native ++ oneEther.toAddr) = true := by decide
  rw [kept] at marked
  cases marked

end Sample

end BigX.ToolRouter.FailedQuote
