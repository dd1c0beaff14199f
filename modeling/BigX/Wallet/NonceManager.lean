import BigX.Run.Trace
import Mathlib.Logic.Function.Basic

set_option autoImplicit false

/- The wallet service's nonces for one address, shared through a redis key. A manager lets
one call at a time in; the managers of other processes know nothing of its lock, so their
commands, `resync_from_chain` and the key's expiry come in between. -/
namespace BigX.Wallet

open Run

/-- The redis key, with whether it expires. -/
structure Key where
  value : Nat
  expires : Bool
  deriving DecidableEq

/-- `SET key value EX 3600` -/
def Key.set (value : Nat) : Option Key := some ⟨value, true⟩

/-- `INCR key`, which makes a missing key, one that does not expire. -/
def Key.incr (key : Option Key) : Key :=
  match key with
  | some key => { key with value := key.value + 1 }
  | none => ⟨1, false⟩

/-- What a `get_and_increment` that holds its manager's lock does next. -/
inductive Point
  | getting
  | counting
  | setting (onchainNonce : Nat)
  | incrementing (nonce : Nat)
  deriving DecidableEq

/-- The transaction count of the chain, the key, the call that each manager has under way,
the counts that resyncs have read, and the nonces that were handed out. -/
structure State where
  chain : Nat
  key : Option Key
  calls : Nat → Option Point
  resyncs : List Nat
  handed : List Nat

def State.begin_ (chain : Nat) (key : Option Key) : State := ⟨chain, key, fun _ => none, [], []⟩

/-- The chain counts another transaction, the key lapses, a manager lets a call in, the call's
next command succeeds or raises (`done` or not), or a resync reads and writes. -/
inductive Move
  | sent
  | lapsed
  | called (manager : Nat)
  | stepped (manager : Nat)
  | raised (manager : Nat) (done : Bool)
  | resyncRead
  | resyncSet (index : Nat)
  deriving DecidableEq

inductive Impossible
  | impossible

def State.put (state : State) (manager : Nat) (point : Option Point) : State :=
  { state with calls := Function.update state.calls manager point }

/-- `get_and_increment`, one command further. -/
def State.advance (state : State) (manager : Nat) : Point → State
  | .getting =>
      match state.key with
      | none => state.put manager (some .counting)
      | some cached => state.put manager (some (.incrementing cached.value))
  | .counting => state.put manager (some (.setting state.chain))
  | .setting onchainNonce =>
      { state with key := Key.set onchainNonce }.put manager (some (.incrementing onchainNonce))
  | .incrementing nonce =>
      { state with key := some (Key.incr state.key), handed := state.handed ++ [nonce] }.put
        manager none

/-- A command that raises ends the call, and may have been carried out. -/
def State.abort (state : State) (manager : Nat) (done : Bool) : Point → State
  | .getting => state.put manager none
  | .counting => state.put manager none
  | .setting onchainNonce =>
      { state with key := if done then Key.set onchainNonce else state.key }.put manager none
  | .incrementing _ =>
      { state with key := if done then some (Key.incr state.key) else state.key }.put manager none

def step (move : Move) (state : State) : Except Impossible (State × Unit) :=
  match move with
  | .sent => .ok ({ state with chain := state.chain + 1 }, ())
  | .lapsed =>
      match state.key with
      | some ⟨_, true⟩ => .ok ({ state with key := none }, ())
      | _ => .error .impossible
  | .called manager =>
      match state.calls manager with
      | none => .ok (state.put manager (some .getting), ())
      | some _ => .error .impossible
  | .stepped manager =>
      match state.calls manager with
      | none => .error .impossible
      | some point => .ok (state.advance manager point, ())
  | .raised manager done =>
      match state.calls manager with
      | none => .error .impossible
      | some point => .ok (state.abort manager done point, ())
  | .resyncRead => .ok ({ state with resyncs := state.resyncs ++ [state.chain] }, ())
  | .resyncSet index =>
      match state.resyncs[index]? with
      | none => .error .impossible
      | some onchainNonce =>
          .ok ({ state with
            key := Key.set onchainNonce
            resyncs := state.resyncs.eraseIdx index }, ())

abbrev history (start : State) (moves : List Move) : Trace State Move Unit :=
  run step start moves

/-- The call has read the key and has not incremented it yet. -/
def Point.inside (point : Point) : Bool := point ≠ .getting

/-- No manager has a call between its `GET` and its `INCR`. -/
def State.Quiet (state : State) : Prop :=
  ∀ manager point, state.calls manager = some point → point.inside = false

/-- Every nonce that was handed out is below `bound`. -/
def State.Below (state : State) (bound : Nat) : Prop := ∀ nonce ∈ state.handed, nonce < bound

/-- From its `GET` to its `INCR` a call has the key to itself, and a count that goes into the
key is past every nonce that was handed out. -/
def undisturbed (state : State) : Move → Prop
  | .stepped manager =>
      match state.calls manager with
      | some .getting => state.Quiet
      | some .counting => state.Below state.chain
      | _ => True
  | .lapsed => state.Quiet
  | .resyncSet index =>
      state.Quiet ∧ ∀ onchainNonce, state.resyncs[index]? = some onchainNonce →
        state.Below onchainNonce
  | _ => True

/-- One call at most is inside, and what it is about to write or hand out is past every nonce
that was handed out, as the key is. -/
structure Exclusive (state : State) : Prop where
  alone : ∀ first second point other, state.calls first = some point →
    state.calls second = some other → point.inside = true → other.inside = true → first = second
  ahead : ∀ key, state.key = some key → state.Below key.value
  setting : ∀ manager onchainNonce, state.calls manager = some (.setting onchainNonce) →
    state.Below onchainNonce
  incrementing : ∀ manager nonce, state.calls manager = some (.incrementing nonce) →
    ∃ expires, state.key = some ⟨nonce, expires⟩
  distinct : state.handed.Nodup

end BigX.Wallet
