import Mathlib.Logic.Function.Basic

set_option autoImplicit false

/- A server of keys that expire. Its clock is in milliseconds, and a key is there up to and
including the millisecond it expires at. -/
namespace BigX.Redis

variable {κ ν : Type}

/-- What is under a key, and when the key expires. -/
structure Item (ν : Type) where
  value : ν
  expiresAt : Option Nat
  deriving DecidableEq

def Item.alive (clock : Nat) (item : Item ν) : Bool :=
  item.expiresAt.all fun expiresAt => clock ≤ expiresAt

/-- An item stays in `items` after it has expired, where no command sees it. -/
structure Store (κ ν : Type) where
  clock : Nat
  items : κ → Option (Item ν)

namespace Store

def empty (clock : Nat) : Store κ ν := ⟨clock, fun _ => none⟩

/-- The item that the commands find under `key`. -/
def lookup (store : Store κ ν) (key : κ) : Option (Item ν) :=
  (store.items key).filter (Item.alive store.clock)

/-- When the item under `key` expires. -/
def expiry (store : Store κ ν) (key : κ) : Option Nat :=
  (store.lookup key).bind Item.expiresAt

/-- `GET` -/
def get (store : Store κ ν) (key : κ) : Option ν := (store.lookup key).map Item.value

def pass (milliseconds : Nat) (store : Store κ ν) : Store κ ν :=
  { store with clock := store.clock + milliseconds }

@[simp] theorem pass_clock (store : Store κ ν) (milliseconds : Nat) :
    (store.pass milliseconds).clock = store.clock + milliseconds := rfl

/-- What is found has not expired. -/
theorem lookup_alive {store : Store κ ν} {key : κ} {item : Item ν}
    (found : store.lookup key = some item) : item.alive store.clock = true :=
  (Option.filter_eq_some_iff.mp found).2

/-- Time only takes keys away. -/
theorem lookup_of_lookup_pass {store : Store κ ν} {milliseconds : Nat} {key : κ} {item : Item ν}
    (found : (store.pass milliseconds).lookup key = some item) :
    store.lookup key = some item := by
  obtain ⟨kept, alive⟩ := Option.filter_eq_some_iff.mp found
  apply Option.filter_eq_some_iff.mpr
  refine ⟨kept, ?_⟩
  simp only [Item.alive, Option.all_eq_true, decide_eq_true_eq] at alive ⊢
  intro expiresAt same
  have later : store.clock + milliseconds ≤ expiresAt := alive expiresAt same
  omega

/-- A key that does not expire before then is still there. -/
theorem lookup_pass_of_lookup {store : Store κ ν} {milliseconds : Nat} {key : κ} {item : Item ν}
    (found : store.lookup key = some item)
    (early : item.alive (store.clock + milliseconds) = true) :
    (store.pass milliseconds).lookup key = some item := by
  apply Option.filter_eq_some_iff.mpr
  exact ⟨(Option.filter_eq_some_iff.mp found).1, early⟩

/-- The key is as it was, or it has expired. -/
theorem lookup_pass (store : Store κ ν) (key : κ) (milliseconds : Nat) :
    (store.pass milliseconds).lookup key = store.lookup key ∨
      (store.pass milliseconds).lookup key = none ∧
        ∃ expiresAt, store.expiry key = some expiresAt ∧
          expiresAt < store.clock + milliseconds := by
  cases found : store.lookup key with
  | none =>
    left
    cases passing : (store.pass milliseconds).lookup key with
    | none => rfl
    | some item =>
      rw [lookup_of_lookup_pass passing] at found
      cases found
  | some item =>
    by_cases alive : item.alive (store.clock + milliseconds) = true
    · left
      exact lookup_pass_of_lookup found alive
    · right
      constructor
      · cases passing : (store.pass milliseconds).lookup key with
        | none => rfl
        | some other =>
          have same := lookup_of_lookup_pass passing
          rw [found] at same
          cases same
          exact absurd (lookup_alive passing) alive
      · rw [expiry, found, Option.bind_some]
        cases expires : item.expiresAt with
        | none => simp [Item.alive, expires] at alive
        | some expiresAt =>
          refine ⟨expiresAt, rfl, ?_⟩
          simpa [Item.alive, expires] using alive

variable [DecidableEq κ]

def write (key : κ) (item : Option (Item ν)) (store : Store κ ν) : Store κ ν :=
  { store with items := Function.update store.items key item }

/-- A command that changes a value, or makes one that does not expire. -/
def put (key : κ) (value : ν) (store : Store κ ν) : Store κ ν :=
  store.write key (some ⟨value, store.expiry key⟩)

/-- `DEL` -/
def delete (key : κ) (store : Store κ ν) : Store κ ν := store.write key none

/-- `EXPIRE`, which deletes the key where no time is left. -/
def expire (key : κ) (seconds : Int) (store : Store κ ν) : Store κ ν :=
  match store.lookup key with
  | none => store
  | some item =>
      if seconds ≤ 0 then store.delete key
      else store.write key
        (some { item with expiresAt := some (store.clock + 1000 * seconds.toNat) })

@[simp] theorem put_clock (store : Store κ ν) (key : κ) (value : ν) :
    (store.put key value).clock = store.clock := rfl

@[simp] theorem expire_clock (store : Store κ ν) (key : κ) (seconds : Int) :
    (store.expire key seconds).clock = store.clock := by
  unfold expire
  split
  · rfl
  · split <;> rfl

theorem lookup_write_self (store : Store κ ν) (key : κ) (item : Option (Item ν)) :
    (store.write key item).lookup key = item.filter (Item.alive store.clock) := by
  simp only [lookup, write, Function.update_self]

theorem lookup_write_of_ne (store : Store κ ν) {key other : κ} (item : Option (Item ν))
    (differ : other ≠ key) : (store.write key item).lookup other = store.lookup other := by
  simp only [lookup, write, Function.update_of_ne differ]

theorem lookup_delete_self (store : Store κ ν) (key : κ) :
    (store.delete key).lookup key = none := by
  simp only [delete, lookup_write_self, Option.filter_none]

theorem lookup_put_self (store : Store κ ν) (key : κ) (value : ν) :
    (store.put key value).lookup key = some ⟨value, store.expiry key⟩ := by
  rw [put, lookup_write_self]
  apply Option.filter_eq_some_iff.mpr
  refine ⟨rfl, ?_⟩
  unfold expiry
  cases found : store.lookup key with
  | none => rfl
  | some item =>
    have alive := lookup_alive found
    exact alive

theorem get_put_self (store : Store κ ν) (key : κ) (value : ν) :
    (store.put key value).get key = some value := by
  rw [get, lookup_put_self, Option.map_some]

theorem expiry_put_self (store : Store κ ν) (key : κ) (value : ν) :
    (store.put key value).expiry key = store.expiry key := by
  rw [expiry, lookup_put_self, Option.bind_some]

theorem expiry_delete_self (store : Store κ ν) (key : κ) :
    (store.delete key).expiry key = none := by
  rw [expiry, lookup_delete_self, Option.bind_none]

theorem get_delete_self (store : Store κ ν) (key : κ) : (store.delete key).get key = none := by
  rw [get, lookup_delete_self, Option.map_none]

theorem lookup_put_of_ne (store : Store κ ν) {key other : κ} (value : ν)
    (differ : other ≠ key) : (store.put key value).lookup other = store.lookup other :=
  lookup_write_of_ne store _ differ

theorem lookup_expire_of_ne (store : Store κ ν) {key other : κ} (seconds : Int)
    (differ : other ≠ key) : (store.expire key seconds).lookup other = store.lookup other := by
  unfold expire
  split
  · rfl
  · split
    · exact lookup_write_of_ne store _ differ
    · exact lookup_write_of_ne store _ differ

theorem lookup_expire_nonpos (store : Store κ ν) (key : κ) {seconds : Int}
    (past : seconds ≤ 0) : (store.expire key seconds).lookup key = none := by
  unfold expire
  cases found : store.lookup key with
  | none => exact found
  | some item =>
    simp only [past, if_true]
    exact lookup_delete_self store key

/-- An expiry in the future leaves the value as it is. -/
theorem lookup_expire_self (store : Store κ ν) (key : κ) {seconds : Int}
    (positive : 0 < seconds) :
    (store.expire key seconds).lookup key = (store.lookup key).map fun item =>
      { item with expiresAt := some (store.clock + 1000 * seconds.toNat) } := by
  unfold expire
  cases found : store.lookup key with
  | none => exact found
  | some item =>
    have later : ¬ seconds ≤ 0 := by omega
    simp only [later, if_false, lookup_write_self, Option.map_some]
    apply Option.filter_eq_some_iff.mpr
    simp [Item.alive]

end Store

end BigX.Redis
