import BigX.Redis.Store
import Mathlib.Data.List.Basic

set_option autoImplicit false

/- Sorted sets under the keys of a store: members that differ, each with a score. A set that
becomes empty takes its key along. -/
namespace BigX.Redis

variable {κ μ : Type}

structure SortedSet (μ : Type) where
  members : List (μ × Int)
  nodup : (members.map Prod.fst).Nodup

namespace SortedSet

def empty : SortedSet μ := ⟨[], List.nodup_nil⟩

/-- The members that `keep`. -/
def filter (keep : μ × Int → Bool) (set : SortedSet μ) : SortedSet μ :=
  ⟨set.members.filter keep, set.nodup.sublist (List.filter_sublist.map Prod.fst)⟩

variable [DecidableEq μ]

/-- A member that is there already gets the new score. -/
def add (member : μ) (score : Int) (set : SortedSet μ) : SortedSet μ :=
  ⟨(member, score) :: (set.filter fun other => other.1 ≠ member).members, by
    rw [List.map_cons, List.nodup_cons]
    refine ⟨?_, (set.filter _).nodup⟩
    intro present
    obtain ⟨other, kept, same⟩ := List.mem_map.mp present
    exact of_decide_eq_true (List.mem_filter.mp kept).2 same⟩

end SortedSet

namespace Store

variable [DecidableEq κ]

/-- What the commands find in the set under `key`. -/
def members (store : Store κ (SortedSet μ)) (key : κ) : List (μ × Int) :=
  ((store.get key).map SortedSet.members).getD []

/-- `ZREMRANGEBYSCORE` -/
def zremrangebyscore (key : κ) (low high : Int) (store : Store κ (SortedSet μ)) :
    Store κ (SortedSet μ) :=
  match store.get key with
  | none => store
  | some set =>
      let rest := set.filter fun member => ¬ (low ≤ member.2 ∧ member.2 ≤ high)
      if rest.members.isEmpty then store.delete key else store.put key rest

/-- `ZCARD` -/
def zcard (store : Store κ (SortedSet μ)) (key : κ) : Nat := (store.members key).length

@[simp] theorem zremrangebyscore_clock (store : Store κ (SortedSet μ)) (key : κ)
    (low high : Int) : (store.zremrangebyscore key low high).clock = store.clock := by
  unfold zremrangebyscore
  split
  · rfl
  · dsimp only
    split <;> rfl

theorem members_zremrangebyscore (store : Store κ (SortedSet μ)) (key : κ) (low high : Int) :
    (store.zremrangebyscore key low high).members key =
      (store.members key).filter fun member => ¬ (low ≤ member.2 ∧ member.2 ≤ high) := by
  unfold zremrangebyscore
  cases found : store.get key with
  | none => simp [members, found]
  | some set =>
    have before : store.members key = set.members := by simp [members, found]
    rw [before]
    dsimp only
    split
    · rename_i none_left
      have nothing := List.isEmpty_iff.mp none_left
      rw [members, get_delete_self]
      exact nothing.symm
    · rw [members, get_put_self]
      rfl

theorem expiry_of_zremrangebyscore {store : Store κ (SortedSet μ)} {key : κ} {low high : Int}
    {expiresAt : Nat}
    (expires : (store.zremrangebyscore key low high).expiry key = some expiresAt) :
    store.expiry key = some expiresAt := by
  unfold zremrangebyscore at expires
  split at expires
  · exact expires
  · dsimp only at expires
    split at expires
    · rw [expiry_delete_self] at expires
      cases expires
    · rw [expiry_put_self] at expires
      exact expires

variable [DecidableEq μ]

/-- `ZADD` of one member -/
def zadd (key : κ) (member : μ) (score : Int) (store : Store κ (SortedSet μ)) :
    Store κ (SortedSet μ) :=
  store.put key (((store.get key).getD SortedSet.empty).add member score)

theorem expiry_zadd (store : Store κ (SortedSet μ)) (key : κ) (member : μ) (score : Int) :
    (store.zadd key member score).expiry key = store.expiry key :=
  expiry_put_self store key _

theorem members_zadd (store : Store κ (SortedSet μ)) (key : κ) (member : μ) (score : Int) :
    (store.zadd key member score).members key =
      (member, score) :: (store.members key).filter fun other => other.1 ≠ member := by
  rw [members, zadd, get_put_self, Option.map_some, Option.getD_some, members]
  cases store.get key with
  | none => rfl
  | some set => rfl

end Store

end BigX.Redis
