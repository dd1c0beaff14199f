import Mathlib.Data.Finset.Card
import Mathlib.Data.List.Nodup

set_option autoImplicit false

/- A cache of bounded size that drops the key whose last use lies furthest back, and which keys
it holds: those since whose last use fewer other keys have been used than it has room for. -/
namespace BigX.Run

variable {κ ν : Type} [DecidableEq κ]

/-- The keys that have been used, the latest use first, each once. `uses` begins with the
latest as well. -/
def recency : (uses : List κ) → List κ
  | [] => []
  | key :: earlier => key :: (recency earlier).erase key

theorem recency_nodup (uses : List κ) : (recency uses).Nodup := by
  induction uses with
  | nil => exact List.nodup_nil
  | cons key earlier ih =>
    apply List.nodup_cons.mpr
    exact ⟨ih.not_mem_erase, ih.erase key⟩

theorem mem_recency {uses : List κ} {key : κ} : key ∈ recency uses ↔ key ∈ uses := by
  induction uses with
  | nil => exact Iff.rfl
  | cons used earlier ih =>
    rw [recency, List.mem_cons, List.mem_cons]
    by_cases same : key = used
    · simp [same]
    · rw [List.mem_erase_of_ne same, ih]

/-- What stands before a key in a list is not changed by taking out another key behind it. -/
theorem takeWhile_erase {key other : κ} (different : other ≠ key) (keys : List κ) :
    (keys.erase other).takeWhile (fun used => used ≠ key) =
      (keys.takeWhile fun used => used ≠ key).erase other := by
  induction keys with
  | nil => rfl
  | cons first rest ih =>
    by_cases here : first = other
    · subst here
      simp [different]
    · have apart : ¬ (first == other) = true := by simpa using here
      rw [List.erase_cons_tail apart]
      by_cases stops : first = key
      · simp [stops]
      · simp only [List.takeWhile_cons, stops, ne_eq, not_false_eq_true, decide_true, if_true]
        rw [List.erase_cons_tail apart, ih]

/-- The keys used since the last use of one. -/
theorem recency_takeWhile (key : κ) (uses : List κ) :
    (recency uses).takeWhile (fun used => used ≠ key) =
      recency (uses.takeWhile fun used => used ≠ key) := by
  induction uses with
  | nil => rfl
  | cons used earlier ih =>
    by_cases same : used = key
    · simp [recency, same]
    · simp only [recency, List.takeWhile_cons, same, ne_eq, not_false_eq_true, decide_true,
        if_true]
      rw [takeWhile_erase same, ih]

theorem length_recency (uses : List κ) : (recency uses).length = uses.toFinset.card := by
  rw [← List.toFinset_card_of_nodup (recency_nodup uses)]
  congr 1
  ext key
  rw [List.mem_toFinset, List.mem_toFinset, mem_recency]

theorem mem_take_iff (key : κ) (keys : List κ) (size : Nat) :
    key ∈ keys.take size ↔
      key ∈ keys ∧ (keys.takeWhile fun used => used ≠ key).length < size := by
  induction keys generalizing size with
  | nil => simp
  | cons first rest ih =>
    cases size with
    | zero => simp
    | succ size =>
      by_cases same : first = key
      · simp [same]
      · have apart : key ≠ first := Ne.symm same
        simp [same, apart, ih size]

/-- A key is among the most recent ones if fewer others have been used since its last use. -/
theorem mem_take_recency (key : κ) (uses : List κ) (size : Nat) :
    key ∈ (recency uses).take size ↔
      key ∈ uses ∧ (uses.takeWhile fun used => used ≠ key).toFinset.card < size := by
  rw [mem_take_iff, mem_recency, recency_takeWhile, length_recency]

theorem take_erase_take (key : κ) (keys : List κ) (size : Nat) :
    ((keys.take (size + 1)).erase key).take size = (keys.erase key).take size := by
  induction keys generalizing size with
  | nil => rfl
  | cons first rest ih =>
    rw [List.take_succ_cons]
    by_cases same : first = key
    · subst same
      simp
    · have apart : ¬ (first == key) = true := by simpa using same
      rw [List.erase_cons_tail apart, List.erase_cons_tail apart]
      cases size with
      | zero => rfl
      | succ size => rw [List.take_succ_cons, List.take_succ_cons, ih size]

/-- Entries with the most recently used first, each key once, and no more than there is room
for. -/
structure Lru (κ ν : Type) where
  maxsize : Nat
  entries : List (κ × ν)
  distinct : (entries.map Prod.fst).Nodup
  bounded : entries.length ≤ maxsize

namespace Lru

def empty (maxsize : Nat) : Lru κ ν := ⟨maxsize, [], List.nodup_nil, Nat.zero_le _⟩

def keys (cache : Lru κ ν) : List κ := cache.entries.map Prod.fst

def lookup (cache : Lru κ ν) (key : κ) : Option ν :=
  (cache.entries.find? fun entry => entry.1 = key).map Prod.snd

/-- The entry becomes the most recent one, and the least recent one goes if there is no room. -/
def use (cache : Lru κ ν) (key : κ) (value : ν) : Lru κ ν where
  maxsize := cache.maxsize
  entries := ((key, value) :: cache.entries.filter fun entry => entry.1 ≠ key).take cache.maxsize
  distinct := by
    have once : (((key, value) :: cache.entries.filter fun entry => entry.1 ≠ key).map
        Prod.fst).Nodup := by
      rw [List.map_cons, List.nodup_cons]
      refine ⟨?_, (List.filter_sublist.map Prod.fst).nodup cache.distinct⟩
      intro member
      obtain ⟨entry, kept, same⟩ := List.mem_map.mp member
      simpa [same] using (List.mem_filter.mp kept).2
    exact ((List.take_sublist _ _).map Prod.fst).nodup once
  bounded := List.length_take_le _ _

variable {cache : Lru κ ν} {key : κ} {value : ν}

theorem keys_use (cache : Lru κ ν) (key : κ) (value : ν) :
    (cache.use key value).keys = (key :: cache.keys.erase key).take cache.maxsize := by
  have others : (cache.entries.filter fun entry => entry.1 ≠ key).map Prod.fst =
      cache.keys.erase key := by
    rw [keys, cache.distinct.erase_eq_filter, List.filter_map]
    congr 1
    apply List.filter_congr
    intro entry _
    simp [bne, beq_eq_decide]
  rw [keys, use, List.map_take, List.map_cons, others]

theorem lookup_eq_some : cache.lookup key = some value ↔ (key, value) ∈ cache.entries := by
  unfold lookup
  constructor
  · intro found
    obtain ⟨entry, is, rfl⟩ := Option.map_eq_some_iff.mp found
    have same : entry.1 = key := by simpa using List.find?_some is
    rw [← same]
    exact List.mem_of_find?_eq_some is
  · intro member
    cases found : cache.entries.find? fun entry => entry.1 = key with
    | none =>
      have none_here := List.find?_eq_none.mp found (key, value) member
      simp at none_here
    | some entry =>
      have same : entry.1 = key := by simpa using List.find?_some found
      have equal := List.inj_on_of_nodup_map cache.distinct (List.mem_of_find?_eq_some found)
        member same
      rw [equal]
      rfl

/-- The cache after these uses, each with the value it read or wrote, the latest first. -/
structure Follows (cache : Lru κ ν) (uses : List (κ × ν)) : Prop where
  keys : cache.keys = (recency (uses.map Prod.fst)).take cache.maxsize
  values : ∀ entry ∈ cache.entries, uses.find? (fun used => used.1 = entry.1) = some entry

theorem Follows.empty (maxsize : Nat) : (Lru.empty maxsize : Lru κ ν).Follows [] := by
  constructor
  · exact List.take_nil.symm
  · intro entry member
    cases member

theorem Follows.use {uses : List (κ × ν)} (follows : cache.Follows uses) (key : κ) (value : ν) :
    (cache.use key value).Follows ((key, value) :: uses) := by
  constructor
  · rw [keys_use, follows.keys, List.map_cons, recency]
    have room : (cache.use key value).maxsize = cache.maxsize := rfl
    rw [room]
    cases cache.maxsize with
    | zero => rfl
    | succ size => rw [List.take_succ_cons, List.take_succ_cons, take_erase_take]
  · intro entry member
    have here := List.mem_of_mem_take (show entry ∈ List.take _ _ from member)
    rcases List.mem_cons.mp here with rfl | kept
    · simp
    · obtain ⟨earlier, other⟩ := List.mem_filter.mp kept
      have different : ¬ key = entry.1 := fun same => of_decide_eq_true other same.symm
      rw [List.find?_cons_of_neg (by simpa using different)]
      exact follows.values entry earlier

/-- What is found is what the last use of the key read or wrote, and it is found unless too many
others have been used since. -/
theorem Follows.lookup_iff {uses : List (κ × ν)} (follows : cache.Follows uses) :
    cache.lookup key = some value ↔
      uses.find? (fun used => used.1 = key) = some (key, value) ∧
        ((uses.map Prod.fst).takeWhile fun used => used ≠ key).toFinset.card <
          cache.maxsize := by
  constructor
  · intro found
    have member := lookup_eq_some.mp found
    refine ⟨follows.values _ member, ?_⟩
    have held : key ∈ cache.keys := List.mem_map_of_mem member
    rw [follows.keys] at held
    exact ((mem_take_recency key _ _).mp held).2
  · rintro ⟨last, few⟩
    have used : key ∈ uses.map Prod.fst :=
      List.mem_map_of_mem (List.mem_of_find?_eq_some last)
    have held := (mem_take_recency key _ _).mpr ⟨used, few⟩
    rw [← follows.keys] at held
    obtain ⟨entry, member, rfl⟩ := List.mem_map.mp held
    have latest := follows.values entry member
    rw [last] at latest
    rw [lookup_eq_some, Option.some.inj latest]
    exact member

end Lru

end BigX.Run
