import Mathlib.Algebra.BigOperators.Group.List.Basic
import Mathlib.Algebra.GroupWithZero.Nat
import Mathlib.Data.List.Perm.Basic

set_option autoImplicit false

/- Items that are under way side by side, in no order, and are taken out one at a time. -/
namespace BigX.Run

variable {α : Type}

/-- The item at `index`, and the others. -/
def takeOut (index : Nat) (pool : List α) : Option (α × List α) :=
  pool[index]?.map fun item => (item, pool.eraseIdx index)

/-- What the items of a pool amount to. -/
def poolSum (amount : α → Nat) (pool : List α) : Nat :=
  (pool.map amount).sum

@[simp] theorem poolSum_nil (amount : α → Nat) : poolSum amount [] = 0 := rfl

@[simp] theorem poolSum_cons (amount : α → Nat) (item : α) (pool : List α) :
    poolSum amount (item :: pool) = amount item + poolSum amount pool := by
  simp only [poolSum, List.map_cons, List.sum_cons]

theorem poolSum_snoc (amount : α → Nat) (pool : List α) (item : α) :
    poolSum amount (pool ++ [item]) = poolSum amount pool + amount item := by
  simp only [poolSum, List.map_append, List.map_cons, List.map_nil, List.sum_append,
    List.sum_cons, List.sum_nil, Nat.add_zero]

theorem takeOut_perm {index : Nat} {pool rest : List α} {item : α}
    (taken : takeOut index pool = some (item, rest)) : pool.Perm (item :: rest) := by
  obtain ⟨found, place, same⟩ := Option.map_eq_some_iff.mp taken
  cases same
  obtain ⟨bound, rfl⟩ := List.getElem?_eq_some_iff.mp place
  exact (List.getElem_cons_eraseIdx_perm bound).symm

theorem takeOut_get {index : Nat} {pool rest : List α} {item : α}
    (taken : takeOut index pool = some (item, rest)) : pool[index]? = some item := by
  obtain ⟨found, place, same⟩ := Option.map_eq_some_iff.mp taken
  cases same
  exact place

theorem takeOut_mem {index : Nat} {pool rest : List α} {item : α}
    (taken : takeOut index pool = some (item, rest)) : item ∈ pool :=
  (takeOut_perm taken).mem_iff.mpr List.mem_cons_self

theorem mem_of_takeOut {index : Nat} {pool rest : List α} {item other : α}
    (taken : takeOut index pool = some (item, rest)) (member : other ∈ rest) : other ∈ pool :=
  (takeOut_perm taken).mem_iff.mpr (List.mem_cons_of_mem item member)

theorem takeOut_sublist {index : Nat} {pool rest : List α} {item : α}
    (taken : takeOut index pool = some (item, rest)) : rest.Sublist pool := by
  obtain ⟨found, place, same⟩ := Option.map_eq_some_iff.mp taken
  cases same
  exact List.eraseIdx_sublist pool index

/-- What is taken out and what stays amount to the whole. -/
theorem takeOut_sum {index : Nat} {pool rest : List α} {item : α}
    (taken : takeOut index pool = some (item, rest)) (amount : α → Nat) :
    poolSum amount pool = amount item + poolSum amount rest := by
  rw [← poolSum_cons]
  exact ((takeOut_perm taken).map amount).sum_eq

theorem poolSum_eq_zero {amount : α → Nat} {pool : List α}
    (nothing : ∀ item ∈ pool, amount item = 0) : poolSum amount pool = 0 := by
  induction pool with
  | nil => rfl
  | cons item pool ih =>
    rw [poolSum_cons, nothing item List.mem_cons_self,
      ih fun other member => nothing other (List.mem_cons_of_mem item member)]

end BigX.Run
