import Mathlib.Algebra.BigOperators.Finprod
import Mathlib.Algebra.BigOperators.Group.Finset.Piecewise
import Mathlib.Data.Fintype.Pi
import Mathlib.Data.Set.Card

set_option autoImplicit false

/- Counting the accounts marked in a Boolean mapping, and adding up the amounts in a mapping
to numbers. The mapping is what a program stores; the count and the total are the numbers its
shadow counters are meant to hold. -/
namespace BigX.Run

section Marked

variable {α : Type} [DecidableEq α]

/-- The accounts a mapping marks. -/
def marked (mapping : α → Bool) : Set α :=
  {account | mapping account = true}

/-- How many accounts a mapping marks. -/
noncomputable def tally (mapping : α → Bool) : Nat :=
  (marked mapping).ncard

omit [DecidableEq α] in
@[simp] theorem mem_marked (mapping : α → Bool) (account : α) :
    account ∈ marked mapping ↔ mapping account = true := Iff.rfl

omit [DecidableEq α] in
@[simp] theorem tally_none : tally (fun _ : α => false) = 0 := by
  have empty : marked (fun _ : α => false) = ∅ := by
    ext account
    simp
  simp only [tally, empty, Set.ncard_empty]

theorem marked_update_true (mapping : α → Bool) (account : α) :
    marked (Function.update mapping account true) = insert account (marked mapping) := by
  ext other
  by_cases same : other = account
  · subst same
    simp
  · simp [same]

theorem marked_update_false (mapping : α → Bool) (account : α) :
    marked (Function.update mapping account false) = marked mapping \ {account} := by
  ext other
  by_cases same : other = account
  · subst same
    simp
  · simp [same]

variable [Finite α]

/-- Marking a new account adds exactly one. -/
theorem tally_mark (mapping : α → Bool) (account : α) (fresh : mapping account = false) :
    tally (Function.update mapping account true) = tally mapping + 1 := by
  have absent : account ∉ marked mapping := by simp [fresh]
  rw [tally, marked_update_true, Set.ncard_insert_of_notMem absent (Set.toFinite _), tally]

/-- Unmarking a marked account removes exactly one. -/
theorem tally_unmark (mapping : α → Bool) (account : α) (present : mapping account = true) :
    tally (Function.update mapping account false) + 1 = tally mapping := by
  rw [tally, marked_update_false,
    Set.ncard_sdiff_singleton_add_one ((mem_marked mapping account).mpr present) (Set.toFinite _),
    tally]

omit [DecidableEq α] in
/-- A mapping that marks an account has a positive count. -/
theorem tally_pos (mapping : α → Bool) (account : α) (present : mapping account = true) :
    0 < tally mapping :=
  (Set.ncard_pos (Set.toFinite _)).mpr ⟨account, present⟩

omit [DecidableEq α] in
theorem tally_eq_zero (mapping : α → Bool) :
    tally mapping = 0 ↔ ∀ account, mapping account = false := by
  rw [tally, Set.ncard_eq_zero (Set.toFinite _), Set.eq_empty_iff_forall_notMem]
  simp only [mem_marked, Bool.not_eq_true]

end Marked

section Total

variable {α : Type}

/-- The sum over all keys. -/
noncomputable def total (amounts : α → Nat) : Nat :=
  ∑ᶠ key, amounts key

@[simp] theorem total_zero : total (fun _ : α => 0) = 0 := finsum_zero

variable [Finite α] [DecidableEq α]

/-- A written key changes the total by what it holds now and held before. -/
theorem total_update (amounts : α → Nat) (key : α) (amount : Nat) :
    total (Function.update amounts key amount) + amounts key = total amounts + amount := by
  have := Fintype.ofFinite α
  have written := Finset.sum_update_of_mem (Finset.mem_univ key) amounts amount
  have whole := Finset.sum_update_of_mem (Finset.mem_univ key) amounts (amounts key)
  rw [Function.update_eq_self] at whole
  rw [total, total, finsum_eq_sum_of_fintype, finsum_eq_sum_of_fintype, written, whole]
  omega

end Total

end BigX.Run
