import Mathlib.Algebra.Order.BigOperators.Group.List
import Mathlib.Algebra.Order.Monoid.Canonical.Defs
import Mathlib.Algebra.Order.Group.Nat
import Mathlib.Algebra.GroupWithZero.Nat
import Mathlib.Data.List.Perm.Subperm

set_option autoImplicit false

/- Payments under a key and the credits made for them. -/
namespace BigX.Run

variable {κ : Type}

/-- Every credit is a payment, key and amount, and none is made twice. -/
structure Credits (paid credited : List (κ × Nat)) : Prop where
  real : credited ⊆ paid
  once : credited.Nodup

def amounts (entries : List (κ × Nat)) : Nat :=
  (entries.map Prod.snd).sum

namespace Credits

variable {paid credited : List (κ × Nat)}

theorem start (paid : List (κ × Nat)) : Credits paid [] :=
  ⟨List.nil_subset paid, List.nodup_nil⟩

/-- Later payments take nothing back. -/
theorem mono {later : List (κ × Nat)} (credits : Credits paid credited)
    (grown : paid ⊆ later) : Credits later credited :=
  ⟨List.Subset.trans credits.real grown, credits.once⟩

/-- A payment whose key has no credit yet can be credited. -/
theorem snoc (credits : Credits paid credited) {key : κ} {amount : Nat}
    (payment : (key, amount) ∈ paid) (fresh : ∀ credit ∈ credited, credit.1 ≠ key) :
    Credits paid (credited ++ [(key, amount)]) := by
  constructor
  · intro credit member
    rcases List.mem_append.mp member with earlier | last
    · exact credits.real earlier
    · rw [List.mem_singleton.mp last]
      exact payment
  · apply List.nodup_append.mpr
    refine ⟨credits.once, List.pairwise_singleton _ _, ?_⟩
    intro credit earlier last member same
    rw [List.mem_singleton.mp member] at same
    exact fresh credit earlier (congrArg Prod.fst same)

theorem sum_le (credits : Credits paid credited) : amounts credited ≤ amounts paid := by
  obtain ⟨chosen, same, sub⟩ := List.subperm_of_subset credits.once credits.real
  have equal : amounts credited = amounts chosen := (same.map Prod.snd).sum_eq.symm
  rw [equal]
  exact (sub.map Prod.snd).sum_le_sum fun _ _ => Nat.zero_le _

theorem sum_eq (credits : Credits paid credited) (distinct : paid.Nodup)
    (whole : paid ⊆ credited) : amounts credited = amounts paid := by
  have same : credited.Perm paid := (List.perm_ext_iff_of_nodup credits.once distinct).mpr
    fun _ => ⟨fun member => credits.real member, fun member => whole member⟩
  exact (same.map Prod.snd).sum_eq

end Credits

end BigX.Run
