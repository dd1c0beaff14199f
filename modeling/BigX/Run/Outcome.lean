import Mathlib.Order.Basic

set_option autoImplicit false

/- Calls in sequence, each of which returns or fails, and loops that may go on for ever: what a
loop comes to in so many rounds, and the rules that show that it ends, or that it does not. -/
namespace BigX.Run

section Sequence

variable {α β ε : Type}

/-- A sequence of two calls returns exactly when both do. -/
@[simp] theorem bind_eq_ok (first : Except ε α) (next : α → Except ε β) (result : β) :
    (first >>= next) = .ok result ↔ ∃ value, first = .ok value ∧ next value = .ok result := by
  cases first with
  | error reason => simp [bind, Except.bind]
  | ok value => simp [bind, Except.bind]

theorem bind_of_ok (first : Except ε α) (next : α → Except ε β) (value : α)
    (returned : first = .ok value) : (first >>= next) = next value := by
  rw [returned]
  rfl

theorem bind_of_error (first : Except ε α) (next : α → Except ε β) (reason : ε)
    (reverted : first = .error reason) : (first >>= next) = .error reason := by
  rw [reverted]
  rfl

@[simp] theorem pure_eq_ok (value result : α) :
    (pure value : Except ε α) = .ok result ↔ value = result := by
  simp [pure, Except.pure]

end Sequence

section Loop

variable {σ : Type}

/-- The state in which the loop ends, unless it still goes on after all these rounds. -/
def whileLoop (going : σ → Bool) (body : σ → σ) : (rounds : Nat) → σ → Option σ
  | 0, state => if going state then none else some state
  | rounds + 1, state =>
    if going state then whileLoop going body rounds (body state) else some state

variable {going : σ → Bool} {body : σ → σ}

theorem whileLoop_stop {state : σ} (stop : going state = false) (rounds : Nat) :
    whileLoop going body rounds state = some state := by
  cases rounds <;> simp [whileLoop, stop]

theorem whileLoop_more {rounds : Nat} {state last : σ}
    (ended : whileLoop going body rounds state = some last) (more : Nat) :
    whileLoop going body (rounds + more) state = some last := by
  induction rounds generalizing state with
  | zero =>
    rw [whileLoop] at ended
    split at ended
    next => cases ended
    next stop =>
      rw [whileLoop_stop (Bool.eq_false_iff.mpr stop), ended]
  | succ rounds ih =>
    rw [Nat.succ_add, whileLoop]
    rw [whileLoop] at ended
    split at ended
    next go => rw [if_pos go, ih ended]
    next stop => rw [if_neg stop, ended]

/-- The loop ends, in this state. -/
def Ends (going : σ → Bool) (body : σ → σ) (state last : σ) : Prop :=
  ∃ rounds, whileLoop going body rounds state = some last

theorem Ends.unique {state first second : σ} (one : Ends going body state first)
    (other : Ends going body state second) : first = second := by
  obtain ⟨rounds, ended⟩ := one
  obtain ⟨more, again⟩ := other
  have longer := whileLoop_more ended more
  rw [Nat.add_comm, whileLoop_more again rounds] at longer
  exact (Option.some.inj longer).symm

theorem Ends.stop {state : σ} (stop : going state = false) : Ends going body state state :=
  ⟨0, whileLoop_stop stop 0⟩

theorem Ends.step {state last : σ} (go : going state = true)
    (ends : Ends going body (body state) last) : Ends going body state last := by
  obtain ⟨rounds, ended⟩ := ends
  exact ⟨rounds + 1, by rw [whileLoop, if_pos go, ended]⟩

/-- An invariant and a number that every round lowers. -/
theorem Ends.of_invariant (invariant : σ → Prop) (variant : σ → Nat)
    (kept : ∀ state, invariant state → going state = true →
      invariant (body state) ∧ variant (body state) < variant state)
    {state : σ} (holds : invariant state) :
    ∃ last, Ends going body state last ∧ invariant last ∧ going last = false := by
  induction left : variant state using Nat.strongRecOn generalizing state with
  | ind left ih =>
    cases go : going state with
    | false => exact ⟨state, .stop go, holds, go⟩
    | true =>
      have ⟨onward, less⟩ := kept state holds go
      obtain ⟨last, ends, rest⟩ := ih (variant (body state)) (left ▸ less) onward rfl
      exact ⟨last, .step go ends, rest⟩

/-- An invariant with which every round is followed by another. -/
theorem whileLoop_endless (invariant : σ → Prop)
    (kept : ∀ state, invariant state → going state = true ∧ invariant (body state))
    {state : σ} (holds : invariant state) (rounds : Nat) :
    whileLoop going body rounds state = none := by
  induction rounds generalizing state with
  | zero => rw [whileLoop, if_pos (kept state holds).1]
  | succ rounds ih => rw [whileLoop, if_pos (kept state holds).1, ih (kept state holds).2]

end Loop

end BigX.Run
