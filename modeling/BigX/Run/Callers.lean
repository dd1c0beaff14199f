import BigX.Run.Trace
import BigX.Run.Pool

set_option autoImplicit false

/- Callers that share one guard. A call asks the guard once and then tries up to a number of
times; while an attempt is awaited, and between two attempts, the other calls go on. -/
namespace BigX.Run

/-- What a call does after an attempt that failed. -/
inductive Afterwards
  | raises
  | backsOff
  | goesOn
  deriving DecidableEq

/-- The loop of a call, over guards `γ`, clock readings `τ` and kinds of failure `κ`. -/
structure Wrapper (γ τ κ : Type) where
  allow : (askedAt : τ) → γ → Bool × γ
  recordSuccess : γ → γ
  afterFailure : κ → (failedAt askedAt : τ) → (attempt maxRetries : Nat) → γ → Afterwards × γ

/-- A call awaits its attempt, or sleeps after it. -/
structure Call where
  attempt : Nat
  maxRetries : Nat
  sleeping : Bool

structure Callers (γ : Type) where
  guard : γ
  calls : List Call

/-- A call begins; what it awaits returns or raises; its sleep ends; or it is cancelled. -/
inductive CallerMove (τ κ : Type)
  | called (maxRetries : Nat) (askedAt now : τ)
  | returned (index : Nat)
  | raised (index : Nat) (kind : κ) (failedAt askedAt now : τ)
  | woke (index : Nat) (now : τ)
  | cancelled (index : Nat)

inductive NoSuchCall
  | noSuchCall

variable {γ τ κ : Type}

/-- A step of one of the callers, with the time at which it invokes the function, if it does. -/
def Wrapper.step (wrapper : Wrapper γ τ κ) (move : CallerMove τ κ) (state : Callers γ) :
    Except NoSuchCall (Callers γ × Option τ) :=
  match move with
  | .called maxRetries askedAt now =>
      match wrapper.allow askedAt state.guard with
      | (false, guard) => .ok ({ state with guard := guard }, none)
      | (true, guard) =>
          if 0 < maxRetries then .ok (⟨guard, state.calls ++ [⟨1, maxRetries, false⟩]⟩, some now)
          else .ok ({ state with guard := guard }, none)
  | .returned index =>
      match takeOut index state.calls with
      | some (⟨_, _, false⟩, calls) => .ok (⟨wrapper.recordSuccess state.guard, calls⟩, none)
      | _ => .error .noSuchCall
  | .raised index kind failedAt askedAt now =>
      match takeOut index state.calls with
      | some (⟨attempt, maxRetries, false⟩, calls) =>
          match wrapper.afterFailure kind failedAt askedAt attempt maxRetries state.guard with
          | (.raises, guard) => .ok (⟨guard, calls⟩, none)
          | (.backsOff, guard) => .ok (⟨guard, calls ++ [⟨attempt, maxRetries, true⟩]⟩, none)
          | (.goesOn, guard) =>
              .ok (⟨guard, calls ++ [⟨attempt + 1, maxRetries, false⟩]⟩, some now)
      | _ => .error .noSuchCall
  | .woke index now =>
      match takeOut index state.calls with
      | some (⟨attempt, maxRetries, true⟩, calls) =>
          .ok (⟨state.guard, calls ++ [⟨attempt + 1, maxRetries, false⟩]⟩, some now)
      | _ => .error .noSuchCall
  | .cancelled index =>
      match takeOut index state.calls with
      | some (_, calls) => .ok ({ state with calls := calls }, none)
      | none => .error .noSuchCall

/-- Everything that a step can do. -/
inductive Wrapper.Stepped (wrapper : Wrapper γ τ κ) (before : Callers γ) :
    CallerMove τ κ → Callers γ → Option τ → Prop
  | refused (maxRetries : Nat) (askedAt now : τ)
      (asked : (wrapper.allow askedAt before.guard).1 = false) :
      Stepped wrapper before (.called maxRetries askedAt now)
        ⟨(wrapper.allow askedAt before.guard).2, before.calls⟩ none
  | entered (maxRetries : Nat) (askedAt now : τ)
      (asked : (wrapper.allow askedAt before.guard).1 = true) (some_ : 0 < maxRetries) :
      Stepped wrapper before (.called maxRetries askedAt now)
        ⟨(wrapper.allow askedAt before.guard).2, before.calls ++ [⟨1, maxRetries, false⟩]⟩
        (some now)
  | unattempted (askedAt now : τ) (asked : (wrapper.allow askedAt before.guard).1 = true) :
      Stepped wrapper before (.called 0 askedAt now)
        ⟨(wrapper.allow askedAt before.guard).2, before.calls⟩ none
  | returned (index attempt maxRetries : Nat) (calls : List Call)
      (taken : takeOut index before.calls = some (⟨attempt, maxRetries, false⟩, calls)) :
      Stepped wrapper before (.returned index) ⟨wrapper.recordSuccess before.guard, calls⟩ none
  | raised (index attempt maxRetries : Nat) (kind : κ) (failedAt askedAt now : τ) (guard : γ)
      (calls : List Call)
      (taken : takeOut index before.calls = some (⟨attempt, maxRetries, false⟩, calls))
      (failed : wrapper.afterFailure kind failedAt askedAt attempt maxRetries before.guard =
        (.raises, guard)) :
      Stepped wrapper before (.raised index kind failedAt askedAt now) ⟨guard, calls⟩ none
  | backedOff (index attempt maxRetries : Nat) (kind : κ) (failedAt askedAt now : τ) (guard : γ)
      (calls : List Call)
      (taken : takeOut index before.calls = some (⟨attempt, maxRetries, false⟩, calls))
      (failed : wrapper.afterFailure kind failedAt askedAt attempt maxRetries before.guard =
        (.backsOff, guard)) :
      Stepped wrapper before (.raised index kind failedAt askedAt now)
        ⟨guard, calls ++ [⟨attempt, maxRetries, true⟩]⟩ none
  | wentOn (index attempt maxRetries : Nat) (kind : κ) (failedAt askedAt now : τ) (guard : γ)
      (calls : List Call)
      (taken : takeOut index before.calls = some (⟨attempt, maxRetries, false⟩, calls))
      (failed : wrapper.afterFailure kind failedAt askedAt attempt maxRetries before.guard =
        (.goesOn, guard)) :
      Stepped wrapper before (.raised index kind failedAt askedAt now)
        ⟨guard, calls ++ [⟨attempt + 1, maxRetries, false⟩]⟩ (some now)
  | woke (index attempt maxRetries : Nat) (now : τ) (calls : List Call)
      (taken : takeOut index before.calls = some (⟨attempt, maxRetries, true⟩, calls)) :
      Stepped wrapper before (.woke index now)
        ⟨before.guard, calls ++ [⟨attempt + 1, maxRetries, false⟩]⟩ (some now)
  | cancelled (index : Nat) (call : Call) (calls : List Call)
      (taken : takeOut index before.calls = some (call, calls)) :
      Stepped wrapper before (.cancelled index) ⟨before.guard, calls⟩ none

theorem Wrapper.step_stepped {wrapper : Wrapper γ τ κ} {move : CallerMove τ κ}
    {before after : Callers γ} {invoked : Option τ}
    (accepted : wrapper.step move before = .ok (after, invoked)) :
    wrapper.Stepped before move after invoked := by
  cases move with
  | called maxRetries askedAt now =>
    simp only [Wrapper.step] at accepted
    split at accepted
    · rename_i guard asked
      cases accepted
      have stepped : wrapper.Stepped before _ _ _ :=
        .refused maxRetries askedAt now (congrArg Prod.fst asked)
      rwa [asked] at stepped
    · rename_i guard asked
      split at accepted
      · rename_i some_
        cases accepted
        have stepped : wrapper.Stepped before _ _ _ :=
          .entered maxRetries askedAt now (congrArg Prod.fst asked) some_
        rwa [asked] at stepped
      · rename_i none_
        cases accepted
        obtain rfl := Nat.eq_zero_of_not_pos none_
        have stepped : wrapper.Stepped before _ _ _ :=
          .unattempted askedAt now (congrArg Prod.fst asked)
        rwa [asked] at stepped
  | returned index =>
    simp only [Wrapper.step] at accepted
    split at accepted
    · rename_i attempt maxRetries calls taken
      cases accepted
      exact .returned index attempt maxRetries calls taken
    · cases accepted
  | raised index kind failedAt askedAt now =>
    simp only [Wrapper.step] at accepted
    split at accepted
    · rename_i attempt maxRetries calls taken
      split at accepted
      · rename_i guard failed
        cases accepted
        exact .raised index attempt maxRetries kind failedAt askedAt now guard calls taken failed
      · rename_i guard failed
        cases accepted
        exact .backedOff index attempt maxRetries kind failedAt askedAt now guard calls taken failed
      · rename_i guard failed
        cases accepted
        exact .wentOn index attempt maxRetries kind failedAt askedAt now guard calls taken failed
    · cases accepted
  | woke index now =>
    simp only [Wrapper.step] at accepted
    split at accepted
    · rename_i attempt maxRetries calls taken
      cases accepted
      exact .woke index attempt maxRetries now calls taken
    · cases accepted
  | cancelled index =>
    simp only [Wrapper.step] at accepted
    split at accepted
    · rename_i call calls taken
      cases accepted
      exact .cancelled index call calls taken
    · cases accepted

end BigX.Run
