import Mathlib.Data.List.Induction
import Mathlib.Order.Basic

set_option autoImplicit false

/- Runs of a machine whose steps may be refused. A refused input has no effect at
all, so a trace records exactly the inputs that took effect, oldest first. -/
namespace BigX.Run

variable {σ ι ο ε : Type}

/-- One input that took effect, with the states on both sides of it. -/
structure Entry (σ ι ο : Type) where
  before : σ
  input : ι
  output : ο
  after : σ

structure Trace (σ ι ο : Type) where
  past : List (Entry σ ι ο)
  now : σ

def Trace.extend (step : ι → σ → Except ε (σ × ο)) (trace : Trace σ ι ο) (input : ι) :
    Trace σ ι ο :=
  match step input trace.now with
  | .ok (after, output) => ⟨trace.past ++ [⟨trace.now, input, output, after⟩], after⟩
  | .error _ => trace

/-- What the last entry of a past is not, an earlier one is. -/
theorem mem_past_of_not_last (property : Entry σ ι ο → Prop) {past : List (Entry σ ι ο)}
    {last entry : Entry σ ι ο} (member : entry ∈ past ++ [last]) (held : property entry)
    (not_last : ¬ property last) : entry ∈ past := by
  rcases List.mem_append.mp member with earlier | final
  · exact earlier
  · rw [List.mem_singleton.mp final] at held
    exact absurd held not_last

/-- Offer every input in turn, refused ones included. -/
def run (step : ι → σ → Except ε (σ × ο)) (start : σ) (inputs : List ι) : Trace σ ι ο :=
  inputs.foldl (Trace.extend step) ⟨[], start⟩

@[simp] theorem run_nil (step : ι → σ → Except ε (σ × ο)) (start : σ) :
    run step start [] = ⟨[], start⟩ := rfl

theorem run_snoc (step : ι → σ → Except ε (σ × ο)) (start : σ) (inputs : List ι) (input : ι) :
    run step start (inputs ++ [input]) = (run step start inputs).extend step input := by
  simp only [run, List.foldl_append, List.foldl_cons, List.foldl_nil]

theorem extend_ok (step : ι → σ → Except ε (σ × ο)) (trace : Trace σ ι ο) (input : ι)
    (after : σ) (output : ο) (accepted : step input trace.now = .ok (after, output)) :
    trace.extend step input =
      ⟨trace.past ++ [⟨trace.now, input, output, after⟩], after⟩ := by
  simp only [Trace.extend, accepted]

theorem extend_error (step : ι → σ → Except ε (σ × ο)) (trace : Trace σ ι ο) (input : ι)
    (reason : ε) (refused : step input trace.now = .error reason) :
    trace.extend step input = trace := by
  simp only [Trace.extend, refused]

/-- Where a run goes on from does not depend on what led there. -/
theorem run_cons_now {step : ι → σ → Except ε (σ × ο)} {start after : σ} {input : ι} {output : ο}
    (accepted : step input start = .ok (after, output)) (inputs : List ι) :
    (run step start (input :: inputs)).now = (run step after inputs).now := by
  induction inputs using List.reverseRecOn with
  | nil =>
    have first := extend_ok step ⟨[], start⟩ input after output accepted
    simp only [run, List.foldl_cons, List.foldl_nil, first]
  | append_singleton inputs last ih =>
    rw [← List.cons_append, run_snoc, run_snoc]
    unfold Trace.extend
    rw [ih]
    split <;> simp only [ih]

/-- The induction behind every run lemma: a property of the past and the present
holds of each run when it holds at the start and each accepted step keeps it. -/
theorem run_induction (step : ι → σ → Except ε (σ × ο)) (start : σ)
    (motive : List (Entry σ ι ο) → σ → Prop) (base : motive [] start)
    (keeps : ∀ past now input after output, motive past now →
      step input now = .ok (after, output) →
      motive (past ++ [⟨now, input, output, after⟩]) after)
    (inputs : List ι) :
    motive (run step start inputs).past (run step start inputs).now := by
  induction inputs using List.reverseRecOn with
  | nil => exact base
  | append_singleton inputs input ih =>
    rw [run_snoc]
    cases attempt : step input (run step start inputs).now with
    | error reason =>
      rw [extend_error step _ input reason attempt]
      exact ih
    | ok result =>
      rw [extend_ok step _ input result.1 result.2 attempt]
      exact keeps _ _ input result.1 result.2 ih attempt

/-- Every recorded entry is an accepted step. -/
theorem run_accepted (step : ι → σ → Except ε (σ × ο)) (start : σ) (inputs : List ι) :
    ∀ entry ∈ (run step start inputs).past,
      step entry.input entry.before = .ok (entry.after, entry.output) := by
  apply run_induction step start
    (fun past _ => ∀ entry ∈ past, step entry.input entry.before = .ok (entry.after, entry.output))
  · intro entry member
    cases member
  · intro past now input after output held accepted entry member
    rcases List.mem_append.mp member with earlier | last
    · exact held entry earlier
    · cases List.mem_singleton.mp last
      exact accepted

/-- What every accepted step keeps holds before each entry of a run. -/
theorem run_before (step : ι → σ → Except ε (σ × ο)) (start : σ) (good : σ → Prop)
    (base : good start)
    (keeps : ∀ now input after output, good now → step input now = .ok (after, output) →
      good after)
    (inputs : List ι) : ∀ entry ∈ (run step start inputs).past, good entry.before := by
  suffices both : good (run step start inputs).now ∧
      ∀ entry ∈ (run step start inputs).past, good entry.before from both.2
  apply run_induction step start (fun past now => good now ∧ ∀ entry ∈ past, good entry.before)
  · refine ⟨base, ?_⟩
    intro entry member
    cases member
  · intro past now input after output held accepted
    refine ⟨keeps now input after output held.1 accepted, ?_⟩
    intro entry member
    rcases List.mem_append.mp member with earlier | last
    · exact held.2 entry earlier
    · rw [List.mem_singleton.mp last]
      exact held.1

/-- Only inputs that were offered take effect, in the order they were offered. -/
theorem run_inputs_sublist (step : ι → σ → Except ε (σ × ο)) (start : σ) (inputs : List ι) :
    ((run step start inputs).past.map Entry.input).Sublist inputs := by
  induction inputs using List.reverseRecOn with
  | nil => exact List.Sublist.slnil
  | append_singleton inputs input ih =>
    rw [run_snoc]
    cases attempt : step input (run step start inputs).now with
    | error reason =>
      rw [extend_error step _ input reason attempt]
      exact ih.trans (List.sublist_append_left _ _)
    | ok result =>
      rw [extend_ok step _ input result.1 result.2 attempt, List.map_append]
      exact ih.append (List.Sublist.refl _)

/-- Each accepted step of a run meets `condition` on the state before it and its input. -/
def Meets (condition : σ → ι → Prop) (past : List (Entry σ ι ο)) : Prop :=
  ∀ entry ∈ past, condition entry.before entry.input

instance (condition : σ → ι → Prop) [∀ state input, Decidable (condition state input)]
    (past : List (Entry σ ι ο)) : Decidable (Meets condition past) :=
  inferInstanceAs (Decidable (∀ entry ∈ past, condition entry.before entry.input))

@[simp] theorem meets_nil (condition : σ → ι → Prop) :
    Meets condition ([] : List (Entry σ ι ο)) := by
  intro entry member
  cases member

theorem meets_snoc (condition : σ → ι → Prop) (past : List (Entry σ ι ο))
    (entry : Entry σ ι ο) :
    Meets condition (past ++ [entry]) ↔
      Meets condition past ∧ condition entry.before entry.input := by
  simp only [Meets, List.mem_append, List.mem_singleton, or_imp, forall_and, forall_eq]

theorem meets_and (first second : σ → ι → Prop) (past : List (Entry σ ι ο)) :
    Meets (fun state input => first state input ∧ second state input) past ↔
      Meets first past ∧ Meets second past :=
  forall₂_and

/-- When a step has `property` exactly if it meets `condition`, so do all steps of a run. -/
theorem run_entries_iff (step : ι → σ → Except ε (σ × ο)) (start : σ)
    (property : Entry σ ι ο → Prop) (condition : σ → ι → Prop)
    (exact : ∀ before input after output, step input before = .ok (after, output) →
      (property ⟨before, input, output, after⟩ ↔ condition before input))
    (inputs : List ι) :
    (∀ entry ∈ (run step start inputs).past, property entry) ↔
      Meets condition (run step start inputs).past := by
  apply forall₂_congr
  intro entry member
  exact exact entry.before entry.input entry.after entry.output
    (run_accepted step start inputs entry member)

/-- A next input that meets `condition` keeps a run meeting it, accepted or not. -/
theorem meets_run_snoc (step : ι → σ → Except ε (σ × ο)) (start : σ) (condition : σ → ι → Prop)
    (inputs : List ι) (input : ι) (meets : Meets condition (run step start inputs).past)
    (last : condition (run step start inputs).now input) :
    Meets condition (run step start (inputs ++ [input])).past := by
  rw [run_snoc]
  cases attempt : step input (run step start inputs).now with
  | error reason =>
    rw [extend_error step _ input reason attempt]
    exact meets
  | ok result =>
    rw [extend_ok step _ input result.1 result.2 attempt]
    exact (meets_snoc condition _ _).mpr ⟨meets, last⟩

/-- A run of inputs that meet `condition` in every state meets it. -/
theorem meets_of_inputs (step : ι → σ → Except ε (σ × ο)) (start : σ)
    (condition : σ → ι → Prop) (inputs : List ι)
    (always : ∀ input ∈ inputs, ∀ state, condition state input) :
    Meets condition (run step start inputs).past := by
  intro entry member
  have offered := (run_inputs_sublist step start inputs).subset (List.mem_map_of_mem member)
  exact always entry.input offered entry.before

/-- `property` holds of each entry with what came before it. -/
def Throughout (property : List (Entry σ ι ο) → Entry σ ι ο → Prop)
    (past : List (Entry σ ι ο)) : Prop :=
  ∀ earlier entry later, past = earlier ++ entry :: later → property earlier entry

theorem throughout_nil (property : List (Entry σ ι ο) → Entry σ ι ο → Prop) :
    Throughout property [] := by
  intro earlier entry later same
  cases earlier <;> cases same

theorem throughout_snoc (property : List (Entry σ ι ο) → Entry σ ι ο → Prop)
    (past : List (Entry σ ι ο)) (last : Entry σ ι ο) :
    Throughout property (past ++ [last]) ↔ Throughout property past ∧ property past last := by
  constructor
  · intro held
    refine ⟨?_, held past last [] rfl⟩
    rintro earlier entry later rfl
    exact held earlier entry (later ++ [last]) (by simp)
  · rintro ⟨held, atLast⟩ earlier entry later same
    induction later using List.reverseRecOn with
    | nil =>
      obtain ⟨rfl, equal⟩ := List.append_inj' same rfl
      cases equal
      exact atLast
    | append_singleton later final _ =>
      have split_last : past ++ [last] = (earlier ++ entry :: later) ++ [final] := by
        simpa using same
      exact held earlier entry later (List.append_inj' split_last rfl).1

/-- An entry is preceded by the entries of smaller index. -/
theorem Throughout.at_index {property : List (Entry σ ι ο) → Entry σ ι ο → Prop}
    {past : List (Entry σ ι ο)} (held : Throughout property past) (index : Nat)
    (bound : index < past.length) : property (past.take index) past[index] := by
  apply held (past.take index) past[index] (past.drop (index + 1))
  rw [List.getElem_cons_drop, List.take_append_drop]

theorem throughout_of_index {property : List (Entry σ ι ο) → Entry σ ι ο → Prop}
    {past : List (Entry σ ι ο)}
    (held : ∀ index, (bound : index < past.length) → property (past.take index) past[index]) :
    Throughout property past := by
  rintro earlier entry later rfl
  have here := held earlier.length (by simp)
  simpa using here

/-- What an invariant gives for the next accepted step holds of every step of a run, when
the steps of the run all meet `condition`. -/
theorem run_throughout_of_meets (step : ι → σ → Except ε (σ × ο)) (start : σ)
    (invariant : List (Entry σ ι ο) → σ → Prop) (condition : σ → ι → Prop)
    (property : List (Entry σ ι ο) → Entry σ ι ο → Prop) (base : invariant [] start)
    (keeps : ∀ past now input after output, invariant past now → condition now input →
      step input now = .ok (after, output) →
      property past ⟨now, input, output, after⟩ ∧
        invariant (past ++ [⟨now, input, output, after⟩]) after)
    (inputs : List ι) (meets : Meets condition (run step start inputs).past) :
    Throughout property (run step start inputs).past ∧
      invariant (run step start inputs).past (run step start inputs).now := by
  revert meets
  apply run_induction step start (fun past now => Meets condition past →
    Throughout property past ∧ invariant past now)
  · intro _
    exact ⟨throughout_nil property, base⟩
  · intro past now input after output held accepted meets
    obtain ⟨earlierMeets, last⟩ := (meets_snoc condition past _).mp meets
    obtain ⟨earlier, current⟩ := held earlierMeets
    obtain ⟨atLast, next⟩ := keeps past now input after output current last accepted
    exact ⟨(throughout_snoc property past _).mpr ⟨earlier, atLast⟩, next⟩

/-- What an invariant gives for the next accepted step holds of every step of a run. -/
theorem run_throughout (step : ι → σ → Except ε (σ × ο)) (start : σ)
    (invariant : List (Entry σ ι ο) → σ → Prop)
    (property : List (Entry σ ι ο) → Entry σ ι ο → Prop) (base : invariant [] start)
    (keeps : ∀ past now input after output, invariant past now →
      step input now = .ok (after, output) →
      property past ⟨now, input, output, after⟩ ∧
        invariant (past ++ [⟨now, input, output, after⟩]) after)
    (inputs : List ι) :
    Throughout property (run step start inputs).past ∧
      invariant (run step start inputs).past (run step start inputs).now := by
  apply run_throughout_of_meets step start invariant (fun _ _ => True) property base
  · intro past now input after output held _ accepted
    exact keeps past now input after output held accepted
  · exact meets_of_inputs step start _ inputs (fun _ _ _ => trivial)

/-- When an invariant makes the next accepted step have `property` exactly if it meets
`condition`, both of which may look back, and such a step keeps it, all steps of a run have the
one exactly if all have the other. -/
theorem run_throughout_iff (step : ι → σ → Except ε (σ × ο)) (start : σ)
    (invariant : List (Entry σ ι ο) → σ → Prop)
    (property condition : List (Entry σ ι ο) → Entry σ ι ο → Prop) (base : invariant [] start)
    (exact : ∀ past now input after output, invariant past now →
      step input now = .ok (after, output) →
      (property past ⟨now, input, output, after⟩ ↔ condition past ⟨now, input, output, after⟩))
    (keeps : ∀ past now input after output, invariant past now →
      step input now = .ok (after, output) → condition past ⟨now, input, output, after⟩ →
      invariant (past ++ [⟨now, input, output, after⟩]) after)
    (inputs : List ι) :
    Throughout property (run step start inputs).past ↔
      Throughout condition (run step start inputs).past := by
  suffices both : (Throughout property (run step start inputs).past ↔
      Throughout condition (run step start inputs).past) ∧
      (Throughout condition (run step start inputs).past →
        invariant (run step start inputs).past (run step start inputs).now) from both.1
  apply run_induction step start (fun past now =>
    (Throughout property past ↔ Throughout condition past) ∧
      (Throughout condition past → invariant past now))
  · exact ⟨iff_of_true (throughout_nil property) (throughout_nil condition), fun _ => base⟩
  · rintro past now input after output ⟨same, current⟩ accepted
    rw [throughout_snoc, throughout_snoc]
    constructor
    · rw [same]
      apply and_congr_right
      intro earlier
      exact exact past now input after output (current earlier) accepted
    · rintro ⟨earlier, last⟩
      exact keeps past now input after output (current earlier) accepted last

/-- An invariant that steps meeting `condition` keep holds after every run of such steps. -/
theorem run_of_meets (step : ι → σ → Except ε (σ × ο)) (start : σ)
    (invariant : List (Entry σ ι ο) → σ → Prop) (condition : σ → ι → Prop)
    (base : invariant [] start)
    (keeps : ∀ past now input after output, invariant past now → condition now input →
      step input now = .ok (after, output) →
      invariant (past ++ [⟨now, input, output, after⟩]) after)
    (inputs : List ι) (meets : Meets condition (run step start inputs).past) :
    invariant (run step start inputs).past (run step start inputs).now := by
  apply And.right
  apply run_throughout_of_meets step start invariant condition (fun _ _ => True) base ?_ inputs meets
  intro past now input after output held condition accepted
  exact ⟨trivial, keeps past now input after output held condition accepted⟩

section Clock

variable {τ : Type} [LE τ] (time : ι → τ)

/-- The inputs are offered at times that never go back. -/
def InOrder (inputs : List ι) : Prop :=
  inputs.Pairwise fun first second => time first ≤ time second

/-- Nothing in the past is later than `input`. -/
def NotAfter (past : List (Entry σ ι ο)) (input : ι) : Prop :=
  ∀ entry ∈ past, time entry.input ≤ time input

/-- A coarser clock does not go back either. -/
theorem NotAfter.coarsen {τ' : Type} [LE τ'] {time : ι → τ} {coarse : ι → τ'}
    {past : List (Entry σ ι ο)} {input : ι} (held : NotAfter time past input)
    (mono : ∀ first second, time first ≤ time second → coarse first ≤ coarse second) :
    NotAfter coarse past input := by
  intro entry member
  exact mono entry.input input (held entry member)

theorem InOrder.notAfter {time : ι → τ} {step : ι → σ → Except ε (σ × ο)} {start : σ}
    {inputs : List ι} {input : ι} (inOrder : InOrder time (inputs ++ [input])) :
    NotAfter time (run step start inputs).past input := by
  intro entry member
  have offered := (run_inputs_sublist step start inputs).subset (List.mem_map_of_mem member)
  exact (List.pairwise_append.mp inOrder).2.2 entry.input offered input (by simp)

/-- The rule for runs whose inputs come in time order. -/
theorem run_throughout_inOrder (step : ι → σ → Except ε (σ × ο)) (start : σ)
    (invariant : List (Entry σ ι ο) → σ → Prop)
    (property : List (Entry σ ι ο) → Entry σ ι ο → Prop) (base : invariant [] start)
    (keeps : ∀ past now input after output, invariant past now → NotAfter time past input →
      step input now = .ok (after, output) →
      property past ⟨now, input, output, after⟩ ∧
        invariant (past ++ [⟨now, input, output, after⟩]) after)
    (inputs : List ι) (inOrder : InOrder time inputs) :
    Throughout property (run step start inputs).past ∧
      invariant (run step start inputs).past (run step start inputs).now := by
  induction inputs using List.reverseRecOn with
  | nil => exact ⟨throughout_nil property, base⟩
  | append_singleton inputs input ih =>
    obtain ⟨earlier, current⟩ := ih (List.pairwise_append.mp inOrder).1
    rw [run_snoc]
    cases attempt : step input (run step start inputs).now with
    | error reason =>
      rw [extend_error step _ input reason attempt]
      exact ⟨earlier, current⟩
    | ok result =>
      rw [extend_ok step _ input result.1 result.2 attempt]
      obtain ⟨atLast, next⟩ := keeps _ _ input result.1 result.2 current inOrder.notAfter attempt
      exact ⟨(throughout_snoc property _ _).mpr ⟨earlier, atLast⟩, next⟩

/-- The rule for runs whose inputs come in time order and meet `condition`. -/
theorem run_inOrder_of_meets (step : ι → σ → Except ε (σ × ο)) (start : σ)
    (invariant : List (Entry σ ι ο) → σ → Prop) (condition : σ → ι → Prop)
    (base : invariant [] start)
    (keeps : ∀ past now input after output, invariant past now → NotAfter time past input →
      condition now input → step input now = .ok (after, output) →
      invariant (past ++ [⟨now, input, output, after⟩]) after)
    (inputs : List ι) (inOrder : InOrder time inputs)
    (meets : Meets condition (run step start inputs).past) :
    invariant (run step start inputs).past (run step start inputs).now := by
  induction inputs using List.reverseRecOn with
  | nil => exact base
  | append_singleton inputs input ih =>
    have before := ih (List.pairwise_append.mp inOrder).1
    rw [run_snoc] at meets ⊢
    cases attempt : step input (run step start inputs).now with
    | error reason =>
      rw [extend_error step _ input reason attempt] at meets ⊢
      exact before meets
    | ok result =>
      rw [extend_ok step _ input result.1 result.2 attempt] at meets ⊢
      obtain ⟨earlier, last⟩ := (meets_snoc condition _ _).mp meets
      exact keeps _ _ input result.1 result.2 (before earlier) inOrder.notAfter last attempt

end Clock

/-- When an accepted step from a good state has `property` exactly if it meets `condition`, and
then leads to a good state, all steps of a run have it exactly if all of them meet it. -/
theorem run_steps_iff (step : ι → σ → Except ε (σ × ο)) (start : σ)
    (good : σ → Prop) (property : Entry σ ι ο → Prop) (condition : σ → ι → Prop)
    (base : good start)
    (exact : ∀ now input after output, good now → step input now = .ok (after, output) →
      (property ⟨now, input, output, after⟩ ↔ condition now input))
    (keeps : ∀ now input after output, good now → step input now = .ok (after, output) →
      condition now input → good after)
    (inputs : List ι) :
    (∀ entry ∈ (run step start inputs).past, property entry) ↔
      Meets condition (run step start inputs).past := by
  suffices both : ((∀ entry ∈ (run step start inputs).past, property entry) ↔
      Meets condition (run step start inputs).past) ∧
      (Meets condition (run step start inputs).past → good (run step start inputs).now)
    from both.1
  apply run_induction step start (fun past now =>
    ((∀ entry ∈ past, property entry) ↔ Meets condition past) ∧
      (Meets condition past → good now))
  · exact ⟨by simp, fun _ => base⟩
  · rintro past now input after output ⟨same, current⟩ accepted
    have split_last : (∀ entry ∈ past ++ [⟨now, input, output, after⟩], property entry) ↔
        (∀ entry ∈ past, property entry) ∧ property ⟨now, input, output, after⟩ := by
      simp only [List.mem_append, List.mem_singleton, or_imp, forall_and, forall_eq]
    rw [split_last, meets_snoc]
    refine ⟨?_, ?_⟩
    · constructor
      · rintro ⟨earlier, last⟩
        have meets := same.mp earlier
        exact ⟨meets, (exact now input after output (current meets) accepted).mp last⟩
      · rintro ⟨meets, last⟩
        exact ⟨same.mpr meets, (exact now input after output (current meets) accepted).mpr last⟩
    · rintro ⟨meets, last⟩
      exact keeps now input after output (current meets) accepted last

/-- When a good state stays good under an accepted step exactly if the step meets
`condition`, a run stays good throughout exactly if all its steps do. -/
theorem run_always_iff (step : ι → σ → Except ε (σ × ο)) (start : σ)
    (good : σ → Prop) (condition : σ → ι → Prop) (base : good start)
    (exact : ∀ now input after output, good now → step input now = .ok (after, output) →
      (good after ↔ condition now input))
    (inputs : List ι) :
    (∀ entry ∈ (run step start inputs).past, good entry.after) ↔
      Meets condition (run step start inputs).past := by
  apply run_steps_iff step start good (fun entry => good entry.after) condition base exact
  intro now input after output held accepted condition
  exact (exact now input after output held accepted).mpr condition

end BigX.Run
