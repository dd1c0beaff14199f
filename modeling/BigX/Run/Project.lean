import BigX.Run.Trace

set_option autoImplicit false

/- A machine that several parties use, of which one sees a part. Inputs that do not concern a
party leave its part alone, and those that do read nothing else. -/
namespace BigX.Run

variable {σ ι ο ε ν : Type}

/-- What was offered and what came of it. -/
def Entry.exchange (entry : Entry σ ι ο) : ι × ο := (entry.input, entry.output)

/-- The inputs of one party, by themselves, lead to the same part and the same outputs. -/
theorem run_filter (step : ι → σ → Except ε (σ × ο)) (start : σ) (concerns : ι → Bool)
    (part : σ → ν)
    (others : ∀ now input after output, concerns input = false →
      step input now = .ok (after, output) → part after = part now)
    (own : ∀ input now now', concerns input = true → part now = part now' →
      (step input now).map (Prod.map part id) = (step input now').map (Prod.map part id))
    (inputs : List ι) :
    part (run step start (inputs.filter concerns)).now = part (run step start inputs).now ∧
      (run step start (inputs.filter concerns)).past.map Entry.exchange =
        ((run step start inputs).past.filter fun entry => concerns entry.input).map
          Entry.exchange := by
  induction inputs using List.reverseRecOn with
  | nil => exact ⟨rfl, rfl⟩
  | append_singleton inputs input ih =>
    obtain ⟨now, past⟩ := ih
    rw [List.filter_append, run_snoc]
    cases concerned : concerns input with
    | false =>
      rw [List.filter_cons_of_neg (by simp [concerned]), List.filter_nil, List.append_nil]
      cases attempt : step input (run step start inputs).now with
      | error reason =>
        rw [extend_error step _ input reason attempt]
        exact ⟨now, past⟩
      | ok result =>
        rw [extend_ok step _ input result.1 result.2 attempt]
        refine ⟨now.trans (others _ input result.1 result.2 concerned attempt).symm, ?_⟩
        rw [past, List.filter_append, List.filter_cons_of_neg (by simp [concerned]),
          List.filter_nil, List.append_nil]
    | true =>
      rw [List.filter_cons_of_pos concerned, List.filter_nil, run_snoc]
      have same := own input _ _ concerned now
      cases attempt : step input (run step start inputs).now with
      | error reason =>
        rw [attempt] at same
        cases attempt' : step input (run step start (inputs.filter concerns)).now with
        | error reason' =>
          rw [extend_error step _ input reason attempt,
            extend_error step _ input reason' attempt']
          exact ⟨now, past⟩
        | ok result =>
          rw [attempt'] at same
          cases same
      | ok result =>
        rw [attempt] at same
        cases attempt' : step input (run step start (inputs.filter concerns)).now with
        | error reason' =>
          rw [attempt'] at same
          cases same
        | ok result' =>
          rw [attempt'] at same
          have equal := Except.ok.inj same
          have parts : part result'.1 = part result.1 := congrArg Prod.fst equal
          have outputs := congrArg Prod.snd equal
          rw [Prod.map_snd, Prod.map_snd, id, id] at outputs
          rw [extend_ok step _ input result.1 result.2 attempt,
            extend_ok step _ input result'.1 result'.2 attempt']
          refine ⟨parts, ?_⟩
          rw [List.map_append, past, List.filter_append, List.map_append]
          simp only [List.filter_cons, concerned, if_true, List.filter_nil, List.map_cons,
            List.map_nil, Entry.exchange, outputs]

end BigX.Run
