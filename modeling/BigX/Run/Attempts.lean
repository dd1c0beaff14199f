import Mathlib.Order.Basic

set_option autoImplicit false

/- A loop that makes one attempt after the other until one of them does not go on, and how
many of the attempts it made were hits. -/
namespace BigX.Run

variable (hits goesOn : Nat → Bool)

/-- The hits among the attempts from `attempt` on, `remaining` of them left. -/
def hitCount : (attempt remaining : Nat) → Nat
  | _, 0 => 0
  | attempt, remaining + 1 =>
      (if hits attempt then 1 else 0) +
        if goesOn attempt then hitCount (attempt + 1) remaining else 0

/-- The attempt is made by a loop that starts with `start`. -/
def Made (start attempt : Nat) : Prop :=
  ∀ earlier, start ≤ earlier → earlier < attempt → goesOn earlier = true

variable {hits goesOn}

theorem made_self (start : Nat) : Made goesOn start start := by
  intro earlier lower upper
  omega

/-- What is made after the first attempt is made by the loop that the first leads to. -/
theorem made_succ_iff {start attempt : Nat} (later : start < attempt) :
    Made goesOn start attempt ↔ goesOn start = true ∧ Made goesOn (start + 1) attempt := by
  constructor
  · intro made
    refine ⟨made start (Nat.le_refl start) later, ?_⟩
    intro earlier lower upper
    exact made earlier (by omega) upper
  · rintro ⟨first, made⟩ earlier lower upper
    by_cases same : earlier = start
    · rw [same]
      exact first
    · exact made earlier (by omega) upper

/-- Attempts that all lead on to the next are followed by those that come after them. -/
theorem hitCount_add {start first : Nat} (rest : Nat)
    (made : Made goesOn start (start + first)) :
    hitCount hits goesOn start (first + rest) =
      hitCount hits goesOn start first + hitCount hits goesOn (start + first) rest := by
  induction first generalizing start with
  | zero => simp [hitCount]
  | succ first ih =>
    have split := (made_succ_iff (by omega)).mp made
    have shifted : start + (first + 1) = start + 1 + first := by omega
    rw [shifted] at split ⊢
    rw [Nat.add_right_comm first 1 rest, hitCount, hitCount, if_pos split.1, if_pos split.1,
      ih split.2]
    omega

/-- Nothing is added by what comes after an attempt that is the last. -/
theorem hitCount_add_stopped {start first : Nat} (rest : Nat)
    (stopped : ¬ Made goesOn start (start + first)) :
    hitCount hits goesOn start (first + rest) = hitCount hits goesOn start first := by
  induction first generalizing start with
  | zero => exact absurd (made_self start) stopped
  | succ first ih =>
    rw [made_succ_iff (by omega)] at stopped
    rw [Nat.add_right_comm first 1 rest, hitCount, hitCount]
    by_cases goes : goesOn start = true
    · have later : ¬ Made goesOn (start + 1) (start + 1 + first) := by
        intro made
        have shifted : start + 1 + first = start + (first + 1) := by omega
        exact stopped ⟨goes, shifted ▸ made⟩
      rw [if_pos goes, if_pos goes, ih later]
    · rw [if_neg goes, if_neg goes]

/-- No attempt is counted twice. -/
theorem hitCount_le (start remaining : Nat) : hitCount hits goesOn start remaining ≤ remaining := by
  induction remaining generalizing start with
  | zero => exact Nat.le_refl 0
  | succ remaining ih =>
    have later := ih (start + 1)
    unfold hitCount
    split <;> split <;> omega

theorem hitCount_pos_iff (start remaining : Nat) :
    0 < hitCount hits goesOn start remaining ↔
      ∃ attempt, start ≤ attempt ∧ attempt < start + remaining ∧ hits attempt = true ∧
        Made goesOn start attempt := by
  induction remaining generalizing start with
  | zero =>
    constructor
    · intro positive
      exact absurd positive (Nat.lt_irrefl 0)
    · rintro ⟨attempt, lower, upper, -, -⟩
      omega
  | succ remaining ih =>
    unfold hitCount
    by_cases hit : hits start = true
    · refine iff_of_true ?_ ⟨start, Nat.le_refl start, by omega, hit, made_self start⟩
      rw [if_pos hit]
      omega
    · rw [if_neg hit, Nat.zero_add]
      have later : ∀ attempt, hits attempt = true → start ≤ attempt → start < attempt := by
        intro attempt struck lower
        rcases Nat.lt_or_eq_of_le lower with after | same
        · exact after
        · exact absurd (same ▸ struck) hit
      by_cases goes : goesOn start = true
      · rw [if_pos goes, ih]
        constructor
        · rintro ⟨attempt, lower, upper, struck, made⟩
          exact ⟨attempt, by omega, by omega, struck,
            (made_succ_iff (by omega)).mpr ⟨goes, made⟩⟩
        · rintro ⟨attempt, lower, upper, struck, made⟩
          have after := later attempt struck lower
          exact ⟨attempt, after, by omega, struck, ((made_succ_iff after).mp made).2⟩
      · rw [if_neg goes]
        refine iff_of_false (Nat.lt_irrefl 0) ?_
        rintro ⟨attempt, lower, upper, struck, made⟩
        exact goes ((made_succ_iff (later attempt struck lower)).mp made).1

/-- There is more than one hit exactly if an attempt that is made after a hit is one too. -/
theorem hitCount_le_one_iff (start remaining : Nat) :
    hitCount hits goesOn start remaining ≤ 1 ↔
      ¬ ∃ first second, start ≤ first ∧ first < second ∧ second < start + remaining ∧
        hits first = true ∧ hits second = true ∧ Made goesOn start second := by
  induction remaining generalizing start with
  | zero =>
    refine iff_of_true (Nat.zero_le 1) ?_
    rintro ⟨first, second, lower, between, upper, -⟩
    omega
  | succ remaining ih =>
    unfold hitCount
    by_cases goes : goesOn start = true
    · rw [if_pos goes]
      by_cases hit : hits start = true
      · rw [if_pos hit]
        have none_later : 1 + hitCount hits goesOn (start + 1) remaining ≤ 1 ↔
            ¬ 0 < hitCount hits goesOn (start + 1) remaining := by omega
        rw [none_later, hitCount_pos_iff, not_iff_not]
        constructor
        · rintro ⟨second, lower, upper, struck, made⟩
          exact ⟨start, second, Nat.le_refl start, lower, by omega, hit, struck,
            (made_succ_iff lower).mpr ⟨goes, made⟩⟩
        · rintro ⟨first, second, lower, between, upper, -, struck, made⟩
          exact ⟨second, by omega, by omega, struck, ((made_succ_iff (by omega)).mp made).2⟩
      · rw [if_neg hit, Nat.zero_add, ih, not_iff_not]
        constructor
        · rintro ⟨first, second, lower, between, upper, struck, again, made⟩
          exact ⟨first, second, by omega, between, by omega, struck, again,
            (made_succ_iff (by omega)).mpr ⟨goes, made⟩⟩
        · rintro ⟨first, second, lower, between, upper, struck, again, made⟩
          have after : first ≠ start := fun same => hit (same ▸ struck)
          exact ⟨first, second, by omega, between, by omega, struck, again,
            ((made_succ_iff (by omega)).mp made).2⟩
    · rw [if_neg goes]
      refine iff_of_true (by split <;> omega) ?_
      rintro ⟨first, second, lower, between, upper, -, -, made⟩
      exact goes ((made_succ_iff (by omega)).mp made).1

end BigX.Run
