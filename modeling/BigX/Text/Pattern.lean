import BigX.Text.Wrap

set_option autoImplicit false

/- Patterns that look at nothing behind their match, and the first match in a text. -/
namespace BigX.Text

variable {α : Type}

/-- Whether there is a match at the head of a text is seen from the match alone. -/
structure Local (length : List α → Option Nat) : Prop where
  append : ∀ {text : List α} {size : Nat}, length text = some size →
    ∀ rest, length (text ++ rest) = some size
  bounds : ∀ {text : List α} {size : Nat}, length text = some size →
    0 < size ∧ size ≤ text.length
  take : ∀ {text : List α} {size : Nat}, length text = some size →
    length (text.take size) = some size

/-- No match begins anywhere in the text. -/
def Unmatched (length : List α → Option Nat) (text : List α) : Prop :=
  ∀ part, part <:+ text → length part = none

/-- What stands before the first match in a text, and the text from the match on. -/
def splitFirst (length : List α → Option Nat) : List α → List α × List α
  | [] => ([], [])
  | value :: rest =>
    if (length (value :: rest)).isSome then ([], value :: rest)
    else (value :: (splitFirst length rest).1, (splitFirst length rest).2)

variable {length : List α → Option Nat} {text : List α}

theorem Local.nil (isLocal : Local length) : length [] = none := by
  cases found : length [] with
  | none => rfl
  | some size =>
    have bounds := isLocal.bounds found
    simp only [List.length_nil] at bounds
    omega

/-- A match in a text is one in the text with more behind it. -/
theorem Local.unmatched_of_append (isLocal : Local length) {rest : List α}
    (unmatched : Unmatched length (text ++ rest)) : Unmatched length text := by
  intro part suffix
  cases found : length part with
  | none => rfl
  | some size =>
    obtain ⟨earlier, rfl⟩ := suffix
    have matched := isLocal.append found rest
    rw [unmatched (part ++ rest) ⟨earlier, by simp⟩] at matched
    cases matched

theorem Unmatched.suffix {part : List α} (unmatched : Unmatched length text)
    (suffix : part <:+ text) : Unmatched length part :=
  fun shorter shorterSuffix => unmatched shorter (shorterSuffix.trans suffix)

theorem Local.unmatched_infix (isLocal : Local length) {part : List α}
    (unmatched : Unmatched length text) (inside : part <:+: text) : Unmatched length part := by
  obtain ⟨earlier, later, rfl⟩ := inside
  have shorter := isLocal.unmatched_of_append unmatched
  exact shorter.suffix (List.suffix_append earlier part)

/-- A text is without a match exactly if each of its parts is. -/
theorem Local.unmatched_iff_infix (isLocal : Local length) :
    Unmatched length text ↔ ∀ part, part <:+: text → length part = none := by
  constructor
  · intro unmatched part inside
    exact isLocal.unmatched_infix unmatched inside part (List.suffix_refl part)
  · intro all part suffix
    exact all part suffix.isInfix

/-- Two patterns that never match the same text, one tried after the other. -/
theorem Local.or {first second : List α → Option Nat} (isLocal : Local first)
    (isLocal' : Local second)
    (exclusive : ∀ text, first text = none ∨ second text = none) :
    Local fun text => first text <|> second text := by
  have either : ∀ {text : List α} {size : Nat},
      (first text <|> second text) = some size ↔
        first text = some size ∨ second text = some size := by
    intro text size
    rcases exclusive text with none | none
    · simp [none]
    · cases found : first text with
      | none => simp [none]
      | some other => simp [none]
  constructor
  · intro text size found rest
    apply either.mpr
    exact (either.mp found).imp (fun found => isLocal.append found rest)
      fun found => isLocal'.append found rest
  · intro text size found
    exact (either.mp found).elim isLocal.bounds isLocal'.bounds
  · intro text size found
    apply either.mpr
    exact (either.mp found).imp isLocal.take isLocal'.take

theorem splitFirst_append (length : List α → Option Nat) (text : List α) :
    (splitFirst length text).1 ++ (splitFirst length text).2 = text := by
  induction text with
  | nil => rfl
  | cons value rest ih =>
    rw [splitFirst]
    split
    next => rfl
    next => exact congrArg (value :: ·) ih

/-- No match begins before the first one. -/
theorem splitFirst_before {part : List α} (suffix : part <:+ (splitFirst length text).1)
    (nonempty : part ≠ []) : length (part ++ (splitFirst length text).2) = none := by
  induction text with
  | nil =>
    have empty : part = [] := List.suffix_nil.mp suffix
    exact (nonempty empty).elim
  | cons value rest ih =>
    rw [splitFirst] at suffix ⊢
    split at suffix
    next =>
      have empty : part = [] := List.suffix_nil.mp suffix
      exact (nonempty empty).elim
    next unmatched =>
      rw [if_neg unmatched]
      rcases List.suffix_cons_iff.mp suffix with same | shorter
      · rw [same, List.cons_append, splitFirst_append]
        simpa using unmatched
      · exact ih shorter

theorem splitFirst_match (length : List α → Option Nat) (text : List α) :
    (splitFirst length text).2 = [] ∨ ∃ size, length (splitFirst length text).2 = some size := by
  induction text with
  | nil => exact Or.inl rfl
  | cons value rest ih =>
    rw [splitFirst]
    split
    next matched => exact Or.inr (Option.isSome_iff_exists.mp matched)
    next => exact ih

theorem Local.unmatched_iff (isLocal : Local length) :
    Unmatched length text ↔ (splitFirst length text).2 = [] := by
  have whole := splitFirst_append length text
  constructor
  · intro unmatched
    rcases splitFirst_match length text with empty | ⟨size, found⟩
    · exact empty
    · rw [unmatched _ ⟨(splitFirst length text).1, whole⟩] at found
      cases found
  · intro empty part suffix
    rw [empty, List.append_nil] at whole
    by_cases nonempty : part = []
    · rw [nonempty, isLocal.nil]
    · have none := splitFirst_before (whole.symm ▸ suffix) nonempty
      rw [empty, List.append_nil] at none
      exact none

section Wrapped

variable (opening closing : α)

theorem wrapped_marks_left (length : List α → Option Nat) {left : Nat} (positive : 0 < left)
    {text : List α} (fits : left ≤ text.length) :
    wrapped opening closing (marks length left text) =
      text.take left ++ closing :: wrapped opening closing (marks length 0 (text.drop left)) := by
  induction left generalizing text with
  | zero => exact absurd positive (Nat.lt_irrefl 0)
  | succ left ih =>
    cases text with
    | nil => cases fits
    | cons value rest =>
      rw [marks, wrapped_cons]
      cases left with
      | zero => rfl
      | succ left =>
        rw [ih (Nat.succ_pos left) (Nat.le_of_succ_le_succ fits)]
        rfl

theorem wrapped_marks_unmatched {value : α} {rest : List α}
    (unmatched : length (value :: rest) = none) :
    wrapped opening closing (marks length 0 (value :: rest)) =
      value :: wrapped opening closing (marks length 0 rest) := by
  rw [marks, unmatched, wrapped_cons]
  rfl

theorem Local.wrapped_marks_match (isLocal : Local length) {size : Nat}
    (found : length text = some size) :
    wrapped opening closing (marks length 0 text) =
      opening :: (text.take size ++
        closing :: wrapped opening closing (marks length 0 (text.drop size))) := by
  obtain ⟨positive, fits⟩ := isLocal.bounds found
  cases text with
  | nil =>
    rw [isLocal.nil] at found
    cases found
  | cons value rest =>
    rw [marks, found, wrapped_cons]
    obtain ⟨size, rfl⟩ : ∃ less, size = less + 1 := ⟨size - 1, by omega⟩
    cases size with
    | zero => rfl
    | succ size =>
      have later : size + 1 ≤ rest.length := Nat.le_of_succ_le_succ fits
      rw [Nat.add_sub_cancel, wrapped_marks_left opening closing length (Nat.succ_pos size) later]
      rfl

/-- A text up to its first match is left as it is. -/
theorem wrapped_marks_first (length : List α → Option Nat) (text : List α) :
    wrapped opening closing (marks length 0 text) = (splitFirst length text).1 ++
      wrapped opening closing (marks length 0 (splitFirst length text).2) := by
  induction text with
  | nil => rfl
  | cons value rest ih =>
    rw [splitFirst]
    split
    next => rfl
    next unmatched =>
      rw [wrapped_marks_unmatched opening closing (by simpa using unmatched), ih]
      rfl

/-- Nothing is put into a text without a match. -/
theorem Local.wrapped_marks_of_unmatched (isLocal : Local length)
    (unmatched : Unmatched length text) :
    wrapped opening closing (marks length 0 text) = text := by
  have empty := isLocal.unmatched_iff.mp unmatched
  have whole := splitFirst_append length text
  rw [empty, List.append_nil] at whole
  rw [wrapped_marks_first, empty, whole]
  exact List.append_nil text

/-- What is left of a wrapped text that is cut inside its first match, or before. -/
def cutFirst (opening : α) (bound : Nat) (before rest : List α) : List α :=
  before.take bound ++
    if before.length < bound then (opening :: rest).take (bound - before.length) else []

theorem Local.take_wrapped_marks (isLocal : Local length) {bound size : Nat}
    (found : length (splitFirst length text).2 = some size)
    (cut : bound < (splitFirst length text).1.length + 1 + size) :
    (wrapped opening closing (marks length 0 text)).take bound =
      cutFirst opening bound (splitFirst length text).1 (splitFirst length text).2 := by
  have bounds := isLocal.bounds found
  rw [wrapped_marks_first, isLocal.wrapped_marks_match opening closing found, cutFirst,
    List.take_append]
  congr 1
  split
  next shorter =>
    obtain ⟨more, same⟩ : ∃ more, bound - (splitFirst length text).1.length = more + 1 :=
      ⟨bound - (splitFirst length text).1.length - 1, by omega⟩
    rw [same, List.take_succ_cons, List.take_succ_cons, List.take_append_of_le_length]
    · rw [List.take_take, Nat.min_eq_left (by omega)]
    · rw [List.length_take]
      omega
  next longer =>
    rw [Nat.sub_eq_zero_of_le (Nat.le_of_not_lt longer), List.take_zero]

end Wrapped

end BigX.Text
