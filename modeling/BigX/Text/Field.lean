import Mathlib.Data.List.Basic

set_option autoImplicit false

/- Texts put together of fields with a separator between them, and what numerals add to that. -/
namespace BigX.Text

variable {α : Type}

/-- A text that is split at a separator in two ways is split at the same one, or at one of the
others of its first field, or of its second. -/
theorem split_cases {separator : α} {front front' last last' : List α}
    (same : front ++ separator :: last = front' ++ separator :: last') :
    front = front' ∧ last = last' ∨
      (∃ middle, front = front' ++ separator :: middle ∧ last' = middle ++ separator :: last) ∨
      ∃ middle, front' = front ++ separator :: middle ∧ last = middle ++ separator :: last' := by
  rcases List.append_eq_append_iff.mp same with ⟨extra, longer, rest⟩ | ⟨extra, longer, rest⟩
  · cases extra with
    | nil =>
      simp only [List.append_nil, List.nil_append, List.cons.injEq, true_and] at longer rest
      exact Or.inl ⟨longer.symm, rest⟩
    | cons value extra =>
      simp only [List.cons_append, List.cons.injEq] at rest
      obtain ⟨rfl, rest⟩ := rest
      exact Or.inr (Or.inr ⟨extra, longer, rest⟩)
  · cases extra with
    | nil =>
      simp only [List.append_nil, List.nil_append, List.cons.injEq, true_and] at longer rest
      exact Or.inl ⟨longer, rest.symm⟩
    | cons value extra =>
      simp only [List.cons_append, List.cons.injEq] at rest
      obtain ⟨rfl, rest⟩ := rest
      exact Or.inr (Or.inl ⟨extra, longer, rest⟩)

/-- The first separator tells where the first field ends. -/
theorem first_field_inj {separator : α} {front front' last last' : List α}
    (same : front ++ separator :: last = front' ++ separator :: last')
    (absent : separator ∉ front) (absent' : separator ∉ front') :
    front = front' ∧ last = last' := by
  rcases split_cases same with equal | ⟨middle, rfl, _⟩ | ⟨middle, rfl, _⟩
  · exact equal
  · exact absurd (List.mem_append_right _ List.mem_cons_self) absent
  · exact absurd (List.mem_append_right _ List.mem_cons_self) absent'

/-- The last separator tells where the last field begins. -/
theorem last_field_inj {separator : α} {front front' last last' : List α}
    (same : front ++ separator :: last = front' ++ separator :: last')
    (absent : separator ∉ last) (absent' : separator ∉ last') :
    front = front' ∧ last = last' := by
  rcases split_cases same with equal | ⟨middle, _, rfl⟩ | ⟨middle, _, rfl⟩
  · exact equal
  · exact absurd (List.mem_append_right _ List.mem_cons_self) absent'
  · exact absurd (List.mem_append_right _ List.mem_cons_self) absent

theorem numeral_inj {first second : Nat} (same : first.repr.toList = second.repr.toList) :
    first = second := by
  rw [Nat.toList_repr, Nat.toList_repr] at same
  rw [← Nat.ofDigitChars_ten_toDigits (n := first), same, Nat.ofDigitChars_ten_toDigits]

/-- A numeral has digits only. -/
theorem not_mem_numeral {separator : Char} (noDigit : separator.isDigit = false) (number : Nat) :
    separator ∉ number.repr.toList := by
  intro member
  rw [Nat.toList_repr] at member
  have digit := Nat.isDigit_of_mem_toDigits (by decide) (by decide) member
  rw [noDigit] at digit
  cases digit

section Split

variable [DecidableEq α]

/-- `text.split(separator, limit)` -/
def split (separator : α) : (limit : Nat) → List α → List (List α)
  | 0, text => [text]
  | limit + 1, text =>
    match text.dropWhile (· ≠ separator) with
    | [] => [text]
    | _ :: rest => text.takeWhile (· ≠ separator) :: split separator limit rest

theorem split_field {separator : α} {field : List α} (absent : separator ∉ field) (limit : Nat)
    (rest : List α) :
    split separator (limit + 1) (field ++ separator :: rest) =
      field :: split separator limit rest := by
  have others : ∀ value ∈ field, decide (value ≠ separator) = true := by
    intro value member
    exact decide_eq_true fun same => absent (same ▸ member)
  rw [split, List.dropWhile_append_of_pos others, List.takeWhile_append_of_pos others]
  simp

end Split

end BigX.Text
