import Mathlib.Data.List.Infix

set_option autoImplicit false

/- Replacing one text by another inside a text: from the left, and without overlaps. -/
namespace BigX.Text

variable {α β : Type} {head : α} {tail : List α}

/-- No occurrence of the name begins in the first text and ends in the second. -/
def Apart (name first second : List α) : Prop :=
  ∀ left right, name = left ++ right → left ≠ [] → right ≠ [] →
    left <:+ first → ¬ right <+: second

theorem Apart.of_suffix {name first second part : List α} (apart : Apart name first second)
    (suffix : part <:+ first) : Apart name part second :=
  fun left right whole hasLeft hasRight ends =>
    apart left right whole hasLeft hasRight (ends.trans suffix)

theorem Apart.of_prefix {name first second part : List α} (apart : Apart name first second)
    (begins : part <+: second) : Apart name first part :=
  fun left right whole hasLeft hasRight ends continued =>
    apart left right whole hasLeft hasRight ends (continued.trans begins)

instance [DecidableEq α] (name first second : List α) : Decidable (Apart name first second) :=
  decidable_of_iff
    (∀ cut < name.length, 0 < cut → name.take cut <:+ first → ¬ name.drop cut <+: second) (by
      constructor
      · rintro all left right rfl hasLeft hasRight ends begins
        have positive := List.length_pos_iff.mpr hasLeft
        have positive' := List.length_pos_iff.mpr hasRight
        apply all left.length
        · rw [List.length_append]
          omega
        · exact positive
        · rwa [List.take_left]
        · rwa [List.drop_left]
      · intro apart cut within positive ends begins
        apply apart _ _ (List.take_append_drop cut name).symm _ _ ends begins
        · rw [← List.length_pos_iff, List.length_take]
          omega
        · rw [← List.length_pos_iff, List.length_drop]
          omega)

theorem Apart.of_notMem_right {first second : List α} {char : α}
    (absent : char ∉ tail) : Apart (head :: tail) first (char :: second) := by
  intro left right whole hasLeft hasRight _ begins
  cases left with
  | nil => exact hasLeft rfl
  | cons front left =>
    obtain ⟨_, same⟩ := List.cons.inj whole
    cases right with
    | nil => exact hasRight rfl
    | cons next right =>
      have equal := (List.cons_prefix_cons.mp begins).1
      rw [same, ← equal] at absent
      exact absent (List.mem_append_right left List.mem_cons_self)

section Substitute

variable [DecidableEq α] {keep : α → β} {new : List β}

/-- The text with `new` in the place of each `old`; the first `skip` characters belong to a match
that is already replaced. -/
def substitute (old : List α) (keep : α → β) (new : List β) : Nat → List α → List β
  | _, [] => []
  | skip + 1, _ :: rest => substitute old keep new skip rest
  | 0, char :: rest =>
    if old <+: char :: rest then new ++ substitute old keep new (old.length - 1) rest
    else keep char :: substitute old keep new 0 rest

/-- `text.replace(old, new)`, for an `old` that is not empty. -/
def replace (old new text : List α) : List α := substitute old id new 0 text

/-- The text with a single token, `none`, in the place of each occurrence of the name. -/
def tokens (name text : List α) : List (Option α) := substitute name some [none] 0 text

theorem substitute_skip (old : List α) (skip : Nat) (text : List α) :
    substitute old keep new skip text = substitute old keep new 0 (text.drop skip) := by
  induction skip generalizing text with
  | zero => rfl
  | succ skip ih =>
    cases text with
    | nil => rfl
    | cons char rest => exact ih rest

theorem substitute_match (rest : List α) :
    substitute (head :: tail) keep new 0 (head :: tail ++ rest) =
      new ++ substitute (head :: tail) keep new 0 rest := by
  have matched : head :: tail <+: head :: (tail ++ rest) := List.prefix_append _ rest
  rw [List.cons_append, substitute, if_pos matched, substitute_skip, List.length_cons,
    Nat.add_sub_cancel, List.drop_left]

theorem substitute_unmatched {old rest : List α} {char : α} (unmatched : ¬ old <+: char :: rest) :
    substitute old keep new 0 (char :: rest) = keep char :: substitute old keep new 0 rest := by
  rw [substitute, if_neg unmatched]

/-- Nothing begins in a part that does not have the first character. -/
theorem substitute_append_of_notMem {part : List α} (absent : head ∉ part) (rest : List α) :
    substitute (head :: tail) keep new 0 (part ++ rest) =
      part.map keep ++ substitute (head :: tail) keep new 0 rest := by
  induction part with
  | nil => rfl
  | cons char part ih =>
    rw [List.mem_cons, not_or] at absent
    have unmatched : ¬ head :: tail <+: char :: (part ++ rest) := by
      intro matched
      exact absent.1 (List.cons_prefix_cons.mp matched).1
    rw [List.cons_append, substitute_unmatched unmatched, ih absent.2]
    rfl

theorem tokens_name (rest : List α) :
    tokens (head :: tail) (head :: tail ++ rest) = none :: tokens (head :: tail) rest :=
  substitute_match rest

theorem tokens_char {char : α} {rest : List α} (unmatched : ¬ head :: tail <+: char :: rest) :
    tokens (head :: tail) (char :: rest) = some char :: tokens (head :: tail) rest :=
  substitute_unmatched unmatched

/-- Induction along a text as it is read: a whole occurrence of the name, or a character where none
begins. -/
theorem reading (head : α) (tail : List α) {motive : List α → Prop} (nil : motive [])
    (name : ∀ rest, motive rest → motive (head :: tail ++ rest))
    (char : ∀ char rest, ¬ head :: tail <+: char :: rest → motive rest → motive (char :: rest))
    (text : List α) : motive text := by
  induction size : text.length using Nat.strongRecOn generalizing text with
  | ind size ih =>
    subst size
    cases text with
    | nil => exact nil
    | cons first rest =>
      by_cases matched : head :: tail <+: first :: rest
      · obtain ⟨later, same⟩ := matched
        rw [← same] at ih ⊢
        apply name later
        apply ih later.length _ later rfl
        rw [List.length_append, List.length_cons]
        omega
      · exact char first rest matched (ih rest.length (Nat.lt_succ_self _) rest rfl)

/-- Two texts that no occurrence of the name joins are read one after the other. -/
theorem tokens_append {first second : List α} (apart : Apart (head :: tail) first second) :
    tokens (head :: tail) (first ++ second) =
      tokens (head :: tail) first ++ tokens (head :: tail) second := by
  induction first using reading head tail with
  | nil => rfl
  | name rest ih =>
    have continued := ih (apart.of_suffix (List.suffix_append _ rest))
    rw [List.append_assoc, tokens_name, tokens_name, continued, List.cons_append]
  | char char rest matched ih =>
    have unmatched : ¬ head :: tail <+: char :: (rest ++ second) := by
      intro longer
      rcases List.prefix_or_prefix_of_prefix longer (List.prefix_append (char :: rest) second)
        with inside | ⟨right, whole⟩
      · exact matched inside
      · have nonempty : right ≠ [] := by
          rintro rfl
          rw [List.append_nil] at whole
          exact matched (whole ▸ List.prefix_refl _)
        rw [← whole, ← List.cons_append, List.prefix_append_right_inj] at longer
        exact apart (char :: rest) right whole.symm (List.cons_ne_nil _ _) nonempty
          (List.suffix_refl _) longer
    have continued := ih (apart.of_suffix (List.suffix_cons char rest))
    rw [List.cons_append, tokens_char unmatched, tokens_char matched, continued, List.cons_append]

end Substitute

end BigX.Text
