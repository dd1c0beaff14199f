import Mathlib.Data.List.Basic
import Mathlib.Data.List.Infix
import Mathlib.Data.List.Chain

set_option autoImplicit false

/- The matches of a pattern in a text, leftmost first and none overlapping another, and the
text with every match put between two brackets. -/
namespace BigX.Text

variable {α : Type}

/-- An element of a text, and whether a match begins or ends with it. -/
structure Mark (α : Type) where
  value : α
  opens : Bool
  closes : Bool
  deriving DecidableEq

/-- `length` is that of the match at the head of a text, `left` what is left of the match that
the text goes on with. -/
def marks (length : List α → Option Nat) (left : Nat) (text : List α) : List (Mark α) :=
  match left, text with
  | _, [] => []
  | 0, value :: rest =>
      match length (value :: rest) with
      | some size => ⟨value, true, size ≤ 1⟩ :: marks length (size - 1) rest
      | none => ⟨value, false, false⟩ :: marks length 0 rest
  | left + 1, value :: rest => ⟨value, false, left = 0⟩ :: marks length left rest

theorem marks_values (length : List α → Option Nat) (left : Nat) (text : List α) :
    (marks length left text).map Mark.value = text := by
  induction text generalizing left with
  | nil =>
    unfold marks
    rfl
  | cons value rest ih =>
    cases left with
    | succ left => rw [marks, List.map_cons, ih]
    | zero =>
      unfold marks
      split
      · rw [List.map_cons, ih]
      · rw [List.map_cons, ih]

variable (opening closing : α)

def Mark.opened (mark : Mark α) : List α :=
  if mark.opens then [opening] else []

def Mark.closed (mark : Mark α) : List α :=
  if mark.closes then [closing] else []

def wrapped (text : List (Mark α)) : List α :=
  text.flatMap fun mark => mark.opened opening ++ mark.value :: mark.closed closing

@[simp] theorem wrapped_nil : wrapped opening closing [] = [] := rfl

@[simp] theorem wrapped_cons (mark : Mark α) (text : List (Mark α)) :
    wrapped opening closing (mark :: text) =
      mark.opened opening ++ mark.value :: (mark.closed closing ++ wrapped opening closing text) := by
  simp [wrapped]

theorem wrapped_append (first second : List (Mark α)) :
    wrapped opening closing (first ++ second) =
      wrapped opening closing first ++ wrapped opening closing second :=
  List.flatMap_append

/-- Only the brackets are new in a wrapped text. -/
theorem mem_wrapped {text : List (Mark α)} {value : α}
    (member : value ∈ wrapped opening closing text) :
    value = opening ∨ value = closing ∨ value ∈ text.map Mark.value := by
  obtain ⟨mark, inside, piece⟩ := List.mem_flatMap.mp member
  rcases List.mem_append.mp piece with opened | rest
  · unfold Mark.opened at opened
    split at opened
    next => exact Or.inl (List.mem_singleton.mp opened)
    next => cases opened
  · rcases List.mem_cons.mp rest with same | closed
    · rw [same]
      exact Or.inr (Or.inr (List.mem_map_of_mem inside))
    · unfold Mark.closed at closed
      split at closed
      next => exact Or.inr (Or.inl (List.mem_singleton.mp closed))
      next => cases closed

theorem wrapped_length (text : List (Mark α)) : (wrapped opening closing text).length =
    text.length + text.countP Mark.opens + text.countP Mark.closes := by
  induction text with
  | nil => rfl
  | cons mark rest ih =>
    rw [wrapped_cons, List.length_append, List.length_cons, List.length_append, ih,
      List.length_cons, List.countP_cons, List.countP_cons]
    have opened : (mark.opened opening).length = if mark.opens then 1 else 0 := by
      unfold Mark.opened
      split <;> rfl
    have closed : (mark.closed closing).length = if mark.closes then 1 else 0 := by
      unfold Mark.closed
      split <;> rfl
    omega

/-- No match begins or ends between the elements. -/
def Joined (text : List (Mark α)) : Prop :=
  text.IsChain fun first second => first.closes = false ∧ second.opens = false

instance (text : List (Mark α)) : Decidable (Joined text) :=
  inferInstanceAs (Decidable (text.IsChain fun first second =>
    first.closes = false ∧ second.opens = false))

theorem Joined.countP_opens {mark : Mark α} {text : List (Mark α)} (joined : Joined (mark :: text)) :
    text.countP Mark.opens = 0 := by
  induction text generalizing mark with
  | nil => rfl
  | cons second rest ih =>
    obtain ⟨⟨_, unopened⟩, others⟩ := List.isChain_cons_cons.mp joined
    rw [List.countP_cons, ih others, unopened]
    rfl

/-- The brackets of what is joined stand outside. -/
theorem Joined.wrapped {mark : Mark α} {text : List (Mark α)} (joined : Joined (mark :: text)) :
    ∃ rest, mark.value :: (mark.closed closing ++ wrapped opening closing text) =
      (mark :: text).map Mark.value ++ rest := by
  induction text generalizing mark with
  | nil => exact ⟨mark.closed closing, by simp⟩
  | cons second others ih =>
    obtain ⟨⟨unclosed, unopened⟩, chain⟩ := List.isChain_cons_cons.mp joined
    obtain ⟨rest, same⟩ := ih chain
    refine ⟨rest, ?_⟩
    rw [wrapped_cons, Mark.closed, unclosed, Mark.opened, unopened, List.map_cons]
    simpa using same

variable {opening closing}

/-- A word without brackets that starts at an element of the text is made of elements of the
text that are joined. -/
theorem joined_of_prefix {word after : List α} {mark : Mark α} {text : List (Mark α)}
    (free : ∀ value ∈ word, value ≠ opening ∧ value ≠ closing) (nonempty : word ≠ [])
    (same : mark.value :: (mark.closed closing ++ wrapped opening closing text) = word ++ after) :
    ∃ inside later, text = inside ++ later ∧ (mark :: inside).map Mark.value = word ∧
      Joined (mark :: inside) := by
  induction word generalizing mark text with
  | nil => exact absurd rfl nonempty
  | cons value word ih =>
    obtain ⟨rfl, rest⟩ := List.cons.inj same
    cases word with
    | nil => exact ⟨[], text, rfl, rfl, List.isChain_singleton mark⟩
    | cons next word =>
      have unclosed : mark.closes = false := by
        rw [Bool.eq_false_iff]
        intro closes
        rw [Mark.closed, if_pos closes] at rest
        have head := (List.cons.inj rest).1
        exact (free next (List.mem_cons_of_mem _ List.mem_cons_self)).2 head.symm
      rw [Mark.closed, if_neg (by simp [unclosed]), List.nil_append] at rest
      cases text with
      | nil => cases rest
      | cons second text =>
        have unopened : second.opens = false := by
          rw [Bool.eq_false_iff]
          intro opens
          rw [wrapped_cons, Mark.opened, if_pos opens] at rest
          have head := (List.cons.inj rest).1
          exact (free next (List.mem_cons_of_mem _ List.mem_cons_self)).1 head.symm
        rw [wrapped_cons, Mark.opened, if_neg (by simp [unopened]), List.nil_append] at rest
        obtain ⟨inside, later, split, values, joined⟩ :=
          ih (fun value member => free value (List.mem_cons_of_mem _ member)) (by simp) rest
        refine ⟨second :: inside, later, by rw [split, List.cons_append], ?_, ?_⟩
        · rw [List.map_cons, values]
        · exact List.isChain_cons_cons.mpr ⟨⟨unclosed, unopened⟩, joined⟩

theorem skip_of_disjoint {skipped rest before word after : List α}
    (apart : ∀ value ∈ skipped, value ∉ word) (nonempty : word ≠ [])
    (same : skipped ++ rest = before ++ (word ++ after)) :
    ∃ further, before = skipped ++ further ∧ rest = further ++ (word ++ after) := by
  induction skipped generalizing before with
  | nil => exact ⟨before, rfl, same⟩
  | cons value skipped ih =>
    cases before with
    | nil =>
      obtain ⟨head, tail, rfl⟩ := List.exists_cons_of_ne_nil nonempty
      obtain ⟨rfl, _⟩ := List.cons.inj same
      exact absurd List.mem_cons_self (apart value List.mem_cons_self)
    | cons first before =>
      obtain ⟨rfl, shorter⟩ := List.cons.inj same
      obtain ⟨further, rfl, last⟩ :=
        ih (fun value member => apart value (List.mem_cons_of_mem _ member)) shorter
      exact ⟨further, rfl, last⟩

theorem joined_of_wrapped {word before after : List α} {text : List (Mark α)}
    (free : ∀ value ∈ word, value ≠ opening ∧ value ≠ closing) (nonempty : word ≠ [])
    (same : wrapped opening closing text = before ++ (word ++ after)) :
    ∃ earlier mark inside later, text = earlier ++ (mark :: inside) ++ later ∧
      (mark :: inside).map Mark.value = word ∧ Joined (mark :: inside) ∧
      before = wrapped opening closing earlier ++ mark.opened opening := by
  induction text generalizing before with
  | nil =>
    have empty := List.append_eq_nil_iff.mp (List.append_eq_nil_iff.mp same.symm).2
    exact absurd empty.1 nonempty
  | cons mark rest ih =>
    have opened_apart : ∀ value ∈ mark.opened opening, value ∉ word := by
      intro value member inWord
      unfold Mark.opened at member
      split at member
      · exact (free value inWord).1 (List.mem_singleton.mp member)
      · cases member
    have closed_apart : ∀ value ∈ mark.closed closing, value ∉ word := by
      intro value member inWord
      unfold Mark.closed at member
      split at member
      · exact (free value inWord).2 (List.mem_singleton.mp member)
      · cases member
    rw [wrapped_cons] at same
    obtain ⟨further, rfl, onward⟩ := skip_of_disjoint opened_apart nonempty same
    cases further with
    | nil =>
      obtain ⟨inside, later, rfl, values, joined⟩ := joined_of_prefix free nonempty onward
      exact ⟨[], mark, inside, later, rfl, values, joined, by simp⟩
    | cons value further =>
      obtain ⟨rfl, past⟩ := List.cons.inj onward
      obtain ⟨before, rfl, shorter⟩ := skip_of_disjoint closed_apart nonempty past
      obtain ⟨earlier, first, inside, later, rfl, values, joined, rfl⟩ := ih shorter
      exact ⟨mark :: earlier, first, inside, later, rfl, values, joined, by simp⟩

/-- Where `inside` ends in the wrapped text, if it is joined. -/
def stop (earlier inside : List (Mark α)) : Nat :=
  (earlier ++ inside).length + (earlier ++ inside).countP Mark.opens + earlier.countP Mark.closes

theorem stop_eq (opening closing : α) {earlier inside : List (Mark α)} {mark : Mark α}
    (joined : Joined (mark :: inside)) : stop earlier (mark :: inside) =
      (wrapped opening closing earlier ++ mark.opened opening).length +
        (mark :: inside).length := by
  have opened : (mark.opened opening).length = if mark.opens then 1 else 0 := by
    unfold Mark.opened
    split <;> rfl
  rw [stop, List.length_append, List.length_append, wrapped_length, List.countP_append,
    List.countP_cons, joined.countP_opens]
  omega

/-- A word without brackets is found within the first `bound` elements of a wrapped text
exactly if it is joined somewhere in the text and ends there. -/
theorem infix_take_wrapped_iff {word : List α} {text : List (Mark α)} {bound : Nat}
    (free : ∀ value ∈ word, value ≠ opening ∧ value ≠ closing) (nonempty : word ≠ []) :
    word <:+: (wrapped opening closing text).take bound ↔
      ∃ earlier inside later, text = earlier ++ inside ++ later ∧
        inside.map Mark.value = word ∧ Joined inside ∧ stop earlier inside ≤ bound := by
  constructor
  · rintro ⟨before, after, same⟩
    have whole : wrapped opening closing text =
        before ++ (word ++ (after ++ (wrapped opening closing text).drop bound)) := by
      calc wrapped opening closing text
          = (wrapped opening closing text).take bound ++ (wrapped opening closing text).drop bound :=
            (List.take_append_drop bound _).symm
        _ = _ := by rw [← same]; simp only [List.append_assoc]
    obtain ⟨earlier, mark, inside, later, split, values, joined, rfl⟩ :=
      joined_of_wrapped free nonempty whole
    refine ⟨earlier, mark :: inside, later, split, values, joined, ?_⟩
    have fits := congrArg List.length same
    rw [List.length_append, List.length_append, List.length_take, ← values, List.length_map] at fits
    rw [stop_eq opening closing joined]
    omega
  · rintro ⟨earlier, inside, later, rfl, rfl, joined, fits⟩
    cases inside with
    | nil => exact absurd rfl nonempty
    | cons mark inside =>
      obtain ⟨rest, same⟩ := Joined.wrapped opening closing joined
      rw [stop_eq opening closing joined] at fits
      have whole : wrapped opening closing (earlier ++ (mark :: inside) ++ later) =
          (wrapped opening closing earlier ++ mark.opened opening ++
            (mark :: inside).map Mark.value) ++ (rest ++ wrapped opening closing later) := by
        rw [wrapped_append, wrapped_append, wrapped_cons, same]
        simp only [List.append_assoc]
      rw [whole, List.take_append, List.take_of_length_le]
      · exact List.infix_append _ _ _
      · rw [List.length_append, List.length_map]
        exact fits

end BigX.Text
