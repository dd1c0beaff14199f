import Mathlib.Data.List.Basic
import Mathlib.Data.List.TakeDrop

set_option autoImplicit false

/- A text cut into windows that overlap, and the text put together again from them. -/
namespace BigX.Text

variable {α : Type}

/-- An index as a slice reads it: from the end if it is negative, and within the text. -/
def bound (length index : Int) : Int :=
  if index < 0 then max 0 (length + index) else min index length

/-- `text[start:stop]` -/
def slice (text : List α) (start stop : Int) : List α :=
  (text.take (bound text.length stop).toNat).drop (bound text.length start).toNat

theorem slice_min (text : List α) (start : Int) {stop : Int} (forward : 0 ≤ stop) :
    slice text start (min stop text.length) = slice text start stop := by
  have same : bound text.length (min stop text.length) = bound text.length stop := by
    unfold bound
    split <;> split <;> omega
  rw [slice, same, slice]

theorem slice_window (text : List α) (start size : Nat) :
    slice text start (start + size) = (text.drop start).take size := by
  have stop : (bound text.length (start + size)).toNat = min (start + size) text.length := by
    unfold bound
    split <;> omega
  have head : (bound text.length start).toNat = min start text.length := by
    unfold bound
    split <;> omega
  rw [slice, stop, head]
  apply List.ext_getElem?
  intro index
  rw [List.getElem?_drop, List.getElem?_take, List.getElem?_take, List.getElem?_drop]
  by_cases within : start + index < text.length
  · rw [show min start text.length + index = start + index by omega]
    by_cases short : index < size
    · rw [if_pos short, if_pos (by omega)]
    · rw [if_neg short, if_neg (by omega)]
  · rw [if_neg (by omega), List.getElem?_eq_none (by omega), ite_self]

/-- The windows of a text that begin every `step` elements. -/
def windows (size step count : Nat) (text : List α) : List (List α) :=
  (List.range count).map fun index => (text.drop (step * index)).take size

@[simp] theorem windows_zero (size step : Nat) (text : List α) :
    windows size step 0 text = [] := rfl

theorem windows_succ (size step count : Nat) (text : List α) :
    windows size step (count + 1) text =
      windows size step count text ++ [(text.drop (step * count)).take size] := by
  rw [windows, List.range_succ, List.map_append, List.map_singleton]
  rfl

theorem mem_windows {size step count : Nat} {text window : List α} :
    window ∈ windows size step count text ↔
      ∃ index < count, window = (text.drop (step * index)).take size := by
  simp only [windows, List.mem_map, List.mem_range]
  constructor
  · rintro ⟨index, below, rfl⟩
    exact ⟨index, below, rfl⟩
  · rintro ⟨index, below, rfl⟩
    exact ⟨index, below, rfl⟩

theorem mem_tail_windows {size step count : Nat} {text window : List α} :
    window ∈ (windows size step count text).tail ↔
      ∃ index, 0 < index ∧ index < count ∧ window = (text.drop (step * index)).take size := by
  rw [windows, ← List.map_tail, List.tail_range]
  simp only [List.mem_map, List.mem_range']
  constructor
  · rintro ⟨_, ⟨index, below, rfl⟩, rfl⟩
    exact ⟨1 + 1 * index, by omega, by omega, rfl⟩
  · rintro ⟨index, positive, below, rfl⟩
    exact ⟨index, ⟨index - 1, by omega, by omega⟩, rfl⟩

theorem length_le_of_mem_windows {size step count : Nat} {text window : List α}
    (member : window ∈ windows size step count text) : window.length ≤ size := by
  obtain ⟨index, _, rfl⟩ := mem_windows.mp member
  exact List.length_take_le _ _

/-- The first chunk, and each later one without what it has in common with the one before. -/
def reassemble (overlap : Nat) : List (List α) → List α
  | [] => []
  | first :: later => first ++ later.flatMap (List.drop overlap)

theorem reassemble_append (overlap : Nat) {chunks : List (List α)} (nonempty : chunks ≠ [])
    (chunk : List α) :
    reassemble overlap (chunks ++ [chunk]) = reassemble overlap chunks ++ chunk.drop overlap := by
  obtain ⟨first, later, rfl⟩ := List.exists_cons_of_ne_nil nonempty
  simp [reassemble]

theorem reassemble_windows_take (step overlap count : Nat) (text : List α) :
    reassemble overlap (windows (step + overlap) step (count + 1) text) =
      text.take (step * (count + 1) + overlap) := by
  induction count with
  | zero => simp [windows, reassemble]
  | succ count ih =>
    have nonempty : windows (step + overlap) step (count + 1) text ≠ [] := by simp [windows]
    rw [windows_succ, reassemble_append overlap nonempty, ih, List.drop_take, List.drop_drop,
      Nat.add_sub_cancel]
    have further : step * (count + 1 + 1) + overlap = step * (count + 1) + overlap + step := by
      rw [Nat.mul_succ step (count + 1)]
      omega
    rw [further]
    exact List.take_add.symm

/-- Windows that reach the end of the text make it up, whatever the overlap. -/
theorem reassemble_windows {step overlap count : Nat} {text : List α}
    (reached : text.length ≤ step * count) :
    reassemble overlap (windows (step + overlap) step count text) = text := by
  cases count with
  | zero =>
    have empty : text = [] := List.length_eq_zero_iff.mp (by omega)
    rw [empty]
    rfl
  | succ count =>
    rw [reassemble_windows_take, List.take_of_length_le (by omega)]

end BigX.Text
