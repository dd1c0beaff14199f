import Mathlib.Data.List.Basic
import Mathlib.Data.List.Perm.Basic

set_option autoImplicit false

/- Python's heapq over a comparison that may raise. A comparison that raises leaves the heap
as it is at that moment. -/
namespace BigX.Heapq

variable {α ε : Type}

def exchange (heap : List α) (i j : Nat) : List α :=
  match heap[i]?, heap[j]? with
  | some first, some second => (heap.set i second).set j first
  | _, _ => heap

@[simp] theorem exchange_length (heap : List α) (i j : Nat) :
    (exchange heap i j).length = heap.length := by
  unfold exchange
  split <;> simp

section

variable (lt : α → α → Except ε Bool)

/-- `_siftdown`: the item at `pos` moves towards the root while it is smaller than its parent. -/
def siftdown (startpos pos : Nat) (heap : List α) : List α × Option ε :=
  if _deeper : startpos < pos then
    match heap[pos]?, heap[(pos - 1) / 2]? with
    | some newitem, some parent =>
        match lt newitem parent with
        | .error raised => (heap, some raised)
        | .ok false => (heap, none)
        | .ok true => siftdown startpos ((pos - 1) / 2) (exchange heap pos ((pos - 1) / 2))
    | _, _ => (heap, none)
  else (heap, none)
termination_by pos
decreasing_by omega

/-- Whether the smaller child of `pos` is the right one. -/
def rightIsSmaller (pos : Nat) (heap : List α) : Except ε Bool :=
  match heap[2 * pos + 1]?, heap[2 * pos + 2]? with
  | some left, some right => (lt left right).map Bool.not
  | _, _ => .ok false

/-- `_siftup`: the smaller children move up until `pos` is a leaf, and its item then moves
back towards the root. -/
def siftup (startpos pos : Nat) (heap : List α) : List α × Option ε :=
  if _inner : pos < heap.length / 2 then
    match rightIsSmaller lt pos heap with
    | .error raised => (heap, some raised)
    | .ok right =>
        siftup startpos (2 * pos + 1 + right.toNat) (exchange heap pos (2 * pos + 1 + right.toNat))
  else siftdown lt startpos pos heap
termination_by heap.length - pos
decreasing_by
  rw [exchange_length]
  omega

def heappush (heap : List α) (item : α) : List α × Option ε :=
  siftdown lt 0 heap.length (heap ++ [item])

inductive PopError (ε : Type)
  | indexError
  | raised (reason : ε)

/-- The heap that is left, and what is returned or raised. -/
def heappop (heap : List α) : List α × Except (PopError ε) α :=
  match heap with
  | [] => ([], .error .indexError)
  | [lastelt] => ([], .ok lastelt)
  | returnitem :: second :: rest =>
      let lastelt := (second :: rest).getLast nofun
      match siftup lt 0 0 (lastelt :: (second :: rest).dropLast) with
      | (left, none) => (left, .ok returnitem)
      | (left, some reason) => (left, .error (.raised reason))

/-- No item of the heap is smaller than another. -/
def Tied (heap : List α) : Prop :=
  ∀ first ∈ heap, ∀ second ∈ heap, lt first second = .ok false

end

variable {lt : α → α → Except ε Bool}

theorem exchange_perm (heap : List α) (i j : Nat) : (exchange heap i j).Perm heap := by
  unfold exchange
  split
  · rename_i first second atI atJ
    obtain ⟨i_bound, rfl⟩ := List.getElem?_eq_some_iff.mp atI
    obtain ⟨j_bound, rfl⟩ := List.getElem?_eq_some_iff.mp atJ
    exact List.set_set_perm i_bound j_bound
  · exact List.Perm.refl heap

/-- What lies before both positions stays. -/
theorem exchange_before (heap : List α) {i j index : Nat} (before_i : index < i)
    (before_j : index < j) : (exchange heap i j)[index]? = heap[index]? := by
  unfold exchange
  split
  · rw [List.getElem?_set_ne (by omega), List.getElem?_set_ne (by omega)]
  · rfl

theorem Tied.perm {heap other : List α} (tied : Tied lt heap) (same : other.Perm heap) :
    Tied lt other := by
  intro first inFirst second inSecond
  exact tied first (same.subset inFirst) second (same.subset inSecond)

/-- Where no item is smaller than another, none moves towards the root. -/
theorem siftdown_tied {heap : List α} (tied : Tied lt heap) (startpos pos : Nat) :
    siftdown lt startpos pos heap = (heap, none) := by
  unfold siftdown
  split
  · split
    · rename_i newitem parent atPos atParent
      rw [tied newitem (List.mem_of_getElem? atPos) parent (List.mem_of_getElem? atParent)]
    · rfl
  · rfl

theorem heappush_tied {heap : List α} {item : α} (tied : Tied lt (heap ++ [item])) :
    heappush lt heap item = (heap ++ [item], none) :=
  siftdown_tied tied 0 heap.length

/-- A comparison with the parent that raises ends the push, and the item stays where it is. -/
theorem heappush_raised {heap : List α} {item : α} {raised : ε} (filled : heap ≠ [])
    (raises : ∀ other ∈ heap, lt item other = .error raised) :
    heappush lt heap item = (heap ++ [item], some raised) := by
  have some_item : 0 < heap.length := List.length_pos_iff.mpr filled
  have parent : (heap.length - 1) / 2 < heap.length := by omega
  unfold heappush siftdown
  rw [dif_pos some_item, List.getElem?_concat_length, List.getElem?_append_left parent,
    List.getElem?_eq_getElem parent]
  simp only [raises _ (List.getElem_mem parent)]

/-- Where no item is smaller than another, the item at `pos` trades places with items further
from the root. -/
theorem siftup_tied {heap : List α} (tied : Tied lt heap) (startpos pos : Nat) :
    ∃ left, siftup lt startpos pos heap = (left, none) ∧ left.Perm heap ∧
      ∀ index < pos, left[index]? = heap[index]? := by
  fun_induction siftup lt startpos pos heap with
  | case1 pos heap inner raised attempt =>
    simp only [rightIsSmaller] at attempt
    split at attempt
    · rename_i first second atLeft atRight
      rw [tied first (List.mem_of_getElem? atLeft) second (List.mem_of_getElem? atRight)]
        at attempt
      cases attempt
    · cases attempt
  | case2 pos heap inner right attempt ih =>
    have swapped := exchange_perm heap pos (2 * pos + 1 + right.toNat)
    obtain ⟨left, same, perm, before⟩ := ih (tied.perm swapped)
    refine ⟨left, same, perm.trans swapped, ?_⟩
    intro index earlier
    rw [before index (by omega), exchange_before heap earlier (by omega)]
  | case3 pos heap outer =>
    exact ⟨heap, siftdown_tied tied startpos pos, List.Perm.refl heap, fun _ _ => rfl⟩

theorem siftup_leaf {heap : List α} (tied : Tied lt heap) (startpos : Nat) {pos : Nat}
    (leaf : heap.length / 2 ≤ pos) : siftup lt startpos pos heap = (heap, none) := by
  rw [siftup, dif_neg (Nat.not_lt.mpr leaf)]
  exact siftdown_tied tied startpos pos

theorem heappop_of_siftup (root : α) {rest left : List α} (filled : rest ≠ [])
    (sifted : siftup lt 0 0 (rest.getLast filled :: rest.dropLast) = (left, none)) :
    heappop lt (root :: rest) = (left, .ok root) := by
  match rest with
  | [] => exact absurd rfl filled
  | [last] =>
    simp only [List.getLast_singleton, List.dropLast_singleton] at sifted
    simp only [heappop, List.getLast_singleton, List.dropLast_singleton, sifted]
  | second :: third :: others =>
    simp only [heappop]
    rw [sifted]

theorem last_first_perm {rest : List α} (filled : rest ≠ []) :
    (rest.getLast filled :: rest.dropLast).Perm rest := by
  have whole := List.dropLast_append_getLast filled
  exact (List.perm_append_singleton _ _).symm.trans (List.Perm.of_eq whole)

/-- Between equal children the right one moves up. -/
theorem siftup_root {second third : α} (compared : lt second third = .ok false) (last : α)
    (others : List α) :
    siftup lt 0 0 (last :: second :: third :: others) =
      siftup lt 0 2 (third :: second :: last :: others) := by
  have right : rightIsSmaller lt 0 (last :: second :: third :: others) = .ok true := by
    change (lt second third).map Bool.not = .ok true
    rw [compared]
    rfl
  rw [siftup, dif_pos (by simp)]
  simp only [right]
  rfl

/-- Where no item is smaller than another, the root goes first; up to two others stay in the
order of the heap, and of more the second one is the next root. -/
theorem heappop_tied {root : α} {rest : List α} (tied : Tied lt (root :: rest)) :
    ∃ left, heappop lt (root :: rest) = (left, .ok root) ∧ left.Perm rest ∧
      (rest.length ≤ 2 → left = rest) ∧ (3 ≤ rest.length → left[0]? = rest[1]?) := by
  have later : Tied lt rest := by
    intro first inFirst second inSecond
    exact tied first (List.mem_cons_of_mem root inFirst) second (List.mem_cons_of_mem root inSecond)
  match rest with
  | [] => exact ⟨[], rfl, List.Perm.refl [], fun _ => rfl, nofun⟩
  | [second] =>
    have stays : siftup lt 0 0 [second] = ([second], none) := siftup_leaf later 0 (by simp)
    have popped := heappop_of_siftup root (List.cons_ne_nil second []) stays
    exact ⟨[second], popped, List.Perm.refl _, fun _ => rfl, fun many => by simp at many⟩
  | [second, third] =>
    have stays : siftup lt 0 0 [third, second] = ([second, third], none) := by
      rw [siftup, dif_pos (by simp)]
      exact siftup_leaf later 0 (by simp)
    have popped := heappop_of_siftup root (List.cons_ne_nil second [third]) stays
    exact ⟨[second, third], popped, List.Perm.refl _, fun _ => rfl, fun many => by simp at many⟩
  | second :: third :: fourth :: others =>
    have filled := List.cons_ne_nil second (third :: fourth :: others)
    have perm := last_first_perm filled
    have compared : lt second third = .ok false := later second (by simp) third (by simp)
    have descends := siftup_root compared ((second :: third :: fourth :: others).getLast filled)
      (fourth :: others).dropLast
    have swapped : (third :: second :: (second :: third :: fourth :: others).getLast filled ::
        (fourth :: others).dropLast).Perm (second :: third :: fourth :: others) := by
      refine List.Perm.trans ?_ perm
      exact exchange_perm ((second :: third :: fourth :: others).getLast filled :: second ::
        third :: (fourth :: others).dropLast) 0 2
    obtain ⟨left, sifted, same, before⟩ := siftup_tied (later.perm swapped) 0 2
    have popped := heappop_of_siftup root filled (descends.trans sifted)
    refine ⟨left, popped, same.trans swapped, fun few => ?_, fun _ => before 0 Nat.zero_lt_two⟩
    simp at few

end BigX.Heapq
