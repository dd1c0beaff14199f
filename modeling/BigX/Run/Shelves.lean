import Mathlib.Data.Set.Function
import Mathlib.Order.Interval.Set.Defs
import Mathlib.Data.List.Nodup
import Mathlib.Logic.Function.Basic

set_option autoImplicit false

/- Lists kept in slots, one list for each key, with a single index that says in which slot
an item is. An item is added behind the last one; it is removed by moving the last one into
its slot. -/
namespace BigX.Run

variable {κ ι α : Type} {place : Nat → ι} {slots : κ → ι → α} {index : α → ι}
  {lists : κ → List α}

/-- The lists that the slots hold. `place` is the slot of each position. -/
structure Shelved (place : Nat → ι) (slots : κ → ι → α) (index : α → ι)
    (lists : κ → List α) : Prop where
  nodup : ∀ key, (lists key).Nodup
  apart : ∀ key other item, item ∈ lists key → item ∈ lists other → key = other
  slot : ∀ key position item, (lists key)[position]? = some item →
    slots key (place position) = item
  indexed : ∀ key position item, (lists key)[position]? = some item → index item = place position

/-- Empty lists need no slots. -/
theorem shelved_empty : Shelved place slots index fun _ => [] where
  nodup := fun _ => List.nodup_nil
  apart := fun _ _ _ found => by cases found
  slot := fun _ _ _ found => by cases found
  indexed := fun _ _ _ found => by cases found

/-- The list with its last item in place of the one at some position. -/
def swapPop (items : List α) (position : Nat) (last : α) : List α :=
  (items.set position last).dropLast

/-- Only the item at the position is gone. -/
theorem swapPop_perm {items : List α} {position : Nat} {item last : α}
    (here : items[position]? = some item) (final : items[items.length - 1]? = some last) :
    items.Perm (item :: swapPop items position last) := by
  obtain ⟨within, at_position⟩ := List.getElem?_eq_some_iff.mp here
  have parts : items = items.take position ++ item :: items.drop (position + 1) := by
    rw [← at_position, List.getElem_cons_drop, List.take_append_drop]
  have length : (items.take position).length = position := by
    rw [List.length_take]
    omega
  generalize items.take position = front at parts length
  generalize items.drop (position + 1) = back at parts
  subst length parts
  rw [swapPop, List.set_append_right _ _ le_rfl, Nat.sub_self, List.set_cons_zero]
  rcases List.eq_nil_or_concat' back with rfl | ⟨others, found, rfl⟩
  · rw [List.dropLast_concat]
    exact List.perm_append_singleton item front
  · have same : found = last := by
      rw [← List.getLast?_eq_getElem?, ← List.cons_append, ← List.append_assoc,
        List.getLast?_concat] at final
      exact Option.some.inj final
    subst same
    have kept : (front ++ found :: (others ++ [found])).dropLast = front ++ found :: others := by
      rw [← List.cons_append, ← List.append_assoc, List.dropLast_concat]
    rw [kept]
    have moved : (front ++ (others ++ [found])).Perm (front ++ found :: others) :=
      (List.perm_append_singleton found others).append_left front
    exact List.perm_middle.trans (moved.cons item)

/-- The item at a position of what is left was there before, or is the last one, moved. -/
theorem swapPop_getElem? {items : List α} {position : Nat} {last : α} {asked : Nat} {found : α}
    (inside : (swapPop items position last)[asked]? = some found) :
    asked < items.length - 1 ∧
      ((asked = position ∧ found = last) ∨ (asked ≠ position ∧ items[asked]? = some found)) := by
  rw [swapPop, List.getElem?_dropLast, List.length_set] at inside
  split at inside
  · rename_i before
    refine ⟨before, ?_⟩
    rw [List.getElem?_set] at inside
    split at inside
    · rename_i same
      split at inside
      · exact Or.inl ⟨same.symm, (Option.some.inj inside).symm⟩
      · cases inside
    · rename_i other
      exact Or.inr ⟨fun same => other same.symm, inside⟩
  · cases inside

/-- The item at a position after one more was there before, or is the new one. -/
theorem concat_getElem? {items : List α} {item : α} {asked : Nat} {found : α}
    (inside : (items ++ [item])[asked]? = some found) :
    (asked = items.length ∧ found = item) ∨
      (asked < items.length ∧ items[asked]? = some found) := by
  have within := (List.getElem?_eq_some_iff.mp inside).1
  rw [List.length_append, List.length_singleton] at within
  rcases Nat.lt_succ_iff_lt_or_eq.mp within with before | rfl
  · rw [List.getElem?_append_left before] at inside
    exact Or.inr ⟨before, inside⟩
  · rw [List.getElem?_concat_length] at inside
    exact Or.inl ⟨rfl, (Option.some.inj inside).symm⟩

variable [DecidableEq κ] [DecidableEq ι] [DecidableEq α]

/-- An item of no list, written behind the last one of some list. -/
theorem Shelved.push (held : Shelved place slots index lists) (key : κ) (item : α)
    (absent : ∀ other, item ∉ lists other)
    (distinct : Set.InjOn place (Set.Iic (lists key).length)) :
    Shelved place
      (Function.update slots key (Function.update (slots key) (place (lists key).length) item))
      (Function.update index item (place (lists key).length))
      (Function.update lists key (lists key ++ [item])) where
  nodup := by
    intro other
    by_cases same : other = key
    · subst same
      rw [Function.update_self]
      exact List.Nodup.append (held.nodup other) (List.nodup_singleton item)
        (List.disjoint_singleton.mpr (absent other))
    · rw [Function.update_of_ne same]
      exact held.nodup other
  apart := by
    have here : ∀ other found, found ∈ Function.update lists key (lists key ++ [item]) other →
        found ∈ lists other ∨ (other = key ∧ found = item) := by
      intro other found inside
      by_cases same : other = key
      · subst same
        rw [Function.update_self, List.mem_append, List.mem_singleton] at inside
        exact inside.imp_right fun equal => ⟨rfl, equal⟩
      · rw [Function.update_of_ne same] at inside
        exact Or.inl inside
    intro first second found inFirst inSecond
    rcases here first found inFirst with old | ⟨same, equal⟩
    · rcases here second found inSecond with old' | ⟨same', equal'⟩
      · exact held.apart first second found old old'
      · rw [equal'] at old
        exact absurd old (absent first)
    · rcases here second found inSecond with old' | ⟨same', equal'⟩
      · rw [equal] at old'
        exact absurd old' (absent second)
      · rw [same, same']
  slot := by
    intro other position found inside
    by_cases same : other = key
    · subst same
      rw [Function.update_self] at inside ⊢
      rcases concat_getElem? inside with ⟨rfl, rfl⟩ | ⟨before, kept⟩
      · rw [Function.update_self]
      · have elsewhere : place position ≠ place (lists other).length := by
          intro equal
          exact before.ne (distinct (Set.mem_Iic.mpr before.le) (Set.mem_Iic.mpr le_rfl) equal)
        rw [Function.update_of_ne elsewhere]
        exact held.slot other position found kept
    · rw [Function.update_of_ne same] at inside ⊢
      exact held.slot other position found inside
  indexed := by
    intro other position found inside
    by_cases same : other = key
    · subst same
      rw [Function.update_self] at inside
      rcases concat_getElem? inside with ⟨rfl, rfl⟩ | ⟨_, kept⟩
      · rw [Function.update_self]
      · have old : found ≠ item := by
          intro equal
          exact absent other (equal ▸ List.mem_of_getElem? kept)
        rw [Function.update_of_ne old]
        exact held.indexed other position found kept
    · rw [Function.update_of_ne same] at inside
      have old : found ≠ item := by
        intro equal
        exact absent other (equal ▸ List.mem_of_getElem? inside)
      rw [Function.update_of_ne old]
      exact held.indexed other position found inside

/-- An item of one of the lists, taken out of it. -/
theorem Shelved.pull (held : Shelved place slots index lists) (key : κ) (position : Nat)
    (item last blank : α) (zero : ι) (here : (lists key)[position]? = some item)
    (final : (lists key)[(lists key).length - 1]? = some last)
    (distinct : Set.InjOn place (Set.Iio (lists key).length)) :
    Shelved place
      (Function.update slots key (Function.update
        (Function.update (slots key) (place position) last)
        (place ((lists key).length - 1)) blank))
      (Function.update (Function.update index last (place position)) item zero)
      (Function.update lists key (swapPop (lists key) position last)) := by
  have perm := swapPop_perm here final
  have whole := perm.nodup_iff.mp (held.nodup key)
  obtain ⟨gone, nodup⟩ := List.nodup_cons.mp whole
  have old : ∀ found ∈ swapPop (lists key) position last, found ∈ lists key :=
    fun found inside => perm.mem_iff.mpr (List.mem_cons_of_mem item inside)
  have own : item ∈ lists key := List.mem_of_getElem? here
  have own_last : last ∈ lists key := List.mem_of_getElem? final
  have was : ∀ other found, found ∈ Function.update lists key (swapPop (lists key) position last)
      other → found ∈ lists other := by
    intro other found inside
    by_cases same : other = key
    · subst same
      rw [Function.update_self] at inside
      exact old found inside
    · rwa [Function.update_of_ne same] at inside
  refine ⟨?_, ?_, ?_, ?_⟩
  · intro other
    by_cases same : other = key
    · subst same
      rw [Function.update_self]
      exact nodup
    · rw [Function.update_of_ne same]
      exact held.nodup other
  · intro first second found inFirst inSecond
    exact held.apart first second found (was first found inFirst) (was second found inSecond)
  · intro other asked found inside
    by_cases same : other = key
    · subst same
      rw [Function.update_self] at inside ⊢
      obtain ⟨before, moved⟩ := swapPop_getElem? inside
      have within : asked < (lists other).length := by omega
      have not_last : place asked ≠ place ((lists other).length - 1) := by
        intro equal
        have positions := distinct (Set.mem_Iio.mpr within)
          (Set.mem_Iio.mpr (by omega : (lists other).length - 1 < (lists other).length)) equal
        omega
      rw [Function.update_of_ne not_last]
      rcases moved with ⟨rfl, rfl⟩ | ⟨elsewhere, kept⟩
      · rw [Function.update_self]
      · have not_here : place asked ≠ place position := by
          intro equal
          have occupied := (List.getElem?_eq_some_iff.mp here).1
          exact elsewhere (distinct (Set.mem_Iio.mpr within) (Set.mem_Iio.mpr occupied) equal)
        rw [Function.update_of_ne not_here]
        exact held.slot other asked found kept
    · rw [Function.update_of_ne same] at inside ⊢
      exact held.slot other asked found inside
  · intro other asked found inside
    by_cases same : other = key
    · subst same
      rw [Function.update_self] at inside
      have other_item : found ≠ item := by
        rintro rfl
        exact gone (List.mem_of_getElem? inside)
      rw [Function.update_of_ne other_item]
      obtain ⟨before, moved⟩ := swapPop_getElem? inside
      rcases moved with ⟨rfl, rfl⟩ | ⟨elsewhere, kept⟩
      · rw [Function.update_self]
      · have not_last : found ≠ last := by
          rintro rfl
          have positions := (List.getElem?_inj (by omega) (held.nodup other)).mp
            (kept.trans final.symm)
          omega
        rw [Function.update_of_ne not_last]
        exact held.indexed other asked found kept
    · rw [Function.update_of_ne same] at inside
      have member := List.mem_of_getElem? inside
      have other_item : found ≠ item := by
        rintro rfl
        exact same (held.apart other key found member own)
      have other_last : found ≠ last := by
        rintro rfl
        exact same (held.apart other key found member own_last)
      rw [Function.update_of_ne other_item, Function.update_of_ne other_last]
      exact held.indexed other asked found inside

end BigX.Run
