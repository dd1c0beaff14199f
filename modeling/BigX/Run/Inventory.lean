import Mathlib.Data.List.Perm.Basic

set_option autoImplicit false

/- Items that are accepted under consecutive numbers and then kept in some place or other. A
step takes some of them out of their places, puts down what it keeps of them, and accepts at most
one more; what it does not put down is in no place any more. -/
namespace BigX.Run

variable {α : Type}

structure Inventory (α : Type) where
  accepted : List (Nat × α)
  places : List (Nat × α)
  next : Nat

namespace Inventory

/-- What is in a place was accepted, and is in no other one. -/
structure Sound (inventory : Inventory α) : Prop where
  named : inventory.places ⊆ inventory.accepted
  once : inventory.places.Nodup
  bound : ∀ item ∈ inventory.accepted, item.1 < inventory.next

/-- Everything that was accepted is in some place. -/
def Complete (inventory : Inventory α) : Prop := inventory.accepted ⊆ inventory.places

structure Takes (now mid : Inventory α) (taken : List (Nat × α)) : Prop where
  places : now.places.Perm (mid.places ++ taken)
  accepted : mid.accepted = now.accepted
  next : mid.next = now.next

structure Puts (mid after : Inventory α) (gained added : List (Nat × α)) : Prop where
  places : after.places.Perm (mid.places ++ gained ++ added)
  accepted : after.accepted = mid.accepted ++ added
  numbered : added = [] ∧ after.next = mid.next ∨
    ∃ item, added = [(mid.next, item)] ∧ after.next = mid.next + 1

variable {now mid after : Inventory α} {taken gained added more lost : List (Nat × α)}

theorem Takes.nothing (inventory : Inventory α) : Takes inventory inventory [] :=
  ⟨by rw [List.append_nil], rfl, rfl⟩

theorem Puts.nothing (inventory : Inventory α) : Puts inventory inventory [] [] :=
  ⟨by rw [List.append_nil, List.append_nil], (List.append_nil _).symm, Or.inl ⟨rfl, rfl⟩⟩

theorem Sound.empty (next : Nat) : Sound (⟨[], [], next⟩ : Inventory α) where
  named := List.nil_subset []
  once := List.Pairwise.nil
  bound := by
    rintro item ⟨⟩

/-- An earlier part of a step, which puts nothing anywhere. -/
theorem Puts.onward (next : Puts mid after gained added) (puts : Puts now mid [] []) :
    Puts now after gained added where
  places := by
    have first := puts.places
    rw [List.append_nil, List.append_nil] at first
    exact next.places.trans ((first.append_right gained).append_right added)
  accepted := by rw [next.accepted, puts.accepted, List.append_nil]
  numbered := by
    rcases puts.numbered with ⟨-, same⟩ | ⟨item, new, -⟩
    · rw [← same]
      exact next.numbered
    · cases new

/-- A later part of a step, which accepts nothing. -/
theorem Puts.further (puts : Puts now mid gained added) (next : Puts mid after more []) :
    Puts now after (gained ++ more) added where
  places := by
    have last := next.places
    rw [List.append_nil] at last
    calc after.places
        _ |>.Perm (mid.places ++ more) := last
        _ |>.Perm (now.places ++ gained ++ added ++ more) := puts.places.append_right more
        _ |>.Perm (now.places ++ (gained ++ more) ++ added) := by
          simp only [List.append_assoc]
          exact (List.perm_append_comm.append_left gained).append_left now.places
  accepted := by rw [next.accepted, puts.accepted, List.append_nil]
  numbered := by
    rcases next.numbered with ⟨-, same⟩ | ⟨item, new, -⟩
    · rw [same]
      exact puts.numbered
    · cases new

/-- Nothing but what is lost leaves the places. -/
theorem Puts.all_places (puts : Puts mid after gained added) (takes : Takes now mid taken)
    (split : taken.Perm (gained ++ lost)) :
    (after.places ++ lost).Perm (now.places ++ added) := by
  calc after.places ++ lost
      _ |>.Perm (mid.places ++ gained ++ added ++ lost) := puts.places.append_right lost
      _ |>.Perm (mid.places ++ gained ++ lost ++ added) := by
        rw [List.append_assoc _ added lost, List.append_assoc _ lost added]
        exact List.perm_append_comm.append_left _
      _ = mid.places ++ (gained ++ lost) ++ added := by rw [List.append_assoc mid.places]
      _ |>.Perm (mid.places ++ taken ++ added) := (split.symm.append_left _).append_right _
      _ |>.Perm (now.places ++ added) := takes.places.symm.append_right _

theorem Puts.nodup (puts : Puts mid after gained added) (takes : Takes now mid taken)
    (sound : Sound now) : (now.places ++ added).Nodup := by
  rcases puts.numbered with ⟨rfl, -⟩ | ⟨item, rfl, -⟩
  · rw [List.append_nil]
    exact sound.once
  · refine List.nodup_append.mpr ⟨sound.once, List.pairwise_singleton _ _, ?_⟩
    rintro placed member new last rfl
    have bound := sound.bound placed (sound.named member)
    rw [List.mem_singleton.mp last, takes.next] at bound
    exact absurd bound (Nat.lt_irrefl _)

theorem Sound.step (sound : Sound now) (takes : Takes now mid taken)
    (puts : Puts mid after gained added) (split : taken.Perm (gained ++ lost)) :
    Sound after := by
  have all := puts.all_places takes split
  constructor
  · intro item member
    rw [puts.accepted, takes.accepted]
    rcases List.mem_append.mp (all.subset (List.mem_append_left _ member)) with old | new
    · exact List.mem_append_left _ (sound.named old)
    · exact List.mem_append_right _ new
  · exact (List.nodup_append.mp (all.nodup_iff.mpr (puts.nodup takes sound))).1
  · intro item member
    rw [puts.accepted, takes.accepted] at member
    rcases puts.numbered with ⟨rfl, same⟩ | ⟨text, rfl, next⟩
    · rw [List.append_nil] at member
      rw [same, takes.next]
      exact sound.bound item member
    · rw [next, takes.next]
      rcases List.mem_append.mp member with old | new
      · exact Nat.lt_succ_of_lt (sound.bound item old)
      · rw [List.mem_singleton.mp new, takes.next]
        exact Nat.lt_succ_self _

/-- All that is in hand is put somewhere. -/
theorem Complete.kept (before : Complete now) (takes : Takes now mid taken)
    (puts : Puts mid after taken added) : Complete after := by
  have all : (after.places ++ []).Perm (now.places ++ added) :=
    puts.all_places takes (by rw [List.append_nil])
  rw [List.append_nil] at all
  intro item member
  rw [puts.accepted, takes.accepted] at member
  rw [all.mem_iff]
  rcases List.mem_append.mp member with old | new
  · exact List.mem_append_left _ (before old)
  · exact List.mem_append_right _ new

/-- What is in hand is put nowhere. -/
theorem Sound.not_complete_dropped (sound : Sound now) (takes : Takes now mid taken)
    (puts : Puts mid after [] added) (something : taken ≠ []) : ¬ Complete after := by
  have all := puts.all_places takes (List.Perm.refl ([] ++ taken))
  intro complete
  obtain ⟨item, member⟩ := List.exists_mem_of_ne_nil taken something
  have held : item ∈ now.places :=
    takes.places.mem_iff.mpr (List.mem_append_right _ member)
  have accepted : item ∈ after.accepted := by
    rw [puts.accepted, takes.accepted]
    exact List.mem_append_left _ (sound.named held)
  have apart := List.nodup_append.mp (all.nodup_iff.mpr (puts.nodup takes sound))
  exact apart.2.2 item (complete accepted) item member rfl

end Inventory

end BigX.Run
