import Mathlib.Data.Fintype.Card
import Mathlib.Logic.Relation

set_option autoImplicit false

/- Relations without cycles, and what changing the links from one place, or the links to one
place, does to them. -/
namespace BigX.Links

open Relation Function

variable {α : Type}

/-- No place leads back to itself. -/
def Acyclic (link : α → α → Prop) : Prop :=
  ∀ place, ¬ TransGen link place place

theorem acyclic_swap (link : α → α → Prop) : Acyclic (swap link) ↔ Acyclic link := by
  simp only [Acyclic, transGen_swap]

/-- A way that leads to a place can be taken up to the first time it gets there. -/
theorem reflTransGen_until {before after : α → α → Prop} {changed : α}
    (kept : ∀ from_ next, from_ ≠ changed → before from_ next → after from_ next) {start : α}
    (way : ReflTransGen before start changed) : ReflTransGen after start changed := by
  induction way using ReflTransGen.head_induction_on with
  | refl => exact .refl
  | @head from_ next first _ ih =>
    by_cases there : from_ = changed
    · subst there
      exact .refl
    · exact .head (kept from_ next there first) ih

/-- With other links from one place, a way is an old one or passes through that place. -/
theorem transGen_redirected {before after : α → α → Prop} {changed : α}
    (kept : ∀ from_ next, from_ ≠ changed → after from_ next → before from_ next)
    {start finish : α} (way : TransGen after start finish) :
    TransGen before start finish ∨ ReflTransGen before start changed ∧
      ∃ target, after changed target ∧ ReflTransGen before target finish := by
  induction way with
  | @single next link =>
    by_cases there : start = changed
    · subst there
      exact .inr ⟨.refl, next, link, .refl⟩
    · exact .inl (.single (kept start next there link))
  | @tail middle next _ link ih =>
    by_cases there : middle = changed
    · subst there
      rcases ih with old | ⟨reaches, -⟩
      · exact .inr ⟨old.to_reflTransGen, next, link, .refl⟩
      · exact .inr ⟨reaches, next, link, .refl⟩
    · have last := kept middle next there link
      rcases ih with old | ⟨reaches, target, linked, onward⟩
      · exact .inl (old.tail last)
      · exact .inr ⟨reaches, target, linked, onward.tail last⟩

/-- Other links from one place close no cycle exactly if none of them goes to a place that
led there. -/
theorem acyclic_redirected_iff {before after : α → α → Prop} (changed : α)
    (kept : ∀ from_ next, from_ ≠ changed → (after from_ next ↔ before from_ next))
    (acyclic : Acyclic before) :
    Acyclic after ↔ ∀ target, after changed target → ¬ ReflTransGen before target changed := by
  constructor
  · intro held target linked way
    have back := reflTransGen_until (fun from_ next other => (kept from_ next other).mpr) way
    exact held changed (.head' linked back)
  · intro open_ place cycle
    rcases transGen_redirected (fun from_ next other => (kept from_ next other).mp) cycle with
      old | ⟨reaches, target, linked, onward⟩
    · exact acyclic place old
    · exact open_ target linked (onward.trans reaches)

/-- The same for the links to one place. -/
theorem acyclic_readmitted_iff {before after : α → α → Prop} (changed : α)
    (kept : ∀ from_ next, next ≠ changed → (after from_ next ↔ before from_ next))
    (acyclic : Acyclic before) :
    Acyclic after ↔ ∀ source, after source changed → ¬ ReflTransGen before changed source := by
  have swapped : Acyclic (swap after) ↔
      ∀ source, swap after changed source → ¬ ReflTransGen (swap before) source changed :=
    acyclic_redirected_iff changed (fun next from_ other => kept from_ next other)
      ((acyclic_swap before).mpr acyclic)
  rw [acyclic_swap] at swapped
  simpa only [reflTransGen_swap, swap] using swapped

/-- Among finitely many places without a cycle, every way comes to an end. -/
theorem Acyclic.exists_end [Finite α] {link : α → α → Prop} (held : Acyclic link) (start : α) :
    ∃ finish, ReflTransGen link start finish ∧ ∀ next, ¬ link finish next := by
  have irreflexive : Std.Irrefl (swap (TransGen link)) := ⟨held⟩
  have transitive : IsTrans α (swap (TransGen link)) := ⟨fun _ _ _ first second => second.trans first⟩
  have founded := Finite.wellFounded_of_trans_of_irrefl (swap (TransGen link))
  induction start using founded.induction with
  | _ start ih =>
    by_cases ends : ∀ next, ¬ link start next
    · exact ⟨start, .refl, ends⟩
    · rw [not_forall_not] at ends
      obtain ⟨next, first⟩ := ends
      obtain ⟨finish, way, last⟩ := ih next (.single first)
      exact ⟨finish, .head first way, last⟩

end BigX.Links
