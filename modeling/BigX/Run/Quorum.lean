import BigX.Run.Tally

set_option autoImplicit false

/- Votes of a changing set of members. A ballot that ends inside a vote is open only
while a member is left who has not voted, and can be carried only while enough are. -/
namespace BigX.Run

variable {α : Type}

/-- The members who have not voted. -/
def absent (members voters : α → Bool) : α → Bool :=
  fun account => members account && !voters account

theorem absent_eq_true (members voters : α → Bool) (account : α) :
    absent members voters account = true ↔ members account = true ∧ voters account = false := by
  simp [absent]

theorem absent_voted [DecidableEq α] (members voters : α → Bool) (account : α) :
    absent members (Function.update voters account true) =
      Function.update (absent members voters) account false := by
  funext other
  by_cases same : other = account
  · subst same
    simp [absent]
  · simp [absent, same]

/-- Enough members are left to carry a ballot that has `votes` of the `required` votes,
and at least one, since only a new vote can carry it. -/
def Carriable (members voters : α → Bool) (votes required : Nat) : Prop :=
  max 1 (required - votes) ≤ tally (absent members voters)

variable [Finite α]

theorem exists_of_tally_pos {mapping : α → Bool} (positive : 0 < tally mapping) :
    ∃ account, mapping account = true := by
  by_contra none_marked
  have empty : ∀ account, mapping account = false := by
    intro account
    by_contra held
    exact none_marked ⟨account, by simpa using held⟩
  have zero := (tally_eq_zero mapping).mpr empty
  omega

/-- Each member has voted or is absent. -/
theorem tally_members_le (members voters : α → Bool) :
    tally members ≤ tally (absent members voters) + tally voters := by
  have covered : marked members ⊆ marked (absent members voters) ∪ marked voters := by
    intro account member
    cases voted : voters account with
    | true => exact Or.inr voted
    | false => exact Or.inl ((absent_eq_true members voters account).mpr ⟨member, voted⟩)
  have bound := Set.ncard_le_ncard covered (Set.toFinite _)
  have union := Set.ncard_union_le (marked (absent members voters)) (marked voters)
  simp only [tally]
  omega

/-- A ballot with fewer votes than members has an absent member. -/
theorem exists_absent_of_short (members voters : α → Bool)
    (short : tally voters < tally members) :
    ∃ account, members account = true ∧ voters account = false := by
  have split_members := tally_members_le members voters
  obtain ⟨account, held⟩ := exists_of_tally_pos
    (show 0 < tally (absent members voters) by omega)
  exact ⟨account, (absent_eq_true members voters account).mp held⟩

theorem Carriable.exists_absent {members voters : α → Bool} {votes required : Nat}
    (carriable : Carriable members voters votes required) :
    ∃ account, members account = true ∧ voters account = false := by
  have some_absent : 0 < tally (absent members voters) :=
    lt_of_lt_of_le Nat.one_pos (le_trans (Nat.le_max_left _ _) carriable)
  obtain ⟨account, held⟩ := exists_of_tally_pos some_absent
  exact ⟨account, (absent_eq_true members voters account).mp held⟩

/-- Where the votes are counted and the threshold is within the members, one absent
member is as good as enough of them. -/
theorem carriable_iff (members voters : α → Bool) (votes required : Nat)
    (counted : votes = tally voters) (within : required ≤ tally members) :
    Carriable members voters votes required ↔
      ∃ account, members account = true ∧ voters account = false := by
  constructor
  · exact Carriable.exists_absent
  · rintro ⟨account, member, unvoted⟩
    have some_absent := tally_pos (absent members voters) account
      ((absent_eq_true members voters account).mpr ⟨member, unvoted⟩)
    have split_members := tally_members_le members voters
    apply Nat.max_le.mpr
    constructor
    · exact some_absent
    · omega

variable [DecidableEq α]

/-- A vote that does not carry the ballot leaves it one that can be carried. -/
theorem Carriable.vote {members voters : α → Bool} {votes required : Nat}
    (carriable : Carriable members voters votes required) (account : α)
    (member : members account = true) (unvoted : voters account = false)
    (short : votes + 1 < required) :
    Carriable members (Function.update voters account true) (votes + 1) required := by
  have missing := (absent_eq_true members voters account).mpr ⟨member, unvoted⟩
  have fewer := tally_unmark (absent members voters) account missing
  have enough : required - votes ≤ tally (absent members voters) :=
    le_trans (Nat.le_max_right _ _) carriable
  rw [Carriable, absent_voted]
  apply Nat.max_le.mpr
  constructor
  · omega
  · omega

/-- A ballot that can be carried is carried by members who vote one after the other, when
each vote is taken and either carries it or leaves it `underway` with one vote more. -/
theorem Carriable.carried {σ ε : Type} (vote : σ → α → Except ε σ) (members : α → Bool)
    (required : Nat) (underway : σ → (α → Bool) → Nat → Prop) (carried : σ → Prop)
    (taken : ∀ state voters votes account, underway state voters votes →
      members account = true → voters account = false →
      ∃ after, vote state account = .ok after ∧
        (votes + 1 < required → underway after (Function.update voters account true) (votes + 1)) ∧
        (required ≤ votes + 1 → carried after))
    (state : σ) (voters : α → Bool) (votes : Nat) (started : underway state voters votes)
    (carriable : Carriable members voters votes required) :
    ∃ (accounts : List α) (after : σ), (∀ account ∈ accounts, members account = true) ∧
      accounts.foldlM vote state = .ok after ∧ carried after := by
  induction missing : required - votes using Nat.strong_induction_on
    generalizing state voters votes with
  | _ missing ih =>
    obtain ⟨account, member, unvoted⟩ := carriable.exists_absent
    obtain ⟨next, accepted, more, reached⟩ :=
      taken state voters votes account started member unvoted
    by_cases short : votes + 1 < required
    · obtain ⟨accounts, after, only_members, all, carried_after⟩ :=
        ih (required - (votes + 1)) (by omega) next _ (votes + 1) (more short)
          (carriable.vote account member unvoted short) rfl
      refine ⟨account :: accounts, after, ?_, ?_, carried_after⟩
      · intro other among
        rcases List.mem_cons.mp among with rfl | later
        · exact member
        · exact only_members other later
      · rw [List.foldlM_cons, accepted]
        exact all
    · refine ⟨[account], next, ?_, ?_, reached (by omega)⟩
      · intro other same
        rw [List.mem_singleton.mp same]
        exact member
      · rw [List.foldlM_cons, accepted]
        rfl

end BigX.Run
