import BigX.Run.Trace

set_option autoImplicit false

/- The last entry of a kind: what it wrote is still there, and what nothing changed since is
as it was then. -/
namespace BigX.Run

variable {σ ι ο α β : Type}

/-- The last entry that `marks`. -/
def latest (marks : Entry σ ι ο → Bool) (past : List (Entry σ ι ο)) : Option (Entry σ ι ο) :=
  past.reverse.find? marks

/-- The entries after it, newest first. -/
def since (marks : Entry σ ι ο → Bool) (past : List (Entry σ ι ο)) : List (Entry σ ι ο) :=
  past.reverse.takeWhile fun entry => !marks entry

theorem latest_snoc (marks : Entry σ ι ο → Bool) (past : List (Entry σ ι ο))
    (last : Entry σ ι ο) :
    latest marks (past ++ [last]) = if marks last then some last else latest marks past := by
  cases marked : marks last <;> simp [latest, marked]

theorem since_snoc (marks : Entry σ ι ο → Bool) (past : List (Entry σ ι ο))
    (last : Entry σ ι ο) :
    since marks (past ++ [last]) = if marks last then [] else last :: since marks past := by
  cases marked : marks last <;> simp [since, marked]

/-- The past around the last entry that `marks`. -/
theorem latest_split {marks : Entry σ ι ο → Bool} {past : List (Entry σ ι ο)}
    {record : Entry σ ι ο} (found : latest marks past = some record) :
    marks record = true ∧ (∀ passed ∈ since marks past, marks passed = false) ∧
      ∃ earlier, past.reverse = since marks past ++ record :: earlier := by
  obtain ⟨marked, after, earlier, whole, unmarked⟩ := List.find?_eq_some_iff_append.mp found
  have these : since marks past = after := by
    rw [since, whole, List.takeWhile_append_of_pos unmarked]
    simp [marked]
  rw [these]
  exact ⟨marked, fun passed member => by simpa using unmarked passed member, earlier, whole⟩

/-- When nothing of a wider kind came since, the last of this kind is the last of that one. -/
theorem latest_of_quiet {marks wider : Entry σ ι ο → Bool} {past : List (Entry σ ι ο)}
    {record : Entry σ ι ο} (found : latest marks past = some record)
    (wide : wider record = true) (quiet : ∀ passed ∈ since marks past, wider passed = false) :
    latest wider past = some record := by
  obtain ⟨_, _, earlier, whole⟩ := latest_split found
  apply List.find?_eq_some_iff_append.mpr
  exact ⟨wide, since marks past, earlier, whole, fun passed member => by simp [quiet passed member]⟩

/-- Otherwise the last of that kind is one that came since. -/
theorem latest_of_passed {marks wider : Entry σ ι ο → Bool} {past : List (Entry σ ι ο)}
    {record passed : Entry σ ι ο} (found : latest marks past = some record)
    (member : passed ∈ since marks past) (wide : wider passed = true) :
    ∃ newer ∈ since marks past, latest wider past = some newer := by
  obtain ⟨_, _, earlier, whole⟩ := latest_split found
  have some_wide : ((since marks past).find? wider).isSome := by
    rw [List.find?_isSome]
    exact ⟨passed, member, wide⟩
  obtain ⟨newer, first⟩ := Option.isSome_iff_exists.mp some_wide
  refine ⟨newer, List.mem_of_find?_eq_some first, ?_⟩
  rw [latest, whole, List.find?_append, first]
  rfl

/-- `value` is what the last entry that `writes` wrote, or what it was in the beginning. -/
def LastWritten (writes : Entry σ ι ο → Option α) (value : σ → α) (start : α)
    (past : List (Entry σ ι ο)) (now : σ) : Prop :=
  match latest (fun entry => (writes entry).isSome) past with
  | some record => writes record = some (value now)
  | none => value now = start

theorem LastWritten.snoc {writes : Entry σ ι ο → Option α} {value : σ → α} {start : α}
    {past : List (Entry σ ι ο)} (last : Entry σ ι ο)
    (held : LastWritten writes value start past last.before)
    (written : value last.after = (writes last).getD (value last.before)) :
    LastWritten writes value start (past ++ [last]) last.after := by
  unfold LastWritten
  rw [latest_snoc]
  cases wrote : writes last with
  | none =>
    rw [wrote] at written
    rw [if_neg (by simp), show value last.after = value last.before from written]
    exact held
  | some new =>
    rw [wrote] at written
    rw [if_pos Option.isSome_some]
    exact wrote.trans (congrArg some written.symm)

/-- With no change of `quantity` since the last entry that `marks`, it is what it was then. -/
def KeptSince (marks : Entry σ ι ο → Bool) (quantity : σ → β) (past : List (Entry σ ι ο))
    (now : σ) : Prop :=
  ∀ record, latest marks past = some record →
    (∀ passed ∈ since marks past, quantity passed.after = quantity passed.before) →
    quantity now = quantity record.after

theorem KeptSince.snoc {marks : Entry σ ι ο → Bool} {quantity : σ → β}
    {past : List (Entry σ ι ο)} (last : Entry σ ι ο)
    (held : KeptSince marks quantity past last.before) :
    KeptSince marks quantity (past ++ [last]) last.after := by
  intro record recorded kept
  rw [latest_snoc] at recorded
  rw [since_snoc] at kept
  cases marked : marks last with
  | true =>
    rw [if_pos marked] at recorded
    cases recorded
    rfl
  | false =>
    have unmarked : ¬ marks last = true := by simp [marked]
    rw [if_neg unmarked] at recorded
    rw [if_neg unmarked, List.forall_mem_cons] at kept
    have before := held record recorded kept.2
    exact kept.1.trans before

end BigX.Run
