import Mathlib.Algebra.BigOperators.Group.List.Basic
import Mathlib.Algebra.GroupWithZero.Nat
import Mathlib.Data.List.Perm.Subperm
import Mathlib.Order.Bounds.Basic
import BigX.Run.Trace

set_option autoImplicit false

/- A meter that is reset lazily: it remembers the day of its last charge and is read
as zero on any other day. For charges in order it reads the true sum of the day. -/
namespace BigX.Run

variable {Day Amount : Type}

structure Charge (Day Amount : Type) where
  day : Day
  amount : Amount

structure Meter (Day Amount : Type) where
  total : Amount
  day : Day

variable [LinearOrder Day] [AddCommMonoid Amount]

/-- What the meter shows on `today`, without writing the reset. -/
def Meter.read (meter : Meter Day Amount) (today : Day) : Amount :=
  if meter.day = today then meter.total else 0

/-- Reset if the day has changed, then add. -/
def Meter.charge (meter : Meter Day Amount) (today : Day) (amount : Amount) :
    Meter Day Amount :=
  ⟨meter.read today + amount, today⟩

/-- The true sum of the charges made on `today`. -/
def sumOn (charges : List (Charge Day Amount)) (today : Day) : Amount :=
  ((charges.filter (fun charge => charge.day = today)).map Charge.amount).sum

@[simp] theorem sumOn_nil (today : Day) :
    sumOn ([] : List (Charge Day Amount)) today = 0 := rfl

theorem sumOn_snoc (charges : List (Charge Day Amount)) (last : Charge Day Amount)
    (today : Day) :
    sumOn (charges ++ [last]) today =
      sumOn charges today + if last.day = today then last.amount else 0 := by
  by_cases same : last.day = today
  · simp [sumOn, same]
  · simp [sumOn, same]

/-- No charge falls on a day after all of them. -/
theorem sumOn_future (charges : List (Charge Day Amount)) (today : Day)
    (past : ∀ charge ∈ charges, charge.day < today) : sumOn charges today = 0 := by
  have none_today : charges.filter (fun charge => charge.day = today) = [] := by
    rw [List.filter_eq_nil_iff]
    intro charge member
    simpa using (past charge member).ne
  simp only [sumOn, none_today, List.map_nil, List.sum_nil]

/-- When every item of `first` has an item of `second` of its own, `second` charges no less. -/
theorem sumOn_le_of_count_le {Item : Type} [DecidableEq Item] (charge : Item → Charge Day Nat)
    (first second : List Item)
    (counts : ∀ item ∈ first, first.count item ≤ second.count item) (today : Day) :
    sumOn (first.map charge) today ≤ sumOn (second.map charge) today := by
  have same : (first ++ second.diff first).Perm second :=
    List.subperm_append_diff_self_of_count_le counts
  have total : sumOn ((first ++ second.diff first).map charge) today =
      sumOn (second.map charge) today :=
    (((same.map charge).filter _).map Charge.amount).sum_eq
  have parts : sumOn ((first ++ second.diff first).map charge) today =
      sumOn (first.map charge) today + sumOn ((second.diff first).map charge) today := by
    simp only [sumOn, List.map_append, List.filter_append, List.sum_append]
  omega

/-- The days that were charged, all of them at or after `origin`. -/
def chargedDays (origin : Day) (charges : List (Charge Day Amount)) : Set Day :=
  {day | day = origin ∨ ∃ charge ∈ charges, charge.day = day}

/-- The meter stands on the last charged day (or still on its first day `origin`) and
holds the sum of that day. -/
structure Tracks (origin : Day) (meter : Meter Day Amount)
    (charges : List (Charge Day Amount)) : Prop where
  latest : IsGreatest (chargedDays origin charges) meter.day
  total : meter.total = sumOn charges meter.day

theorem tracks_new (origin : Day) : Tracks origin (⟨0, origin⟩ : Meter Day Amount) [] := by
  refine ⟨⟨Or.inl rfl, ?_⟩, rfl⟩
  rintro day (rfl | ⟨charge, member, _⟩)
  · exact le_refl _
  · cases member

theorem Tracks.day_le {origin : Day} {meter : Meter Day Amount}
    {charges : List (Charge Day Amount)} (tracks : Tracks origin meter charges) (today : Day)
    (started : origin ≤ today) (past : ∀ charge ∈ charges, charge.day ≤ today) :
    meter.day ≤ today := by
  rcases tracks.latest.1 with same | ⟨charge, member, same⟩
  · rw [same]
    exact started
  · rw [← same]
    exact past charge member

/-- From the last charge on, the lazy reading is the true sum of the day. -/
theorem Tracks.read_eq {origin : Day} {meter : Meter Day Amount}
    {charges : List (Charge Day Amount)} (tracks : Tracks origin meter charges) (today : Day)
    (reached : meter.day ≤ today) : meter.read today = sumOn charges today := by
  unfold Meter.read
  split
  · rename_i same
    rw [tracks.total, same]
  · rename_i different
    have later : meter.day < today := lt_of_le_of_ne reached different
    refine (sumOn_future charges today ?_).symm
    intro charge member
    exact lt_of_le_of_lt (tracks.latest.2 (Or.inr ⟨charge, member, rfl⟩)) later

/-- Along a run whose inputs are charged on their own day, the meter can be read for the
next input. -/
theorem Tracks.reading {σ ι ο : Type} {origin : Day} {meter : Meter Day Amount}
    (day : ι → Day) (chargesOf : Entry σ ι ο → List (Charge Day Amount))
    {past : List (Entry σ ι ο)} {input : ι}
    (tracks : Tracks origin meter (past.flatMap chargesOf))
    (ownDay : ∀ entry, ∀ charge ∈ chargesOf entry, charge.day = day entry.input)
    (reached : NotAfter day past input) (started : origin ≤ day input) :
    meter.day ≤ day input ∧
      meter.read (day input) = sumOn (past.flatMap chargesOf) (day input) := by
  have day_le : meter.day ≤ day input := by
    apply tracks.day_le (day input) started
    intro charge member
    obtain ⟨entry, inPast, charged⟩ := List.mem_flatMap.mp member
    rw [ownDay entry charge charged]
    exact reached entry inPast
  exact ⟨day_le, tracks.read_eq (day input) day_le⟩

theorem Tracks.charge {origin : Day} {meter : Meter Day Amount}
    {charges : List (Charge Day Amount)} (tracks : Tracks origin meter charges) (today : Day)
    (amount : Amount) (reached : meter.day ≤ today) :
    Tracks origin (meter.charge today amount) (charges ++ [⟨today, amount⟩]) := by
  refine ⟨⟨Or.inr ⟨⟨today, amount⟩, by simp, rfl⟩, ?_⟩, ?_⟩
  · rintro day (rfl | ⟨charge, member, rfl⟩)
    · exact le_trans (tracks.latest.2 (Or.inl rfl)) reached
    · rcases List.mem_append.mp member with earlier | last
      · exact le_trans (tracks.latest.2 (Or.inr ⟨charge, earlier, rfl⟩)) reached
      · cases List.mem_singleton.mp last
        exact le_refl _
  · simp only [Meter.charge, sumOn_snoc, ↓reduceIte, tracks.read_eq today reached]

end BigX.Run
