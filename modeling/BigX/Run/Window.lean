import Mathlib.Data.List.Basic
import Mathlib.Data.List.Induction
import Mathlib.Data.List.MinMax
import Mathlib.Data.List.Nodup
import Mathlib.Data.List.Perm.Subperm
import Mathlib.Data.List.Range

set_option autoImplicit false

/- Limits in a window of time. A sliding window lets items through one after the other, each with
fewer than `limit` earlier ones that are recent to it, so of items that are all recent to one
another there are no more than `limit`. A fixed window grants by a counter that starts over: a
period begins with its first count, its end is set at some moment after that, `width` later, and
in one period no value is granted twice, the first one when the end is set. So a span of `width`
meets two periods at most, and where it meets two it has missed the first grant of the earlier
one. -/
namespace BigX.Run

section Sliding

variable {α : Type}

/-- Each item comes after fewer than `limit` items that are recent to it. -/
def Paced (recent : α → α → Bool) (limit : Nat) (items : List α) : Prop :=
  ∀ earlier item later, items = earlier ++ item :: later →
    earlier.countP (recent item) < limit

theorem paced_nil (recent : α → α → Bool) (limit : Nat) : Paced recent limit [] := by
  intro earlier item later same
  cases earlier <;> cases same

theorem paced_snoc {recent : α → α → Bool} {limit : Nat} {items : List α} (last : α) :
    Paced recent limit (items ++ [last]) ↔
      Paced recent limit items ∧ items.countP (recent last) < limit := by
  constructor
  · intro paced
    refine ⟨?_, paced items last [] rfl⟩
    rintro earlier item later rfl
    exact paced earlier item (later ++ [last]) (by simp)
  · rintro ⟨paced, room⟩ earlier item later same
    induction later using List.reverseRecOn with
    | nil =>
      obtain ⟨rfl, equal⟩ := List.append_inj' same rfl
      cases equal
      exact room
    | append_singleton later final _ =>
      have split_last : items ++ [last] = (earlier ++ item :: later) ++ [final] := by
        simpa using same
      exact paced earlier item later (List.append_inj' split_last rfl).1

/-- With some items left out, the others still have room. -/
theorem Paced.sublist {recent : α → α → Bool} {limit : Nat} {items kept : List α}
    (paced : Paced recent limit items) (sub : kept.Sublist items) :
    Paced recent limit kept := by
  intro earlier item later same
  rw [same] at sub
  obtain ⟨front, back, rfl, before, after⟩ := List.append_sublist_iff.mp sub
  obtain ⟨skipped, rest, rfl, present, -⟩ := List.cons_sublist_iff.mp after
  obtain ⟨first, last, rfl⟩ := List.append_of_mem present
  have room := paced (front ++ first) item (last ++ rest) (by simp)
  rw [List.countP_append] at room
  have fewer : earlier.countP (recent item) ≤ front.countP (recent item) := before.countP_le
  omega

/-- Where old items come first, none is left behind those taken from the front. -/
theorem not_of_mem_dropWhile {old : α → Bool} {items : List α}
    (first : items.Pairwise fun item later => old later = true → old item = true) :
    ∀ item ∈ items.dropWhile old, old item = false := by
  induction items with
  | nil =>
    intro item member
    cases member
  | cons head items ih =>
    obtain ⟨before, others⟩ := List.pairwise_cons.mp first
    intro item member
    rw [List.dropWhile_cons] at member
    cases headOld : old head with
    | true =>
      rw [if_pos headOld] at member
      exact ih others item member
    | false =>
      rw [if_neg (by simp [headOld])] at member
      rcases List.mem_cons.mp member with rfl | later
      · exact headOld
      · rw [← Bool.not_eq_true]
        intro laterOld
        rw [before item later laterOld] at headOld
        cases headOld

/-- The items of a span that keeps them recent to the later ones are no more than `limit`. -/
theorem Paced.count_le {recent : α → α → Bool} {limit : Nat} {items : List α}
    (paced : Paced recent limit items) (span : α → Bool)
    (close : items.Pairwise fun first second => span first = true → span second = true →
      recent second first = true) : items.countP span ≤ limit := by
  induction items using List.reverseRecOn with
  | nil => exact Nat.zero_le limit
  | append_singleton items last ih =>
    obtain ⟨before, room⟩ := (paced_snoc last).mp paced
    obtain ⟨earlier, _, toLast⟩ := List.pairwise_append.mp close
    rw [List.countP_append, List.countP_singleton]
    cases inside : span last with
    | false => simpa using ih before earlier
    | true =>
      have fewer : items.countP span ≤ items.countP (recent last) := by
        apply List.countP_mono_left
        intro item member held
        exact toLast item member last (List.mem_singleton_self last) held inside
      simp only [if_true]
      omega

end Sliding

/-- Those of either kind are no more than those of each together. -/
theorem countP_or_le {α : Type} (first second : α → Bool) (items : List α) :
    items.countP (fun item => first item || second item) ≤
      items.countP first + items.countP second := by
  induction items with
  | nil => simp
  | cons item items ih =>
    simp only [List.countP_cons]
    cases first item <;> cases second item <;> simp <;> omega

structure Grant where
  period : Nat
  value : Nat
  time : Nat
  deriving DecidableEq

/-- The current period has ended, or has no end yet, or has one. -/
inductive Phase
  | ended
  | running
  | closing (endsAt : Nat)
  deriving DecidableEq

/-- Two grants with a whole width between them. -/
def Grant.Far (first second : Grant) : Prop :=
  first.period + 2 ≤ second.period ∨ first.value = 1 ∧ first.period < second.period

/-- What holds of the grants so far, at `clock` in the period `current`. -/
structure Spread (width limit clock current : Nat) (phase : Phase) (grants : List Grant) :
    Prop where
  made : ∀ grant ∈ grants, grant.time ≤ clock ∧ grant.period ≤ current
  valued : ∀ grant ∈ grants, 1 ≤ grant.value ∧ grant.value ≤ limit
  distinct : (grants.map fun grant => (grant.period, grant.value)).Nodup
  apart : ∀ first ∈ grants, ∀ second ∈ grants, first.Far second →
    first.time + width < second.time
  older : ∀ grant ∈ grants,
    grant.period + 2 ≤ current ∨ grant.value = 1 ∧ grant.period < current →
      grant.time + width < clock
  ended : phase = .ended → ∀ grant ∈ grants, grant.time < clock ∧
    (grant.period < current ∨ grant.value = 1 → grant.time + width < clock)
  running : phase = .running → ∀ grant ∈ grants,
    (grant.period < current → grant.time < clock) ∧ (grant.period = current → grant.value ≠ 1)
  closing : ∀ endsAt, phase = .closing endsAt → clock ≤ endsAt ∧ ∀ grant ∈ grants,
    (grant.period < current → grant.time + width < endsAt) ∧
      (grant.value = 1 → grant.time + width ≤ endsAt)

section Steps

variable {width limit clock current : Nat} {phase : Phase} {grants : List Grant}

theorem spread_nil (width limit clock : Nat) : Spread width limit clock 0 .ended [] where
  made := by simp
  valued := by simp
  distinct := by simp
  apart := by simp
  older := by simp
  ended := by simp
  running := by simp
  closing := by simp

/-- Time passes in one phase. -/
theorem Spread.pass {later : Nat} (spread : Spread width limit clock current phase grants)
    (passed : clock ≤ later) (open_ : ∀ endsAt, phase = .closing endsAt → later ≤ endsAt) :
    Spread width limit later current phase grants where
  made := by
    intro grant member
    have made := spread.made grant member
    omega
  valued := spread.valued
  distinct := spread.distinct
  apart := spread.apart
  older := by
    intro grant member old
    have older := spread.older grant member old
    omega
  ended := by
    intro same grant member
    obtain ⟨before, former⟩ := spread.ended same grant member
    refine ⟨by omega, ?_⟩
    intro earlier
    have long := former earlier
    omega
  running := by
    intro same grant member
    obtain ⟨before, first⟩ := spread.running same grant member
    refine ⟨?_, first⟩
    intro earlier
    have long := before earlier
    omega
  closing := by
    intro endsAt same
    exact ⟨open_ endsAt same, (spread.closing endsAt same).2⟩

/-- The end of the period passes. -/
theorem Spread.ends {endsAt later : Nat}
    (spread : Spread width limit clock current (.closing endsAt) grants)
    (passed : endsAt < later) : Spread width limit later current .ended grants where
  made := by
    intro grant member
    have made := spread.made grant member
    have open_ := (spread.closing endsAt rfl).1
    omega
  valued := spread.valued
  distinct := spread.distinct
  apart := spread.apart
  older := by
    intro grant member old
    have older := spread.older grant member old
    have open_ := (spread.closing endsAt rfl).1
    omega
  ended := by
    intro _ grant member
    obtain ⟨open_, former⟩ := spread.closing endsAt rfl
    have made := spread.made grant member
    refine ⟨by omega, ?_⟩
    rintro (earlier | first)
    · have long := (former grant member).1 earlier
      omega
    · have long := (former grant member).2 first
      omega
  running := by
    intro same
    cases same
  closing := by
    intro _ same
    cases same

/-- The next period begins. -/
theorem Spread.begins (spread : Spread width limit clock current .ended grants) :
    Spread width limit clock (current + 1) .running grants where
  made := by
    intro grant member
    have made := spread.made grant member
    omega
  valued := spread.valued
  distinct := spread.distinct
  apart := spread.apart
  older := by
    intro grant member old
    apply (spread.ended rfl grant member).2
    omega
  ended := by
    intro same
    cases same
  running := by
    intro _ grant member
    refine ⟨fun _ => (spread.ended rfl grant member).1, ?_⟩
    intro same
    have made := spread.made grant member
    omega
  closing := by
    intro _ same
    cases same

/-- The end of the period is set. -/
theorem Spread.sets (spread : Spread width limit clock current .running grants) :
    Spread width limit clock current (.closing (clock + width)) grants where
  made := spread.made
  valued := spread.valued
  distinct := spread.distinct
  apart := spread.apart
  older := spread.older
  ended := by
    intro same
    cases same
  running := by
    intro same
    cases same
  closing := by
    intro endsAt same
    cases same
    refine ⟨by omega, ?_⟩
    intro grant member
    have before := (spread.running rfl grant member).1
    have made := spread.made grant member
    constructor
    · intro earlier
      have long := before earlier
      omega
    · intro _
      omega

/-- A value that is new to the period is granted. -/
theorem Spread.grants_new {value : Nat} (spread : Spread width limit clock current phase grants)
    (alive : phase ≠ .ended) (bounds : 1 ≤ value ∧ value ≤ limit)
    (new : ∀ grant ∈ grants, grant.period = current → grant.value ≠ value)
    (first : value = 1 → phase = .closing (clock + width)) :
    Spread width limit clock current phase (grants ++ [⟨current, value, clock⟩]) where
  made := by
    simp only [List.mem_append, List.mem_singleton, or_imp, forall_and, forall_eq]
    exact ⟨⟨fun grant member => (spread.made grant member).1, le_refl clock⟩,
      fun grant member => (spread.made grant member).2, le_refl current⟩
  valued := by
    intro grant member
    rcases List.mem_append.mp member with earlier | last
    · exact spread.valued grant earlier
    · cases List.mem_singleton.mp last
      exact bounds
  distinct := by
    rw [List.map_append, List.nodup_append]
    refine ⟨spread.distinct, List.nodup_singleton _, ?_⟩
    intro pair member other last same
    obtain ⟨grant, granted, rfl⟩ := List.mem_map.mp member
    rw [List.map_singleton, List.mem_singleton] at last
    rw [last] at same
    exact new grant granted (congrArg Prod.fst same) (congrArg Prod.snd same)
  apart := by
    intro earlier member later member' far
    unfold Grant.Far at far
    rcases List.mem_append.mp member' with before | last
    · rcases List.mem_append.mp member with before' | last'
      · exact spread.apart earlier before' later before far
      · -- nothing comes after the last one
        have made := spread.made later before
        cases List.mem_singleton.mp last'
        dsimp only at far
        omega
    · cases List.mem_singleton.mp last
      rcases List.mem_append.mp member with before' | last'
      · exact spread.older earlier before' far
      · cases List.mem_singleton.mp last'
        dsimp only at far
        omega
  older := by
    intro grant member old
    rcases List.mem_append.mp member with earlier | last
    · exact spread.older grant earlier old
    · cases List.mem_singleton.mp last
      dsimp only at old
      omega
  ended := fun same => absurd same alive
  running := by
    intro same grant member
    rcases List.mem_append.mp member with earlier | last
    · exact spread.running same grant earlier
    · cases List.mem_singleton.mp last
      dsimp only
      refine ⟨by omega, ?_⟩
      intro _ one
      rw [first one] at same
      cases same
  closing := by
    intro endsAt same
    refine ⟨(spread.closing endsAt same).1, ?_⟩
    intro grant member
    rcases List.mem_append.mp member with earlier | last
    · exact (spread.closing endsAt same).2 grant earlier
    · cases List.mem_singleton.mp last
      dsimp only
      refine ⟨by omega, ?_⟩
      intro one
      rw [first one] at same
      cases same
      exact le_refl _

/-- One period grants each of the values up to the limit once. -/
theorem Spread.period_le (spread : Spread width limit clock current phase grants)
    (period least : Nat) :
    grants.countP (fun grant => grant.period = period ∧ least ≤ grant.value) ≤
      limit + 1 - least := by
  rw [List.countP_eq_length_filter]
  have granted :
      (grants.filter fun grant => grant.period = period ∧ least ≤ grant.value).Sublist grants :=
    List.filter_sublist
  have distinct := (granted.map fun grant => (grant.period, grant.value)).nodup spread.distinct
  have bounded : (grants.filter fun grant => grant.period = period ∧ least ≤ grant.value).map
      (fun grant => (grant.period, grant.value)) ⊆
      (List.range' least (limit + 1 - least)).map fun value => (period, value) := by
    intro pair member
    obtain ⟨grant, kept, rfl⟩ := List.mem_map.mp member
    obtain ⟨present, held⟩ := List.mem_filter.mp kept
    obtain ⟨same, high⟩ := of_decide_eq_true held
    have bounds := spread.valued grant present
    rw [same]
    apply List.mem_map_of_mem
    rw [List.mem_range'_1]
    omega
  have fewer := (List.subperm_of_subset distinct bounded).length_le
  simpa using fewer

/-- A span of the width of a period has fewer grants than twice the limit. -/
theorem Spread.span_le (spread : Spread width limit clock current phase grants) (start : Nat) :
    grants.countP (fun grant => start ≤ grant.time ∧ grant.time ≤ start + width) ≤
      2 * limit - 1 := by
  let inside (grant : Grant) : Bool := start ≤ grant.time ∧ grant.time ≤ start + width
  show grants.countP inside ≤ 2 * limit - 1
  cases least : (grants.filter inside).argmin Grant.period with
  | none =>
    have none_inside := List.argmin_eq_none.mp least
    rw [List.countP_eq_length_filter, none_inside]
    exact Nat.zero_le _
  | some early =>
    obtain ⟨present, held⟩ := List.mem_filter.mp (List.argmin_mem least)
    have valued := spread.valued early present
    have near : ∀ first ∈ grants, ∀ second ∈ grants, inside first = true →
        inside second = true → ¬ first.Far second := by
      intro first member second member' within within' far
      have apart := spread.apart first member second member' far
      have within := of_decide_eq_true within
      have within' := of_decide_eq_true within'
      omega
    have periods : ∀ grant ∈ grants, inside grant = true →
        grant.period = early.period ∨ grant.period = early.period + 1 := by
      intro grant member within
      have first := List.le_of_mem_argmin (List.mem_filter.mpr ⟨member, within⟩) least
      have next := near early present grant member held within
      unfold Grant.Far at next
      omega
    have former := spread.period_le early.period
    have latter := spread.period_le (early.period + 1) 1
    by_cases both : ∃ later ∈ grants, inside later = true ∧ later.period = early.period + 1
    · obtain ⟨later, member', within', second⟩ := both
      have split : grants.countP inside ≤ grants.countP fun grant =>
          decide (grant.period = early.period ∧ 2 ≤ grant.value) ||
            decide (grant.period = early.period + 1 ∧ 1 ≤ grant.value) := by
        apply List.countP_mono_left
        intro grant member within
        have bounds := spread.valued grant member
        have period := periods grant member within
        have first := near grant member later member' within within'
        unfold Grant.Far at first
        simp only [Bool.or_eq_true, decide_eq_true_eq]
        omega
      have parts := countP_or_le
        (fun grant => decide (grant.period = early.period ∧ 2 ≤ grant.value))
        (fun grant => decide (grant.period = early.period + 1 ∧ 1 ≤ grant.value)) grants
      have without_first := former 2
      omega
    · have only : grants.countP inside ≤
          grants.countP fun grant => grant.period = early.period ∧ 1 ≤ grant.value := by
        apply List.countP_mono_left
        intro grant member within
        have bounds := spread.valued grant member
        have period := periods grant member within
        have alone : grant.period ≠ early.period + 1 := by
          intro second
          exact both ⟨grant, member, within, second⟩
        simp only [decide_eq_true_eq]
        omega
      have all := former 1
      omega

end Steps

end BigX.Run
