import BigX.Reasoning.ToolSelector
import Mathlib.Algebra.Order.BigOperators.Group.List
import Mathlib.Algebra.Order.Field.Basic
import Mathlib.Tactic.Linarith

set_option autoImplicit false

/- How the gas errors of a row's outcomes enter its score: their sum, whose absolute value is
taken, and in which errors of both signs cancel out. -/
namespace BigX.Reasoning

open Run

section Sums

variable {α : Type}

theorem abs_sum_le (f : α → ℚ) (l : List α) : |(l.map f).sum| ≤ (l.map fun a => |f a|).sum := by
  have bound := List.le_sum_of_subadditive (fun x : ℚ => |x|) abs_zero.le abs_add_le (l.map f)
  rwa [List.map_map] at bound

theorem sum_map_neg (f : α → ℚ) (l : List α) : (l.map fun a => -f a).sum = -(l.map f).sum := by
  rw [List.sum_neg, List.map_map]
  rfl

/-- Numbers that are all of one sign. -/
def OneSign (f : α → ℚ) (l : List α) : Prop := (∀ a ∈ l, 0 ≤ f a) ∨ ∀ a ∈ l, f a ≤ 0

/-- Nothing cancels out in a sum of numbers of one sign. -/
theorem abs_sum_eq {f : α → ℚ} {l : List α} (sign : OneSign f l) :
    |(l.map f).sum| = (l.map fun a => |f a|).sum := by
  rcases sign with up | down
  · have same : l.map (fun a => |f a|) = l.map f :=
      List.map_congr_left fun a member => abs_of_nonneg (up a member)
    rw [same]
    exact abs_of_nonneg (List.sum_nonneg (by simpa using up))
  · have same : l.map (fun a => |f a|) = l.map fun a => -f a :=
      List.map_congr_left fun a member => abs_of_nonpos (down a member)
    have below : 0 ≤ (l.map fun a => -f a).sum := List.sum_nonneg (by simpa using down)
    rw [sum_map_neg] at below
    rw [same, sum_map_neg]
    exact abs_of_nonpos (by linarith)

/-- Numbers of both signs cancel out in part. -/
theorem abs_sum_lt {f : α → ℚ} {l : List α} (mixed : ¬ OneSign f l) :
    |(l.map f).sum| < (l.map fun a => |f a|).sum := by
  simp only [OneSign, not_or, not_forall, not_le] at mixed
  obtain ⟨⟨low, lowMember, negative⟩, ⟨high, highMember, positive⟩⟩ := mixed
  have upper : (l.map f).sum < (l.map fun a => |f a|).sum :=
    List.sum_lt_sum f _ (fun a _ => le_abs_self (f a))
      ⟨low, lowMember, negative.trans_le (abs_nonneg _)⟩
  have lower : (l.map fun a => -|f a|).sum < (l.map f).sum :=
    List.sum_lt_sum _ f (fun a _ => neg_abs_le (f a))
      ⟨high, highMember, (neg_nonpos.mpr (abs_nonneg _)).trans_lt positive⟩
  rw [sum_map_neg fun a => |f a|] at lower
  exact abs_lt.mpr ⟨lower, upper⟩

end Sums

/-- Less error is more accuracy, as long as the larger error is below 100 percent. -/
theorem accuracy_le_iff {larger smaller : ℚ} :
    max 0 (1 - larger / 100) ≤ max 0 (1 - smaller / 100) ↔
      smaller ≤ larger ∨ 100 ≤ larger := by
  constructor
  · intro le
    by_contra neither
    rw [not_or, not_le, not_le] at neither
    have some : max 0 (1 - larger / 100) = 1 - larger / 100 := max_eq_right (by linarith)
    have less : max 0 (1 - smaller / 100) < 1 - larger / 100 := max_lt (by linarith) (by linarith)
    rw [some] at le
    exact absurd less (not_lt.mpr le)
  · rintro (less | much)
    · exact max_le_max_left 0 (by linarith)
    · have none : max 0 (1 - larger / 100) = 0 := max_eq_left (by linarith)
      rw [none]
      exact le_max_left 0 _

section Rows

variable (tool protocol : String) (chainId : Int) (latency : Rat)

/-- The row that adds up some outcomes, with a latency that they do not change. -/
def row (reported : List Reported) : ToolPerformanceStat :=
  { sums tool protocol chainId reported with avgExecutionLatencyMs := some latency }

/-- The table has one row for the tool and the protocol, which adds up these outcomes. -/
def AddsUp (reported : List Reported) (table : Table) : Prop :=
  table.filter (fun stat => stat.tool = tool ∧ stat.protocol = protocol) =
    [row tool protocol chainId latency reported]

/-- The calls that report some outcomes. -/
def reports (reported : List Reported) : List Call :=
  reported.map fun one =>
    .recordOutcome tool (some protocol) one.success one.gasErrorPct one.slippageErrorBps

/-- The scores after some outcomes were reported. -/
def scoresAfter (table : Table) (reported : List Reported) : Except Exc (List ProtocolScore) :=
  scoreCandidates tool chainId (run step table (reports tool protocol reported)).now [protocol]

def rowScore (reported : List Reported) : Rat :=
  (row tool protocol chainId latency reported).successRate * weightSuccessRate +
    max 0 (1 - |(reported.map Reported.gasErrorPct).sum / reported.length| / 100) *
      weightEstimateAccuracy + max 0 (1 - latency / 30000) * weightLatency

variable {tool protocol chainId latency}

theorem row_add (reported : List Reported) (last : Reported) :
    (row tool protocol chainId latency reported).add last.success last.gasErrorPct
        last.slippageErrorBps = .ok (row tool protocol chainId latency (reported ++ [last])) := by
  obtain ⟨success, gasErrorPct, slippageErrorBps⟩ := last
  cases success <;>
    simp [row, sums, ToolPerformanceStat.add, number, bind, Except.bind, pure, Except.pure]

theorem composite_row (reported : List Reported) :
    composite (row tool protocol chainId latency reported) =
      .ok (rowScore tool protocol chainId latency reported) := by
  rfl

/-- Replacing the rows that are picked out replaces what is picked out. -/
theorem filter_replaced {α : Type} (own : α → Bool) {replacement : α} (table : List α)
    (picked : own replacement = true) :
    (table.map fun one => if own one then replacement else one).filter own =
      (table.filter own).map fun _ => replacement := by
  induction table with
  | nil => rfl
  | cons one table ih => cases same : own one <;> simp [same, picked, ih]

/-- A report is added to the row. -/
theorem recordOutcome_addsUp {reported : List Reported} {table : Table}
    (adds : AddsUp tool protocol chainId latency reported table) (last : Reported) :
    ∃ after, recordOutcome tool (some protocol) last.success last.gasErrorPct
        last.slippageErrorBps table = .ok after ∧
      AddsUp tool protocol chainId latency (reported ++ [last]) after := by
  unfold AddsUp at adds ⊢
  refine ⟨table.map fun stat => if decide (stat.tool = tool ∧ stat.protocol = protocol) then
    row tool protocol chainId latency (reported ++ [last]) else stat, ?_, ?_⟩
  · unfold recordOutcome
    dsimp only
    rw [adds]
    simp only [scalarOneOrNone, bind, Except.bind, row_add, pure, Except.pure]
  · rw [filter_replaced _ _ (by simp [row, sums]), adds]
    rfl

/-- All reports are added to the row. -/
theorem run_addsUp {table : Table} (fresh : AddsUp tool protocol chainId latency [] table)
    (reported : List Reported) :
    AddsUp tool protocol chainId latency reported
      (run step table (reports tool protocol reported)).now := by
  induction reported using List.reverseRecOn with
  | nil => exact fresh
  | append_singleton reported last ih =>
    obtain ⟨after, recorded, adds⟩ := recordOutcome_addsUp ih last
    have accepted : step (.recordOutcome tool (some protocol) last.success last.gasErrorPct
        last.slippageErrorBps) (run step table (reports tool protocol reported)).now =
          .ok (after, none) := by
      rw [step, recorded]
      rfl
    rw [reports, List.map_append, List.map_singleton, run_snoc, ← reports,
      extend_ok step _ _ after none accepted]
    exact adds

/-- After enough reports the row's score is that of the reports, and before there is none. -/
theorem scoresAfter_eq {table : Table} (fresh : AddsUp tool protocol chainId latency [] table)
    (reported : List Reported) :
    scoresAfter tool protocol chainId table reported =
      .ok (if reported.length < minAttemptsForConfidence then []
        else [⟨protocol, rowScore tool protocol chainId latency reported,
          (row tool protocol chainId latency reported).successRate, reported.length⟩]) := by
  have adds := run_addsUp fresh reported
  have picked : (run step table (reports tool protocol reported)).now.filter
      (fun stat => stat.tool = tool ∧ stat.protocol = protocol ∧ stat.chainId = chainId) =
        [row tool protocol chainId latency reported] := by
    have both := congrArg (List.filter fun stat => decide (stat.chainId = chainId)) adds
    rw [List.filter_filter] at both
    simpa [row, sums, and_comm, and_left_comm, and_assoc] using both
  unfold scoresAfter scoreCandidates
  rw [picked]
  by_cases few : reported.length < minAttemptsForConfidence
  · simp only [scalarOneOrNone, bind, Except.bind]
    rw [if_pos few]
    exact if_pos few
  · simp only [scalarOneOrNone, bind, Except.bind, composite_row, pure, Except.pure]
    rw [if_neg few]
    exact if_neg few

end Rows

/-- The histories agree in what succeeded, and no error of the first is larger. -/
def Dominated (first second : List Reported) : Prop :=
  List.Forall₂ (fun one other => one.success = other.success ∧
    |one.gasErrorPct| ≤ |other.gasErrorPct|) first second

/-- No score is lower than one of the others. -/
def NeverLower (scores others : Except Exc (List ProtocolScore)) : Prop :=
  ∀ found, scores = .ok found → ∀ rest, others = .ok rest →
    ∀ score ∈ found, ∀ other ∈ rest, other.score ≤ score.score

/-- The sum of the gas errors of some outcomes. -/
def gasErrors (reported : List Reported) : Rat := (reported.map Reported.gasErrorPct).sum

section Compare

variable {tool protocol : String} {chainId : Int} {latency : Rat}

theorem dominated_counts {first second : List Reported} (dominated : Dominated first second) :
    first.length = second.length ∧
      first.countP Reported.success = second.countP Reported.success := by
  induction dominated with
  | nil => exact ⟨rfl, rfl⟩
  | cons same _ ih => simp [List.countP_cons, same.1, ih.1, ih.2]

theorem dominated_abs {first second : List Reported} (dominated : Dominated first second) :
    (first.map fun one => |one.gasErrorPct|).sum ≤
      (second.map fun one => |one.gasErrorPct|).sum := by
  induction dominated with
  | nil => exact le_refl _
  | cons same _ ih =>
    rw [List.map_cons, List.map_cons, List.sum_cons, List.sum_cons]
    exact add_le_add same.2 ih

/-- Of two rows with the same successes, the one whose errors add up to less is not scored
lower. -/
theorem rowScore_le_iff (tool protocol : String) (chainId : Int) (latency : Rat)
    {first second : List Reported}
    (length : first.length = second.length)
    (successes : first.countP Reported.success = second.countP Reported.success)
    (some : 0 < second.length) :
    rowScore tool protocol chainId latency second ≤ rowScore tool protocol chainId latency first ↔
      |gasErrors first| ≤ |gasErrors second| ∨ 100 * second.length ≤ |gasErrors second| := by
  have rate : (row tool protocol chainId latency first).successRate =
      (row tool protocol chainId latency second).successRate := by
    simp [row, sums, ToolPerformanceStat.successRate, length, successes]
  have n : (0 : ℚ) < second.length := by exact_mod_cast some
  have weight : (0 : ℚ) < weightEstimateAccuracy := by norm_num [weightEstimateAccuracy]
  unfold rowScore
  rw [rate, length, add_le_add_iff_right, add_le_add_iff_left, mul_le_mul_iff_left₀ weight,
    accuracy_le_iff, abs_div, abs_div, abs_of_pos n, div_le_div_iff_of_pos_right n, le_div_iff₀ n]
  rfl

/-- Two histories of one length, one of which dominates the other. -/
theorem neverLower_iff {table : Table} (fresh : AddsUp tool protocol chainId latency [] table)
    {first second : List Reported} (dominated : Dominated first second) :
    NeverLower (scoresAfter tool protocol chainId table first)
        (scoresAfter tool protocol chainId table second) ↔
      second.length < minAttemptsForConfidence ∨ |gasErrors first| ≤ |gasErrors second| ∨
        100 * second.length ≤ |gasErrors second| := by
  obtain ⟨length, successes⟩ := dominated_counts dominated
  rw [NeverLower, scoresAfter_eq fresh, scoresAfter_eq fresh, length]
  by_cases few : second.length < minAttemptsForConfidence
  · simp [few]
  · have some : 0 < second.length := by
      unfold minAttemptsForConfidence at few
      omega
    rw [or_iff_right few, ← rowScore_le_iff tool protocol chainId latency length successes some]
    simp [few]

end Compare

/-- Every history that dominates this one is scored at least as high exactly if there are too few
outcomes for a score, if this one's errors are all of one sign, or if they leave no accuracy. -/
theorem dominated_neverLower_iff {tool protocol : String} {chainId : Int} {latency : Rat}
    {table : Table} (fresh : AddsUp tool protocol chainId latency [] table)
    (second : List Reported) :
    (∀ first, Dominated first second →
        NeverLower (scoresAfter tool protocol chainId table first)
          (scoresAfter tool protocol chainId table second)) ↔
      second.length < minAttemptsForConfidence ∨ OneSign Reported.gasErrorPct second ∨
        100 * second.length ≤ |gasErrors second| := by
  constructor
  · intro never
    by_contra cancels
    simp only [not_or] at cancels
    obtain ⟨enough, mixed, accurate⟩ := cancels
    -- the same history, with every error taken for its absolute value
    have dominated : Dominated (second.map fun one =>
        { one with gasErrorPct := |one.gasErrorPct| }) second := by
      simp [Dominated, List.forall₂_map_left_iff, List.forall₂_same]
    have sum : gasErrors (second.map fun one => { one with gasErrorPct := |one.gasErrorPct| }) =
        (second.map fun one => |one.gasErrorPct|).sum := by
      rw [gasErrors, List.map_map]
      rfl
    rcases (neverLower_iff fresh dominated).mp (never _ dominated) with few | less | much
    · exact enough few
    · rw [sum] at less
      exact absurd ((le_abs_self _).trans less) (not_le.mpr (abs_sum_lt mixed))
    · exact accurate much
  · intro kept first dominated
    refine (neverLower_iff fresh dominated).mpr ?_
    rcases kept with few | sign | much
    · exact .inl few
    · refine .inr (.inl ?_)
      calc |gasErrors first|
          ≤ (first.map fun one => |one.gasErrorPct|).sum := abs_sum_le _ first
        _ ≤ (second.map fun one => |one.gasErrorPct|).sum := dominated_abs dominated
        _ = |gasErrors second| := (abs_sum_eq sign).symm
    · exact .inr (.inr much)

section Sample

/-- Outcomes that all succeeded, with these gas errors. -/
def erring (errors : List Rat) : List Reported := errors.map fun error => ⟨true, error, 0⟩

/-- A table with a row for aave, and nothing reported of it. -/
def aaveTable : Table := [row "defi_tool" "aave" 1 500 []]

theorem aaveTable_addsUp : AddsUp "defi_tool" "aave" 1 500 [] aaveTable := by
  simp [AddsUp, aaveTable, row, sums]

/-- Estimates that are too low or too high in turn, and some that are twice as much off. -/
theorem steady_neverLower :
    NeverLower (scoresAfter "defi_tool" "aave" 1 aaveTable (erring [5, -10, 5, -10, 5]))
      (scoresAfter "defi_tool" "aave" 1 aaveTable (erring [10, 20, 10, 20, 10])) := by
  have sign : OneSign Reported.gasErrorPct (erring [10, 20, 10, 20, 10]) := by
    refine .inl ?_
    decide +kernel
  refine (dominated_neverLower_iff aaveTable_addsUp _).mpr (.inr (.inl sign)) _ ?_
  norm_num [Dominated, erring]

/-- Estimates that are 40 percent too low are scored lower than some that are 50 percent too low
or too high in turn. -/
theorem steady_scored_lower :
    Dominated (erring [40, 40, 40, 40, 40]) (erring [50, -50, 50, -50, 50]) ∧
      ¬ NeverLower (scoresAfter "defi_tool" "aave" 1 aaveTable (erring [40, 40, 40, 40, 40]))
        (scoresAfter "defi_tool" "aave" 1 aaveTable (erring [50, -50, 50, -50, 50])) := by
  have dominated :
      Dominated (erring [40, 40, 40, 40, 40]) (erring [50, -50, 50, -50, 50]) := by
    norm_num [Dominated, erring]
  refine ⟨dominated, ?_⟩
  rw [neverLower_iff aaveTable_addsUp dominated]
  norm_num [erring, gasErrors, minAttemptsForConfidence]

end Sample

end BigX.Reasoning
