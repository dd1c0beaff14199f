import BigX.Run.Trace
import Mathlib.Algebra.Order.Ring.Rat
import Mathlib.Data.List.MinMax

set_option autoImplicit false

/- `ToolSelector`: outcomes are added up in a row for each tool and protocol, and the rows of
the candidates are scored when a protocol is chosen. Floats are taken as rationals. -/
namespace BigX.Reasoning

open Run

inductive Exc
  | typeError (text : String)
  | indexError
  | multipleResultsFound
  deriving DecidableEq

/-- `ToolPerformanceStat`; a column that was never set is `None` until the row is written. -/
structure ToolPerformanceStat where
  tool : String
  protocol : String
  chainId : Int
  totalAttempts : Nat
  successfulAttempts : Nat
  totalGasEstimateErrorPct : Option Rat
  totalSlippageEstimateErrorBps : Option Rat
  avgExecutionLatencyMs : Option Rat
  deriving DecidableEq

abbrev Table : Type := List ToolPerformanceStat

/-- `ToolPerformanceStat(tool=tool, protocol=protocol, chain_id=0, total_attempts=0,
successful_attempts=0)` -/
def ToolPerformanceStat.new (tool protocol : String) : ToolPerformanceStat :=
  ⟨tool, protocol, 0, 0, 0, none, none, none⟩

/-- The column defaults, which the insert puts in for what was not set. -/
def ToolPerformanceStat.inserted (stat : ToolPerformanceStat) : ToolPerformanceStat :=
  { stat with
    totalGasEstimateErrorPct := some (stat.totalGasEstimateErrorPct.getD 0)
    totalSlippageEstimateErrorBps := some (stat.totalSlippageEstimateErrorBps.getD 0)
    avgExecutionLatencyMs := some (stat.avgExecutionLatencyMs.getD 0) }

def ToolPerformanceStat.successRate (stat : ToolPerformanceStat) : Rat :=
  if stat.totalAttempts = 0 then 0 else stat.successfulAttempts / stat.totalAttempts

def weightSuccessRate : Rat := 1 / 2
def weightEstimateAccuracy : Rat := 3 / 10
def weightLatency : Rat := 1 / 5
def minAttemptsForConfidence : Nat := 5

/-- `scalar_one_or_none()` -/
def scalarOneOrNone {α : Type} (rows : List α) : Except Exc (Option α) :=
  match rows with
  | [] => .ok none
  | [row] => .ok (some row)
  | _ => .error .multipleResultsFound

/-- A number read from a column, which raises where there is none. -/
def number (column : Option Rat) (operator : String) : Except Exc Rat :=
  match column with
  | some value => .ok value
  | none => .error (.typeError
      ("unsupported operand type(s) for " ++ operator ++ ": 'NoneType'"))

structure ProtocolScore where
  protocol : String
  score : Rat
  successRate : Rat
  sampleSize : Nat
  deriving DecidableEq

/-- The composite score of a row. -/
def composite (stat : ToolPerformanceStat) : Except Exc Rat := do
  let gasError ← number stat.totalGasEstimateErrorPct "/"
  let avgGasError := |gasError / stat.totalAttempts|
  let estimateAccuracy := max 0 (1 - avgGasError / 100)
  let latency ← number stat.avgExecutionLatencyMs "/"
  let latencyScore := max 0 (1 - latency / 30000)
  pure (stat.successRate * weightSuccessRate + estimateAccuracy * weightEstimateAccuracy +
    latencyScore * weightLatency)

/-- `_score_candidates` -/
def scoreCandidates (tool : String) (chainId : Int) (table : Table) :
    List String → Except Exc (List ProtocolScore)
  | [] => .ok []
  | protocol :: rest => do
      let stat ← scalarOneOrNone (table.filter fun stat =>
        stat.tool = tool ∧ stat.protocol = protocol ∧ stat.chainId = chainId)
      match stat with
      | none => scoreCandidates tool chainId table rest
      | some stat =>
          if stat.totalAttempts < minAttemptsForConfidence then
            scoreCandidates tool chainId table rest
          else
            let score ← composite stat
            let scores ← scoreCandidates tool chainId table rest
            pure (⟨protocol, score, stat.successRate, stat.totalAttempts⟩ :: scores)

/-- `select_best`. The best of some scores is the first one that is maximal. -/
def selectBest (tool : String) (candidateProtocols : List String) (chainId : Int)
    (table : Table) : Except Exc String := do
  let scores ← scoreCandidates tool chainId table candidateProtocols
  match scores.argmax ProtocolScore.score with
  | some best => pure best.protocol
  | none =>
      match candidateProtocols with
      | first :: _ => pure first
      | [] => .error .indexError

/-- What an outcome adds to a row. -/
def ToolPerformanceStat.add (success : Bool) (gasErrorPct : Rat) (slippageErrorBps : Int)
    (stat : ToolPerformanceStat) : Except Exc ToolPerformanceStat := do
  let gasError ← number stat.totalGasEstimateErrorPct "+="
  let slippageError ← number stat.totalSlippageEstimateErrorBps "+="
  pure { stat with
    totalAttempts := stat.totalAttempts + 1
    successfulAttempts := stat.successfulAttempts + if success then 1 else 0
    totalGasEstimateErrorPct := some (gasError + gasErrorPct)
    totalSlippageEstimateErrorBps := some (slippageError + slippageErrorBps) }

/-- `record_outcome`. What raises before the commit leaves the table alone. -/
def recordOutcome (tool : String) (protocol : Option String) (success : Bool)
    (gasErrorPct : Rat) (slippageErrorBps : Int) (table : Table) : Except Exc Table :=
  match protocol with
  | none => .ok table
  | some protocol => do
      let own (stat : ToolPerformanceStat) : Bool := stat.tool = tool ∧ stat.protocol = protocol
      match ← scalarOneOrNone (table.filter own) with
      | none =>
          let stat ← (ToolPerformanceStat.new tool protocol).add success gasErrorPct
            slippageErrorBps
          pure (table ++ [stat.inserted])
      | some stat =>
          let stat ← stat.add success gasErrorPct slippageErrorBps
          pure (table.map fun row => if own row then stat else row)

inductive Call
  | recordOutcome (tool : String) (protocol : Option String) (success : Bool)
      (gasErrorPct : Rat) (slippageErrorBps : Int)
  | selectBest (tool : String) (candidateProtocols : List String) (chainId : Int)
  deriving DecidableEq

/-- The table after a call that raised is the one before it. -/
def step (call : Call) (table : Table) : Except Exc (Table × Option String) :=
  match call with
  | .recordOutcome tool protocol success gasErrorPct slippageErrorBps => do
      let after ← recordOutcome tool protocol success gasErrorPct slippageErrorBps table
      pure (after, none)
  | .selectBest tool candidateProtocols chainId => do
      let best ← selectBest tool candidateProtocols chainId table
      pure (table, some best)

/-- What was reported of one execution. -/
structure Reported where
  success : Bool
  gasErrorPct : Rat
  slippageErrorBps : Int
  deriving DecidableEq

/-- What a call reports of a tool with a protocol. -/
def Call.reports (tool protocol : String) : Call → Option Reported
  | .recordOutcome recorded (some used) success gasErrorPct slippageErrorBps =>
      if recorded = tool ∧ used = protocol then
        some ⟨success, gasErrorPct, slippageErrorBps⟩
      else none
  | _ => none

/-- All outcomes that were reported of a tool with a protocol. -/
def outcomes (tool protocol : String) (calls : List Call) : List Reported :=
  calls.filterMap (Call.reports tool protocol)

/-- The row that some outcomes are to add up to. -/
def sums (tool protocol : String) (chainId : Int) (reported : List Reported) :
    ToolPerformanceStat :=
  { tool := tool
    protocol := protocol
    chainId := chainId
    totalAttempts := reported.length
    successfulAttempts := reported.countP Reported.success
    totalGasEstimateErrorPct := some (reported.map Reported.gasErrorPct).sum
    totalSlippageEstimateErrorBps := some (reported.map fun one => (one.slippageErrorBps : Rat)).sum
    avgExecutionLatencyMs := some 0 }

/-- The composite score of some outcomes. No outcome has a latency. -/
def scoreOf (reported : List Reported) : Rat :=
  (if reported.length = 0 then 0
    else (reported.countP Reported.success : Rat) / reported.length) * weightSuccessRate +
  max 0 (1 - |(reported.map Reported.gasErrorPct).sum / reported.length| / 100) *
    weightEstimateAccuracy + weightLatency

/-- A row that has its numbers adds up what is reported. -/
theorem sums_add (tool protocol : String) (chainId : Int) (reported : List Reported)
    (last : Reported) :
    (sums tool protocol chainId reported).add last.success last.gasErrorPct
      last.slippageErrorBps = .ok (sums tool protocol chainId (reported ++ [last])) := by
  obtain ⟨success, gasErrorPct, slippageErrorBps⟩ := last
  cases success <;>
    simp [sums, ToolPerformanceStat.add, number, bind, Except.bind, pure, Except.pure]

/-- The score of such a row is the one of its outcomes. -/
theorem composite_sums (tool protocol : String) (chainId : Int) (reported : List Reported) :
    composite (sums tool protocol chainId reported) = .ok (scoreOf reported) := by
  have latency : max (0 : Rat) (1 - 0 / 30000) = 1 := by
    rw [zero_div, sub_zero]
    exact max_eq_right zero_le_one
  simp only [composite, number, sums, ToolPerformanceStat.successRate, bind, Except.bind, pure,
    Except.pure, latency, one_mul, scoreOf]
  rfl

/-- A new row has no sums to add to. -/
theorem recordOutcome_nil (tool : String) (protocol : Option String) (success : Bool)
    (gasErrorPct : Rat) (slippageErrorBps : Int) :
    recordOutcome tool protocol success gasErrorPct slippageErrorBps [] =
      match protocol with
      | none => .ok []
      | some _ => .error (.typeError "unsupported operand type(s) for +=: 'NoneType'") := by
  cases protocol <;> rfl

theorem scoreCandidates_nil (tool : String) (chainId : Int) (candidates : List String) :
    scoreCandidates tool chainId [] candidates = .ok [] := by
  induction candidates with
  | nil => rfl
  | cons protocol rest ih => exact ih

/-- Without rows the first candidate is chosen. -/
theorem selectBest_nil (tool : String) (candidates : List String) (chainId : Int) :
    selectBest tool candidates chainId [] =
      match candidates with
      | first :: _ => .ok first
      | [] => .error .indexError := by
  unfold selectBest
  rw [scoreCandidates_nil]
  cases candidates <;> rfl

/-- No outcome gets into the table. -/
theorem run_table_nil (calls : List Call) : (run step [] calls).now = [] := by
  apply run_induction step [] (fun _ now => now = [])
  · rfl
  · rintro _ now call answer after rfl accepted
    cases call with
    | recordOutcome tool protocol success gasErrorPct slippageErrorBps =>
      rw [step, recordOutcome_nil] at accepted
      cases protocol with
      | none =>
        cases accepted
        rfl
      | some used => cases accepted
    | selectBest tool candidates chainId =>
      rw [step] at accepted
      cases chosen : selectBest tool candidates chainId [] with
      | error exc =>
        rw [chosen] at accepted
        cases accepted
      | ok best =>
        rw [chosen] at accepted
        cases accepted
        rfl

/-- A candidate with enough outcomes, and none of those has a higher score. -/
def Best (tool : String) (candidates : List String) (calls : List Call) (protocol : String) :
    Prop :=
  protocol ∈ candidates ∧ minAttemptsForConfidence ≤ (outcomes tool protocol calls).length ∧
    ∀ other ∈ candidates, minAttemptsForConfidence ≤ (outcomes tool other calls).length →
      scoreOf (outcomes tool other calls) ≤ scoreOf (outcomes tool protocol calls)

/-- What `select_best` is to answer after some calls. -/
def UsesHistory (tool : String) (candidates : List String) (calls : List Call)
    (answer : Except Exc String) : Prop :=
  (∃ protocol ∈ candidates, minAttemptsForConfidence ≤ (outcomes tool protocol calls).length) →
    ∃ protocol, answer = .ok protocol ∧ Best tool candidates calls protocol

/-- After any calls, `select_best` uses what was reported exactly if there is not enough of it
for any candidate, or the first candidate happens to be one of the best. -/
theorem selectBest_usesHistory_iff (calls : List Call) (tool : String) (candidates : List String)
    (chainId : Int) :
    UsesHistory tool candidates calls (selectBest tool candidates chainId (run step [] calls).now) ↔
      (∀ protocol ∈ candidates,
        (outcomes tool protocol calls).length < minAttemptsForConfidence) ∨
      ∃ first ∈ candidates.head?, Best tool candidates calls first := by
  rw [run_table_nil, selectBest_nil]
  constructor
  · intro uses
    by_cases enough : ∃ protocol ∈ candidates,
        minAttemptsForConfidence ≤ (outcomes tool protocol calls).length
    · obtain ⟨protocol, answer, best⟩ := uses enough
      cases candidates with
      | nil => cases answer
      | cons first rest =>
        cases answer
        exact .inr ⟨_, rfl, best⟩
    · apply Or.inl
      intro protocol member
      by_contra many
      exact enough ⟨protocol, member, Nat.le_of_not_lt many⟩
  · rintro (few | ⟨first, leads, best⟩) ⟨protocol, member, enough⟩
    · exact absurd (few protocol member) (Nat.not_lt.mpr enough)
    · cases candidates with
      | nil => cases leads
      | cons head rest =>
        cases leads
        exact ⟨_, rfl, best⟩

/-- Five successes of compound are reported. -/
def compoundCalls : List Call :=
  List.replicate 5 (.recordOutcome "defi" (some "compound") true 0 0)

/-- Each report raises, and aave is chosen, of which nothing was reported. -/
theorem selectBest_ignoresHistory :
    recordOutcome "defi" (some "compound") true 0 0 (run step [] compoundCalls).now =
        .error (.typeError "unsupported operand type(s) for +=: 'NoneType'") ∧
      (outcomes "defi" "compound" compoundCalls).length = 5 ∧
      selectBest "defi" ["aave", "compound"] 1 (run step [] compoundCalls).now = .ok "aave" ∧
      ¬ UsesHistory "defi" ["aave", "compound"] compoundCalls
        (selectBest "defi" ["aave", "compound"] 1 (run step [] compoundCalls).now) := by
  have chosen : selectBest "defi" ["aave", "compound"] 1 (run step [] compoundCalls).now =
      .ok "aave" := by
    rw [run_table_nil, selectBest_nil]
  refine ⟨by rw [run_table_nil]; rfl, by decide, chosen, ?_⟩
  intro uses
  obtain ⟨protocol, answer, -, enough, -⟩ := uses ⟨"compound", by decide, by decide⟩
  rw [chosen] at answer
  cases answer
  exact absurd enough (by decide)

end BigX.Reasoning
