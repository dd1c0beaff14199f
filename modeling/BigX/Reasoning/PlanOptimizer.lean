import Mathlib.Algebra.BigOperators.Group.List.Basic
import Mathlib.Algebra.Order.Ring.Rat
import Mathlib.Data.List.Chain
import Mathlib.Data.List.Sort

set_option autoImplicit false

/- `PlanOptimizer`: neighbours that look alike are merged, reads go before writes, and what keeps
failing is dropped. Floats are taken as rationals. -/
namespace BigX.Reasoning

-- the values of parameters
variable {V : Type}

/-- A subtask's `params`: its `amount_usd`, and what it has under any other key. -/
structure Params (V : Type) where
  amountUsd : Option Rat
  rest : String → Option V

structure Subtask (V : Type) where
  tool : String
  action : String
  params : Params V

namespace Subtask

/-- `params.get("amount_usd", 0)` -/
def amount (subtask : Subtask V) : Rat := subtask.params.amountUsd.getD 0

/-- What a subtask says apart from its amount. -/
def kind (subtask : Subtask V) : String × String × (String → Option V) :=
  (subtask.tool, subtask.action, subtask.params.rest)

def identifyingKeys : List String := ["asset", "token_in", "token_out", "protocol"]

/-- `_is_mergeable` -/
def Mergeable (a b : Subtask V) : Prop :=
  a.tool = b.tool ∧ a.action = b.action ∧
    ∀ key ∈ identifyingKeys, a.params.rest key = b.params.rest key

instance [DecidableEq V] (a b : Subtask V) : Decidable (a.Mergeable b) :=
  inferInstanceAs (Decidable (_ ∧ _ ∧ _))

theorem Mergeable.trans {a b c : Subtask V} (first : a.Mergeable b) (second : b.Mergeable c) :
    a.Mergeable c :=
  ⟨first.1.trans second.1, first.2.1.trans second.2.1,
    fun key member => (first.2.2 key member).trans (second.2.2 key member)⟩

theorem Mergeable.refl (a : Subtask V) : a.Mergeable a := ⟨rfl, rfl, fun _ _ => rfl⟩

/-- The earlier subtask with the amount of the later one added. -/
def absorb (prev subtask : Subtask V) : Subtask V :=
  { prev with params := { prev.params with amountUsd := some (prev.amount + subtask.amount) } }

@[simp] theorem absorb_kind (prev subtask : Subtask V) : (prev.absorb subtask).kind = prev.kind :=
  rfl

@[simp] theorem absorb_amount (prev subtask : Subtask V) :
    (prev.absorb subtask).amount = prev.amount + subtask.amount := rfl

/-- Whether subtasks are mergeable does not depend on their amounts. -/
theorem mergeable_iff_of_kind {a a' b b' : Subtask V} (left : a.kind = a'.kind)
    (right : b.kind = b'.kind) : a.Mergeable b ↔ a'.Mergeable b' := by
  obtain ⟨tool, action, params⟩ := a
  obtain ⟨tool', action', params'⟩ := a'
  obtain ⟨tool₂, action₂, params₂⟩ := b
  obtain ⟨tool₂', action₂', params₂'⟩ := b'
  simp only [kind, Prod.mk.injEq] at left right
  simp only [Mergeable, left, right]

end Subtask

open Subtask

section Merge

variable [DecidableEq V]

/-- The loop of `_merge_duplicate_actions`, with the last of the merged subtasks. -/
def mergeFrom (prev : Subtask V) : List (Subtask V) → List (Subtask V)
  | [] => [prev]
  | subtask :: rest =>
      if prev.Mergeable subtask then mergeFrom (prev.absorb subtask) rest
      else prev :: mergeFrom subtask rest

def mergeDuplicateActions : List (Subtask V) → List (Subtask V)
  | [] => []
  | first :: rest => mergeFrom first rest

/-- The pairs that the loop merges. -/
def mergesFrom (prev : Subtask V) : List (Subtask V) → List (Subtask V × Subtask V)
  | [] => []
  | subtask :: rest =>
      if prev.Mergeable subtask then (prev, subtask) :: mergesFrom (prev.absorb subtask) rest
      else mergesFrom subtask rest

def merges : List (Subtask V) → List (Subtask V × Subtask V)
  | [] => []
  | first :: rest => mergesFrom first rest

end Merge

open scoped Classical in
/-- What a subtask adds to the amounts of a kind. -/
noncomputable def amountOf (kind : String × String × (String → Option V)) (subtask : Subtask V) :
    Rat :=
  if subtask.kind = kind then subtask.amount else 0

noncomputable def total (kind : String × String × (String → Option V))
    (plan : List (Subtask V)) : Rat :=
  (plan.map (amountOf kind)).sum

@[simp] theorem total_cons (kind : String × String × (String → Option V)) (subtask : Subtask V)
    (rest : List (Subtask V)) :
    total kind (subtask :: rest) = amountOf kind subtask + total kind rest := by
  simp [total]

theorem amountOf_absorb (kind : String × String × (String → Option V)) {prev subtask : Subtask V}
    (alike : prev.kind = subtask.kind) :
    amountOf kind (prev.absorb subtask) = amountOf kind prev + amountOf kind subtask := by
  by_cases same : subtask.kind = kind <;> simp [amountOf, alike, same]

/-- Only subtasks of one kind are merged, and no kind's total changes. -/
structure KeepsMeaning [DecidableEq V] (plan : List (Subtask V)) : Prop where
  alike : ∀ pair ∈ merges plan, pair.1.kind = pair.2.kind
  totals : ∀ kind, total kind (mergeDuplicateActions plan) = total kind plan

/-- Neighbours that are mergeable are of one kind. -/
def NeighboursAlike (plan : List (Subtask V)) : Prop :=
  plan.IsChain fun a b => a.Mergeable b → a.kind = b.kind

section

variable [DecidableEq V]

/-- Merging subtasks of one kind keeps the totals: by induction on what is left of the loop. -/
theorem total_mergeFrom (kind : String × String × (String → Option V)) (prev : Subtask V)
    (rest : List (Subtask V)) (alike : ∀ pair ∈ mergesFrom prev rest, pair.1.kind = pair.2.kind) :
    total kind (mergeFrom prev rest) = total kind (prev :: rest) := by
  induction rest generalizing prev with
  | nil => rfl
  | cons subtask rest ih =>
    unfold mergeFrom
    unfold mergesFrom at alike
    split at alike
    next mergeable =>
      have same := alike _ List.mem_cons_self
      rw [if_pos mergeable, ih _ fun pair member => alike pair (List.mem_cons_of_mem _ member),
        total_cons, amountOf_absorb kind same, total_cons, total_cons, add_assoc]
    next different =>
      rw [if_neg different, total_cons, ih _ alike, total_cons kind prev]

/-- The subtask that others are merged into is of the kind of the last of them, so that the pairs
that are merged and the neighbours of the plan agree or differ together. -/
theorem mergesFrom_alike_iff (prev last : Subtask V) (rest : List (Subtask V))
    (same : prev.kind = last.kind) :
    (∀ pair ∈ mergesFrom prev rest, pair.1.kind = pair.2.kind) ↔
      NeighboursAlike (last :: rest) := by
  induction rest generalizing prev last with
  | nil => simp [mergesFrom, NeighboursAlike]
  | cons subtask rest ih =>
    unfold mergesFrom NeighboursAlike
    rw [List.isChain_cons_cons, ← mergeable_iff_of_kind same rfl]
    split
    next mergeable =>
      rw [List.forall_mem_cons, imp_iff_right mergeable, ← same]
      refine and_congr_right fun alike => ?_
      exact ih (prev.absorb subtask) subtask alike
    next different =>
      rw [ih subtask subtask rfl]
      exact (and_iff_right (fun mergeable => absurd mergeable different)).symm

/-- Merging keeps a plan's meaning exactly where all mergeable neighbours are of one kind. -/
theorem keepsMeaning_iff (plan : List (Subtask V)) :
    KeepsMeaning plan ↔ NeighboursAlike plan := by
  cases plan with
  | nil => exact iff_of_true ⟨by simp [merges], fun _ => rfl⟩ List.isChain_nil
  | cons first rest =>
    rw [← mergesFrom_alike_iff first first rest rfl]
    exact ⟨fun keeps => keeps.alike,
      fun alike => ⟨alike, fun kind => total_mergeFrom kind first rest alike⟩⟩

end

def readOnlyTools : List String := ["price_feed_tool", "oracle_tool"]

/-- `_reorder_reads_before_writes` -/
def reorderReadsBeforeWrites (plan : List (Subtask V)) : List (Subtask V) :=
  plan.filter (fun subtask => subtask.tool ∈ readOnlyTools) ++
    plan.filter fun subtask => subtask.tool ∉ readOnlyTools

/-- A row of the long-term memory. -/
structure AgentMemory where
  agentId : String
  taskId : String
  summary : String
  outcome : String
  tool : Option String
  protocol : Option String
  predictedGas : Option Int
  actualGas : Option Int
  predictedSlippageBps : Option Int
  actualSlippageBps : Option Int
  createdAt : Rat

structure Memory where
  summary : String
  outcome : String
  tool : Option String
  protocol : Option String
  relevanceScore : Rat

/-- A failure of the tool that the agent has on record. -/
def AgentMemory.isFailure (agentId tool : String) (memory : AgentMemory) : Bool :=
  memory.agentId = agentId ∧ memory.tool = some tool ∧ memory.outcome = "failure"

/-- `get_failure_patterns`: the latest failures first. -/
def getFailurePatterns (memories : List AgentMemory) (agentId tool : String) (limit : Nat) :
    List Memory :=
  (((memories.filter (AgentMemory.isFailure agentId tool)).mergeSort
    fun a b => b.createdAt ≤ a.createdAt).take limit).map fun row =>
      ⟨row.summary, row.outcome, row.tool, row.protocol, 1⟩

/-- The tool is dropped from the agent's plans. -/
def KnownFailure (memories : List AgentMemory) (agentId tool : String) : Prop :=
  5 ≤ (getFailurePatterns memories agentId tool 5).length

/-- Only the number of failures on record matters. -/
theorem knownFailure_iff (memories : List AgentMemory) (agentId tool : String) :
    KnownFailure memories agentId tool ↔
      5 ≤ memories.countP (AgentMemory.isFailure agentId tool) := by
  simp [KnownFailure, getFailurePatterns, List.countP_eq_length_filter]

instance (memories : List AgentMemory) (agentId tool : String) :
    Decidable (KnownFailure memories agentId tool) :=
  decidable_of_iff _ (knownFailure_iff memories agentId tool).symm

/-- `_drop_known_failures`: a plan is not left empty. -/
def dropKnownFailures (memories : List AgentMemory) (agentId : String)
    (plan : List (Subtask V)) : List (Subtask V) :=
  let filtered := plan.filter fun subtask => ¬ KnownFailure memories agentId subtask.tool
  if filtered.isEmpty then plan else filtered

def optimize [DecidableEq V] (memories : List AgentMemory) (agentId : String)
    (plan : List (Subtask V)) : List (Subtask V) :=
  dropKnownFailures memories agentId (reorderReadsBeforeWrites (mergeDuplicateActions plan))

/-- No two neighbours are mergeable. -/
def Settled (plan : List (Subtask V)) : Prop := plan.IsChain fun a b => ¬ a.Mergeable b

/-- Reads stand before writes. -/
def ReadsFirst (plan : List (Subtask V)) : Prop :=
  plan.Pairwise fun a b => b.tool ∈ readOnlyTools → a.tool ∈ readOnlyTools

section

variable [DecidableEq V]

/-- The first of the merged subtasks is the first of the plan, but for its amount. -/
theorem mergeFrom_head (prev : Subtask V) (rest : List (Subtask V)) :
    ∃ head tail, mergeFrom prev rest = head :: tail ∧ head.kind = prev.kind := by
  induction rest generalizing prev with
  | nil => exact ⟨prev, [], rfl, rfl⟩
  | cons subtask rest ih =>
    unfold mergeFrom
    split
    · exact ih (prev.absorb subtask)
    · exact ⟨prev, _, rfl, rfl⟩

theorem mergeFrom_settled (prev : Subtask V) (rest : List (Subtask V)) :
    Settled (mergeFrom prev rest) := by
  induction rest generalizing prev with
  | nil => exact List.isChain_singleton prev
  | cons subtask rest ih =>
    unfold mergeFrom
    split
    · exact ih (prev.absorb subtask)
    next different =>
      obtain ⟨head, tail, merged, same⟩ := mergeFrom_head subtask rest
      have settled := ih subtask
      rw [merged] at settled ⊢
      exact List.isChain_cons_cons.mpr
        ⟨fun mergeable => different ((mergeable_iff_of_kind rfl same).mp mergeable), settled⟩

theorem merge_settled (plan : List (Subtask V)) : Settled (mergeDuplicateActions plan) := by
  cases plan with
  | nil => exact List.isChain_nil
  | cons first rest => exact mergeFrom_settled first rest

theorem mergeFrom_of_settled {prev : Subtask V} {rest : List (Subtask V)}
    (settled : Settled (prev :: rest)) : mergeFrom prev rest = prev :: rest := by
  induction rest generalizing prev with
  | nil => rfl
  | cons subtask rest ih =>
    obtain ⟨different, later⟩ := List.isChain_cons_cons.mp settled
    rw [mergeFrom, if_neg different, ih later]

/-- A plan is not changed by merging exactly where nothing in it can be merged. -/
theorem merge_eq_self_iff (plan : List (Subtask V)) :
    mergeDuplicateActions plan = plan ↔ Settled plan := by
  refine ⟨fun same => same ▸ merge_settled plan, fun settled => ?_⟩
  cases plan with
  | nil => rfl
  | cons first rest => exact mergeFrom_of_settled settled

theorem mergeFrom_tools (prev : Subtask V) (rest : List (Subtask V)) :
    ((mergeFrom prev rest).map Subtask.tool).Sublist ((prev :: rest).map Subtask.tool) := by
  induction rest generalizing prev with
  | nil => exact List.Sublist.refl _
  | cons subtask rest ih =>
    unfold mergeFrom
    split
    next mergeable =>
      exact (ih (prev.absorb subtask)).trans
        (List.Sublist.cons_cons _ (List.Sublist.cons _ (List.Sublist.refl _)))
    · exact (ih subtask).cons_cons prev.tool

/-- Merging takes tools out of a plan, and does not move them. -/
theorem merge_tools (plan : List (Subtask V)) :
    ((mergeDuplicateActions plan).map Subtask.tool).Sublist (plan.map Subtask.tool) := by
  cases plan with
  | nil => exact List.Sublist.refl _
  | cons first rest => exact mergeFrom_tools first rest

end

section

variable (memories : List AgentMemory) (agentId : String)

/-- A plan whose tools are some of another's, in that plan's order, has its reads first too. -/
theorem readsFirst_of_sublist {plan other : List (Subtask V)} (first : ReadsFirst plan)
    (tools : (other.map Subtask.tool).Sublist (plan.map Subtask.tool)) : ReadsFirst other := by
  have order : (plan.map Subtask.tool).Pairwise
      fun a b => b ∈ readOnlyTools → a ∈ readOnlyTools := List.pairwise_map.mpr first
  exact List.pairwise_map.mp (order.sublist tools)

theorem mem_reorder {plan : List (Subtask V)} {subtask : Subtask V} :
    subtask ∈ reorderReadsBeforeWrites plan ↔ subtask ∈ plan := by
  by_cases isRead : subtask.tool ∈ readOnlyTools <;>
    simp [reorderReadsBeforeWrites, List.mem_filter, isRead]

theorem reorder_readsFirst (plan : List (Subtask V)) :
    ReadsFirst (reorderReadsBeforeWrites plan) := by
  refine List.pairwise_append.mpr ⟨?_, ?_, ?_⟩
  · refine List.pairwise_of_forall_mem_list ?_
    intro a member b _ _
    simpa using (List.mem_filter.mp member).2
  · refine List.pairwise_of_forall_mem_list ?_
    intro a _ b member isRead
    have isWrite := (List.mem_filter.mp member).2
    exact absurd isRead (by simpa using isWrite)
  · intro a member b _ _
    simpa using (List.mem_filter.mp member).2

theorem reorder_of_readsFirst {plan : List (Subtask V)} (first : ReadsFirst plan) :
    reorderReadsBeforeWrites plan = plan := by
  induction plan with
  | nil => rfl
  | cons subtask rest ih =>
    obtain ⟨later, first⟩ := List.pairwise_cons.mp first
    unfold reorderReadsBeforeWrites at ih ⊢
    by_cases isRead : subtask.tool ∈ readOnlyTools
    · simpa [isRead] using ih first
    · -- no read comes after a write
      have writes : ∀ other ∈ rest, other.tool ∉ readOnlyTools :=
        fun other member => mt (later other member) isRead
      have none : rest.filter (fun subtask => subtask.tool ∈ readOnlyTools) = [] :=
        List.filter_eq_nil_iff.mpr (by simpa using writes)
      rw [none, List.nil_append] at ih
      simpa [isRead, none] using ih first

/-- Every tool of the plan is dropped, or none is. -/
def Uniform (plan : List (Subtask V)) : Prop :=
  (∀ subtask ∈ plan, ¬ KnownFailure memories agentId subtask.tool) ∨
    ∀ subtask ∈ plan, KnownFailure memories agentId subtask.tool

theorem drop_uniform (plan : List (Subtask V)) :
    Uniform memories agentId (dropKnownFailures memories agentId plan) := by
  unfold dropKnownFailures
  dsimp only
  split
  next none =>
    refine .inr fun subtask member => ?_
    rw [List.isEmpty_iff, List.filter_eq_nil_iff] at none
    simpa using none subtask member
  next some =>
    refine .inl fun subtask member => ?_
    simpa using (List.mem_filter.mp member).2

theorem drop_of_uniform {plan : List (Subtask V)} (uniform : Uniform memories agentId plan) :
    dropKnownFailures memories agentId plan = plan := by
  unfold dropKnownFailures
  dsimp only
  rcases uniform with none | all
  · rw [List.filter_eq_self.mpr (by simpa using none)]
    split <;> rfl
  · rw [List.filter_eq_nil_iff.mpr (by simpa using all), List.isEmpty_nil, if_pos rfl]

theorem uniform_of_tools {plan other : List (Subtask V)} (uniform : Uniform memories agentId plan)
    (tools : ∀ subtask ∈ other, subtask.tool ∈ plan.map Subtask.tool) :
    Uniform memories agentId other := by
  have named : ∀ subtask ∈ other, ∃ same ∈ plan, same.tool = subtask.tool :=
    fun subtask member => List.mem_map.mp (tools subtask member)
  rcases uniform with none | all
  · refine .inl fun subtask member => ?_
    obtain ⟨same, inside, tool⟩ := named subtask member
    exact tool ▸ none same inside
  · refine .inr fun subtask member => ?_
    obtain ⟨same, inside, tool⟩ := named subtask member
    exact tool ▸ all same inside

theorem drop_sublist (plan : List (Subtask V)) :
    (dropKnownFailures memories agentId plan).Sublist plan := by
  unfold dropKnownFailures
  dsimp only
  split
  · exact List.Sublist.refl _
  · exact List.filter_sublist

end

section

variable [DecidableEq V] (memories : List AgentMemory) (agentId : String)

/-- What is optimized a second time is only merged. -/
theorem optimize_again (plan : List (Subtask V)) :
    optimize memories agentId (optimize memories agentId plan) =
      mergeDuplicateActions (optimize memories agentId plan) := by
  have tools := merge_tools (optimize memories agentId plan)
  have first : ReadsFirst (optimize memories agentId plan) :=
    (reorder_readsFirst (mergeDuplicateActions plan)).sublist (drop_sublist memories agentId _)
  have uniform : Uniform memories agentId (optimize memories agentId plan) :=
    drop_uniform memories agentId (reorderReadsBeforeWrites (mergeDuplicateActions plan))
  rw [optimize, reorder_of_readsFirst (readsFirst_of_sublist first tools)]
  refine drop_of_uniform memories agentId (uniform_of_tools memories agentId uniform ?_)
  exact fun subtask member => tools.subset (List.mem_map_of_mem member)

/-- Optimizing a second time merges neighbours of the result and does nothing else, nothing at all
exactly where no two of them are mergeable, and optimizing a third time changes nothing. -/
theorem optimize_twice (plan : List (Subtask V)) :
    optimize memories agentId (optimize memories agentId plan) =
        mergeDuplicateActions (optimize memories agentId plan) ∧
      (optimize memories agentId (optimize memories agentId plan) =
          optimize memories agentId plan ↔ Settled (optimize memories agentId plan)) ∧
      optimize memories agentId (optimize memories agentId (optimize memories agentId plan)) =
        optimize memories agentId (optimize memories agentId plan) := by
  have again := optimize_again memories agentId plan
  refine ⟨again, by rw [again, merge_eq_self_iff], ?_⟩
  rw [optimize_again, merge_eq_self_iff, again]
  exact merge_settled _

end

/-- A subtask is missing from a result where nothing in that can have absorbed it. -/
def Missing (result : List (Subtask V)) (subtask : Subtask V) : Prop :=
  ∀ other ∈ result, ¬ other.Mergeable subtask

section

variable [DecidableEq V] (memories : List AgentMemory) (agentId : String)

theorem mergeFrom_absorbs (prev : Subtask V) (rest : List (Subtask V)) :
    ∀ subtask ∈ prev :: rest, ∃ other ∈ mergeFrom prev rest, other.Mergeable subtask := by
  induction rest generalizing prev with
  | nil =>
    intro subtask member
    rw [List.mem_singleton.mp member]
    exact ⟨prev, List.mem_cons_self, Mergeable.refl prev⟩
  | cons next rest ih =>
    intro subtask member
    unfold mergeFrom
    split
    next mergeable =>
      have absorbed := ih (prev.absorb next)
      obtain ⟨other, inside, same⟩ := absorbed _ List.mem_cons_self
      have intoPrev : other.Mergeable prev :=
        (mergeable_iff_of_kind rfl (absorb_kind prev next)).mp same
      rcases List.mem_cons.mp member with rfl | member
      · exact ⟨other, inside, intoPrev⟩
      · rcases List.mem_cons.mp member with rfl | member
        · exact ⟨other, inside, intoPrev.trans mergeable⟩
        · exact absorbed subtask (List.mem_cons_of_mem _ member)
    next different =>
      rcases List.mem_cons.mp member with rfl | member
      · exact ⟨subtask, List.mem_cons_self, Mergeable.refl subtask⟩
      · obtain ⟨other, inside, same⟩ := ih next subtask member
        exact ⟨other, List.mem_cons_of_mem _ inside, same⟩

/-- Merging loses no subtask. -/
theorem merge_absorbs {plan : List (Subtask V)} {subtask : Subtask V} (member : subtask ∈ plan) :
    ∃ other ∈ mergeDuplicateActions plan, other.Mergeable subtask := by
  cases plan with
  | nil => cases member
  | cons first rest => exact mergeFrom_absorbs first rest subtask member

/-- A plan has the tools of the reordered one. -/
theorem reordered_tools {plan : List (Subtask V)} (property : String → Prop) :
    (∃ other ∈ reorderReadsBeforeWrites (mergeDuplicateActions plan), property other.tool) ↔
      ∃ other ∈ plan, property other.tool := by
  constructor
  · rintro ⟨other, within, holds⟩
    have named := (merge_tools plan).subset (List.mem_map_of_mem (mem_reorder.mp within))
    obtain ⟨first, named, same⟩ := List.mem_map.mp named
    exact ⟨first, named, same ▸ holds⟩
  · rintro ⟨other, named, holds⟩
    obtain ⟨merged, within, same⟩ := merge_absorbs named
    exact ⟨merged, mem_reorder.mpr within, same.1 ▸ holds⟩

/-- What is missing from an optimized plan is a known failure, and not everything in the plan
is. -/
theorem missing_iff {plan : List (Subtask V)} {subtask : Subtask V} (member : subtask ∈ plan) :
    Missing (optimize memories agentId plan) subtask ↔
      KnownFailure memories agentId subtask.tool ∧
        ∃ other ∈ plan, ¬ KnownFailure memories agentId other.tool := by
  obtain ⟨into, inside, absorbed⟩ := merge_absorbs member
  have ordered := mem_reorder.mpr inside
  rw [← reordered_tools fun tool => ¬ KnownFailure memories agentId tool]
  unfold optimize dropKnownFailures
  dsimp only
  split
  next none =>
    -- everything would be dropped, so that nothing is
    rw [List.isEmpty_iff, List.filter_eq_nil_iff] at none
    refine iff_of_false (fun missing => missing into ordered absorbed) ?_
    rintro ⟨-, other, within, works⟩
    exact none other within (by simpa using works)
  next some =>
    rw [List.isEmpty_iff, List.filter_eq_nil_iff, not_forall] at some
    obtain ⟨other, some⟩ := some
    have works : ∃ other ∈ reorderReadsBeforeWrites (mergeDuplicateActions plan),
        ¬ KnownFailure memories agentId other.tool := ⟨other, by simpa using some⟩
    rw [and_iff_left works]
    constructor
    · intro missing
      by_contra works
      exact missing into (List.mem_filter.mpr ⟨ordered, by simpa [absorbed.1] using works⟩)
        absorbed
    · rintro fails other within same
      have works := (List.mem_filter.mp within).2
      rw [same.1] at works
      simp [fails] at works

end

section Sample

/-- A subtask with an amount and one more parameter. -/
def subtask (tool action key value : String) (amountUsd : Rat) : Subtask String :=
  ⟨tool, action, some amountUsd, fun other => if other = key then some value else none⟩

/-- Two purchases of different tokens. -/
def twoTokens : List (Subtask String) :=
  [subtask "nft_tool" "buy" "nft_id" "7" 50, subtask "nft_tool" "buy" "nft_id" "8" 50]

/-- The second purchase is added to the first. -/
theorem twoTokens_merged :
    (mergeDuplicateActions twoTokens).map Subtask.amount = [100] ∧ ¬ KeepsMeaning twoTokens := by
  refine ⟨by decide +kernel, fun keeps => ?_⟩
  have alike := keeps.alike (subtask "nft_tool" "buy" "nft_id" "7" 50,
    subtask "nft_tool" "buy" "nft_id" "8" 50) List.mem_cons_self
  have same := congrFun (congrArg (fun kind => kind.2.2) alike) "nft_id"
  exact absurd same (by decide)

/-- Two swaps with a price check between them. -/
def swapCheckSwap : List (Subtask String) :=
  [subtask "swap_tool" "swap" "asset" "BTC" 50, subtask "price_feed_tool" "read" "asset" "BTC" 0,
    subtask "swap_tool" "swap" "asset" "BTC" 50]

/-- The price check is moved to the front, and only then are the swaps neighbours. -/
theorem swapCheckSwap_unstable :
    (optimize [] "1" swapCheckSwap).map Subtask.amount = [0, 50, 50] ∧
      (optimize [] "1" (optimize [] "1" swapCheckSwap)).map Subtask.amount = [0, 100] ∧
      optimize [] "1" (optimize [] "1" swapCheckSwap) ≠ optimize [] "1" swapCheckSwap := by
  have once : (optimize [] "1" swapCheckSwap).map Subtask.amount = [0, 50, 50] := by decide
  have twice : (optimize [] "1" (optimize [] "1" swapCheckSwap)).map Subtask.amount =
      [0, 100] := by decide +kernel
  refine ⟨once, twice, fun same => ?_⟩
  rw [same, once] at twice
  exact absurd twice (by decide)

end Sample

end BigX.Reasoning
