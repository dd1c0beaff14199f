import BigX.Policy.Executors
import BigX.Run.Latest

set_option autoImplicit false

/- Approvals that stay. The engine never takes an approval back, so each one is used once
only as long as the executors ask for a new one before they ask again. -/
namespace BigX.Policy.TwoStep

open Evm Run

variable (keccak256 : List Byte → Bytes32)

/-- The step approves the action's hash. -/
def approves (action : Action) (entry : Entry) : Bool :=
  entry.input.deed = .call (.approveAction action.nftId (keccak256 action.encode))

/-- The action is above its agent's threshold for approvals. -/
def Executors.above (state : Executors) (action : Action) : Bool :=
  decide ((state.engine.policies action.nftId).humanApprovalThreshold < action.value)

/-- The step is a check of the action that was allowed although it is above the threshold. -/
def allowsAbove (action : Action) (entry : Entry) : Bool :=
  entry.input.deed.checks = some action && entry.before.above action

def touches (action : Action) (entry : Entry) : Bool :=
  approves keccak256 action entry || allowsAbove action entry

/-- An action above the threshold that was allowed before was approved again since. -/
def Renewed (earlier : List Entry) (entry : Entry) : Prop :=
  ∀ action ∈ entry.input.deed.checks, entry.before.above action = true →
    ∀ last ∈ latest (touches keccak256 action) earlier, approves keccak256 action last = true

instance (earlier : List Entry) (entry : Entry) : Decidable (Renewed keccak256 earlier entry) :=
  @Option.decidableForallMem _ (fun action => entry.before.above action = true →
      ∀ last ∈ latest (touches keccak256 action) earlier, approves keccak256 action last = true)
    (fun _ => inferInstance) entry.input.deed.checks

def Executed.isAbove (action : Action) (executed : Executed) : Bool :=
  executed.action = action && executed.above

def Flight.waitsAbove (action : Action) (flight : Flight) : Bool :=
  flight.action = action && flight.above && flight.executedOn = none

/-- The executed actions that checks allowed above the threshold. -/
def Executors.executedAbove (state : Executors) (action : Action) : Nat :=
  state.executed.countP (Executed.isAbove action)

/-- Approvals of an action against its uses. -/
structure Accounted (action : Action) (past : List Entry) (now : Executors) : Prop where
  flagged : now.engine.humanApprovals action.nftId (keccak256 action.encode) = true →
    0 < past.countP (approves keccak256 action)
  used : now.executedAbove action + now.flights.countP (Flight.waitsAbove action) ≤
    past.countP (allowsAbove action)
  untouched : latest (touches keccak256 action) past = none →
    past.countP (approves keccak256 action) = 0
  unused : ∀ last, latest (touches keccak256 action) past = some last →
    approves keccak256 action last = true →
      past.countP (allowsAbove action) + 1 ≤ past.countP (approves keccak256 action)
  covered : past.countP (allowsAbove action) ≤ past.countP (approves keccak256 action)

variable {keccak256}

/-- A step moves actions along; only a check adds one that waits. -/
theorem Done.used {past : List Entry} {last : Entry} {action : Action}
    (held : last.before.executedAbove action +
      last.before.flights.countP (Flight.waitsAbove action) ≤ past.countP (allowsAbove action))
    (done : Done keccak256 last.input.message last.before last.after last.input.deed) :
    last.after.executedAbove action + last.after.flights.countP (Flight.waitsAbove action) ≤
      (past ++ [last]).countP (allowsAbove action) := by
  rw [List.countP_append, List.countP_singleton]
  generalize deed_eq : last.input.deed = deed at done
  cases done with
  | called call engine events accepted after_eq =>
    rw [after_eq]
    exact Nat.le_add_right_of_le held
  | checked checked allowed after_eq =>
    rw [after_eq]
    simp only [Executors.executedAbove, List.countP_append, List.countP_singleton] at held ⊢
    by_cases own : checked = action
    · subst own
      simp only [Flight.waitsAbove, allowsAbove, Executors.above, Deed.checks, deed_eq, decide_true,
        Bool.true_and, Bool.and_true]
      omega
    · simp only [Flight.waitsAbove, own, decide_false, Bool.false_and, Bool.false_eq_true, if_false]
      omega
  | executed index moved above rest taken after_eq =>
    have before := (takeOut_perm taken).countP_eq (Flight.waitsAbove action)
    rw [List.countP_cons] at before
    have arrived : Executed.isAbove action ⟨moved, above, last.input.message.today.toNat⟩ =
        Flight.waitsAbove action ⟨moved, above, none⟩ := by
      simp only [Executed.isAbove, Flight.waitsAbove, decide_true, Bool.and_true]
    have left : Flight.waitsAbove action
        ⟨moved, above, some last.input.message.today.toNat⟩ = false := by
      simp only [Flight.waitsAbove, reduceCtorEq, decide_false, Bool.and_false]
    rw [after_eq]
    simp only [Executors.executedAbove, List.countP_append, List.countP_singleton, arrived, left,
      Bool.false_eq_true, if_false] at held ⊢
    omega
  | recorded index moved above day rest engine taken recording after_eq =>
    have before := (takeOut_perm taken).countP_eq (Flight.waitsAbove action)
    rw [List.countP_cons] at before
    rw [after_eq]
    simp only [Executors.executedAbove] at held ⊢
    omega
  | gaveUp index moved above rest taken after_eq =>
    have before := (takeOut_perm taken).countP_eq (Flight.waitsAbove action)
    rw [List.countP_cons] at before
    rw [after_eq]
    simp only [Executors.executedAbove] at held ⊢
    omega

/-- Only an approval sets the flag. -/
theorem Done.flagged {last : Entry} {action : Action}
    (done : Done keccak256 last.input.message last.before last.after last.input.deed)
    (set : last.after.engine.humanApprovals action.nftId (keccak256 action.encode) = true) :
    approves keccak256 action last = true ∨
      last.before.engine.humanApprovals action.nftId (keccak256 action.encode) = true := by
  generalize deed_eq : last.input.deed = deed at done
  cases done with
  | called call engine events accepted after_eq =>
    have step := transact_step accepted
    have same : last.after.engine = engine := by rw [after_eq]
    rw [same] at set
    cases step with
    | policySet agent perTxLimit dailyLimit threshold meter policies humanApprovals =>
      exact Or.inr (humanApprovals ▸ set)
    | approved agent actionHash meter policies humanApprovals =>
      rcases humanApprovals _ _ set with ⟨own, hash⟩ | earlier
      · refine Or.inl ?_
        simp only [approves, deed_eq, own, hash, decide_true]
      · exact Or.inr earlier
    | recorded agent value recording => exact Or.inr (recording.humanApprovals ▸ set)
    | plain call unapproving unrecording meter policies humanApprovals =>
      exact Or.inr (humanApprovals ▸ set)
  | checked action allowed after_eq =>
    rw [after_eq] at set
    exact Or.inr set
  | executed index action above rest taken after_eq =>
    rw [after_eq] at set
    exact Or.inr set
  | recorded index action above day rest engine taken recording after_eq =>
    rw [after_eq] at set
    exact Or.inr (recording.humanApprovals ▸ set)
  | gaveUp index action above rest taken after_eq =>
    rw [after_eq] at set
    exact Or.inr set

theorem of_untouched {action : Action} {entry : Entry}
    (untouched : ¬ touches keccak256 action entry = true) :
    approves keccak256 action entry = false ∧ allowsAbove action entry = false := by
  rw [touches, Bool.or_eq_true, not_or] at untouched
  exact ⟨Bool.eq_false_iff.mpr untouched.1, Bool.eq_false_iff.mpr untouched.2⟩

/-- A check above the threshold found the approval in place. -/
theorem Done.approved {last : Entry} {action : Action}
    (done : Done keccak256 last.input.message last.before last.after last.input.deed)
    (above : allowsAbove action last = true) :
    last.before.engine.humanApprovals action.nftId (keccak256 action.encode) = true := by
  simp only [allowsAbove, Executors.above, Bool.and_eq_true, decide_eq_true_eq] at above
  obtain ⟨checks, excess⟩ := above
  generalize last.input.deed = deed at done checks
  cases done with
  | checked action allowed after_eq =>
    cases checks
    exact allowed.approved excess
  | _ => cases checks

theorem Accounted.step {past : List Entry} {last : Entry} {action : Action}
    (held : Accounted keccak256 action past last.before)
    (renewed : Renewed keccak256 past last)
    (done : Done keccak256 last.input.message last.before last.after last.input.deed) :
    Accounted keccak256 action (past ++ [last]) last.after := by
  have approvals : (past ++ [last]).countP (approves keccak256 action) =
      past.countP (approves keccak256 action) +
        if approves keccak256 action last = true then 1 else 0 := by
    rw [List.countP_append, List.countP_singleton]
  have checks : (past ++ [last]).countP (allowsAbove action) =
      past.countP (allowsAbove action) + if allowsAbove action last = true then 1 else 0 := by
    rw [List.countP_append, List.countP_singleton]
  -- a check above the threshold uses up the approval that came last
  have room : allowsAbove action last = true →
      past.countP (allowsAbove action) + 1 ≤ past.countP (approves keccak256 action) := by
    intro above
    have some_approval := held.flagged (done.approved above)
    cases touched : latest (touches keccak256 action) past with
    | none =>
      have none_approved := held.untouched touched
      omega
    | some entry =>
      simp only [allowsAbove, Bool.and_eq_true, decide_eq_true_eq] at above
      exact held.unused entry touched (renewed action above.1 above.2 entry touched)
  have not_both : approves keccak256 action last = true → allowsAbove action last = false := by
    intro approved
    simp only [approves, decide_eq_true_eq] at approved
    simp only [allowsAbove, Deed.checks, approved, reduceCtorEq, decide_false, Bool.false_and]
  refine ⟨?_, done.used held.used, ?_, ?_, ?_⟩
  · intro set
    rw [approvals]
    rcases done.flagged set with approved | earlier
    · rw [if_pos approved]
      omega
    · have some_approval := held.flagged earlier
      omega
  · intro none
    rw [latest_snoc] at none
    split at none
    · cases none
    · rename_i untouched
      rw [approvals, held.untouched none, (of_untouched untouched).1]
      rfl
  · intro entry touched approved
    rw [latest_snoc] at touched
    rw [approvals, checks]
    split at touched
    · cases touched
      rw [if_pos approved, not_both approved]
      have covered := held.covered
      simp only [Bool.false_eq_true, if_false]
      omega
    · rename_i untouched
      obtain ⟨unapproved, unchecked⟩ := of_untouched untouched
      rw [unapproved, unchecked]
      exact held.unused entry touched approved
  · rw [approvals, checks]
    have covered := held.covered
    by_cases above : allowsAbove action last = true
    · have enough := room above
      rw [if_pos above]
      omega
    · rw [if_neg above]
      omega

/-- In every run in which an action above the threshold is approved again before it is
asked for again, no more such actions are executed than were approved. -/
theorem approvals_singleUse (keccak256 : List Byte → Bytes32) (deployment : Message)
    (admin : Address) (steps : List Step)
    (renewed : Throughout (Renewed keccak256) (history keccak256 deployment admin steps).past)
    (action : Action) :
    (history keccak256 deployment admin steps).now.executedAbove action ≤
      (history keccak256 deployment admin steps).past.countP (approves keccak256 action) := by
  have kept := run_induction (TwoStep.step keccak256) (.initial deployment admin)
    (fun past now => Throughout (Renewed keccak256) past → Accounted keccak256 action past now)
    ?_ ?_ steps renewed
  · exact Nat.le_trans (Nat.le_trans (Nat.le_add_right _ _) kept.used) kept.covered
  · intro _
    refine ⟨?_, Nat.le_refl 0, fun _ => rfl, ?_, Nat.le_refl 0⟩
    · intro set
      cases set
    · intro last touched
      cases touched
  · intro past now input after output held accepted all
    obtain ⟨earlier, atLast⟩ := (throughout_snoc _ _ _).mp all
    have done : Done keccak256 input.message now after input.deed := step_done accepted
    let last : Entry := ⟨now, input, output, after⟩
    have before : Accounted keccak256 action past last.before := held earlier
    exact before.step atLast done

/-- The action that is approved below, and its hash. -/
def largeAction : Action := ⟨7#256, 6#160, 60#256, Calldata.empty⟩

def largeActionHash : Bytes32 :=
  0x4ef50b9d1ac65a9533faa1bbeef60c1c6f8fd2abe966eb7cd2daae37b87bf388#256

def largeHash (bytes : List Byte) : Bytes32 :=
  if bytes = largeAction.encode then largeActionHash else 0#256

/-- An action above the threshold of 50 is approved, asked for and executed. -/
def approvedSteps : List Step :=
  [⟨⟨1#160, 0#256⟩, .call (.setPolicy 7#256 100#256 500#256 50#256)⟩,
   ⟨⟨1#160, 0#256⟩, .call (.setTargetAllowed 7#256 6#160 true)⟩,
   ⟨⟨1#160, 0#256⟩, .call (.approveAction 7#256 largeActionHash)⟩,
   ⟨⟨1#160, 60#256⟩, .check largeAction⟩, ⟨⟨1#160, 60#256⟩, .execute 0⟩,
   ⟨⟨1#160, 60#256⟩, .record 0⟩]

theorem approvals_singleUse_once :
    (history largeHash ⟨1#160, 0#256⟩ 1#160 approvedSteps).now.executedAbove largeAction ≤
      (history largeHash ⟨1#160, 0#256⟩ 1#160 approvedSteps).past.countP
        (approves largeHash largeAction) := by
  apply approvals_singleUse largeHash ⟨1#160, 0#256⟩ 1#160 approvedSteps
  apply throughout_of_index
  decide +kernel

/-- The same approval serves again on the next day. -/
def reusedSteps : List Step :=
  approvedSteps ++
    [⟨⟨1#160, 86400#256⟩, .check largeAction⟩, ⟨⟨1#160, 86400#256⟩, .execute 0⟩]

theorem approvals_singleUse_reused :
    ¬ (history largeHash ⟨1#160, 0#256⟩ 1#160 reusedSteps).now.executedAbove largeAction ≤
      (history largeHash ⟨1#160, 0#256⟩ 1#160 reusedSteps).past.countP
        (approves largeHash largeAction) := by
  decide +kernel

end BigX.Policy.TwoStep
