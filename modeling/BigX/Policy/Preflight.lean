import BigX.Policy.Steps

set_option autoImplicit false

/- The policy stated once, and that the copy that is asked and the copy that is enforced
both decide by it. -/
namespace BigX.Policy

open Evm Run

variable (keccak256 : List Byte → Bytes32)

inductive Verdict
  | allowed
  | refused (reason : String)
  | overflow

/-- The first check that fails decides. -/
def verdict (message : Message) (nftId : Uint256) (target : Address) (value : Uint256)
    (data : Calldata) (state : State) : Verdict :=
  let total := (state.meter nftId).read message.today.toNat + value.toNat
  if (state.policies nftId).exists_ = false then .refused "No policy set for agent"
  else if state.allowedTargets nftId target = false then .refused "Target not allowlisted"
  else if (state.policies nftId).perTxLimit < value then .refused "Exceeds per-tx limit"
  else if 2 ^ 256 ≤ total then .overflow
  else if (state.policies nftId).dailyLimit.toNat < total then .refused "Exceeds daily limit"
  else if (state.policies nftId).humanApprovalThreshold < value ∧
      state.humanApprovals nftId (computeActionHash keccak256 nftId target value data state) = false
    then .refused "Requires human approval"
  else .allowed

/-- What a preflight answers. -/
def Verdict.answer : Verdict → Except Failure (Bool × String)
  | .allowed => .ok (true, "")
  | .refused reason => .ok (false, reason)
  | .overflow => .error .panic

/-- The execution does what the verdict says. -/
def Verdict.Enforced {α : Type} (verdict : Verdict) (execution : Except Failure α) : Prop :=
  match verdict with
  | .allowed => ∃ executed, execution = .ok executed
  | .refused reason => execution = .error (.reason reason)
  | .overflow => execution = .error .panic

theorem checkAction_eq (message : Message) (nftId : Uint256) (target : Address) (value : Uint256)
    (data : Calldata) (state : State) :
    checkAction keccak256 message nftId target value data state =
      (verdict keccak256 message nftId target value data state).answer := by
  unfold checkAction verdict
  by_cases missing : (state.policies nftId).exists_ = false
  · simp only [missing, ↓reduceIte]
    rfl
  by_cases unlisted : state.allowedTargets nftId target = false
  · simp only [missing, unlisted, ↓reduceIte]
    rfl
  by_cases large : (state.policies nftId).perTxLimit < value
  · simp only [missing, unlisted, large, ↓reduceIte]
    rfl
  simp only [missing, unlisted, large, reduceCtorEq, ↓reduceIte]
  cases sum : (checkedAdd (if state.lastResetDay nftId = message.today then
      state.spentToday nftId else 0#256) value : Except Failure Uint256) with
  | error reason =>
    obtain ⟨exceeded, rfl⟩ := (checkedAdd_eq_error _ _ _).mp sum
    rw [spent_toNat] at exceeded
    simp only [exceeded, ↓reduceIte]
    rfl
  | ok total =>
    have exact_sum := (checkedAdd_eq_ok _ _ _).mp sum
    rw [spent_toNat] at exact_sum
    rw [bind_of_ok _ _ total rfl, ← exact_sum]
    simp only [Nat.not_le.mpr total.isLt, ↓reduceIte, ← BitVec.lt_def]
    by_cases exceeded : (state.policies nftId).dailyLimit < total
    · simp only [exceeded, ↓reduceIte]
      rfl
    by_cases above : (state.policies nftId).humanApprovalThreshold < value
    · by_cases unapproved : state.humanApprovals nftId
          (computeActionHash keccak256 nftId target value data state) = false
      · simp only [exceeded, above, unapproved, and_self, ↓reduceIte]
        rfl
      · simp only [exceeded, above, unapproved, reduceCtorEq, and_false, ↓reduceIte]
        rfl
    · simp only [exceeded, above, false_and, ↓reduceIte]
      rfl

/-- With a nonce left to move on to, recording an action within 256 bits cannot fail. -/
theorem recordConsumption_total (message : Message) (nftId : Uint256) (target : Address)
    (value : Uint256) (state : State) (total : Uint256)
    (sum : total.toNat = (state.meter nftId).read message.today.toNat + value.toNat)
    (room : (state.agentNonce nftId).toNat + 1 < 2 ^ 256) :
    ∃ result, recordConsumption message nftId target value state = .ok result := by
  have advanced : (BitVec.ofNat 256 ((state.agentNonce nftId).toNat + 1)).toNat =
      (state.agentNonce nftId).toNat + 1 := by
    rw [BitVec.toNat_ofNat, Nat.mod_eq_of_lt room]
  exact ⟨_, (recordConsumption_ok message nftId target value state _).mpr
    ⟨total, _, sum, advanced, rfl⟩⟩

/-- Sent by an executor with the current nonce, and with a nonce left to move on to. -/
theorem consumeAction_enforced (message : Message) (nftId : Uint256) (target : Address) (value : Uint256)
    (data : Calldata) (state : State)
    (executor : state.roles.hasRole .executor message.sender = true)
    (room : (state.agentNonce nftId).toNat + 1 < 2 ^ 256) :
    (verdict keccak256 message nftId target value data state).Enforced
      (consumeAction keccak256 message nftId (state.agentNonce nftId) target value data state) := by
  unfold consumeAction verdict computeActionHash
  rw [bind_of_ok _ _ () ((onlyRole_eq_ok _ _ _ _).mpr executor), bind_of_ok _ _ () (require_of _ _ rfl)]
  by_cases missing : (state.policies nftId).exists_ = false
  · simp only [missing, ↓reduceIte]
    rfl
  rw [bind_of_ok _ _ () (require_of _ _ (Bool.of_not_eq_false missing))]
  by_cases unlisted : state.allowedTargets nftId target = false
  · simp only [missing, unlisted, reduceCtorEq, ↓reduceIte]
    rfl
  rw [bind_of_ok _ _ () (require_of _ _ (Bool.of_not_eq_false unlisted))]
  by_cases large : (state.policies nftId).perTxLimit < value
  · rw [bind_of_error _ _ _ (require_of_not _ _ (not_not.mpr large))]
    simp only [missing, unlisted, large, reduceCtorEq, ↓reduceIte]
    rfl
  rw [bind_of_ok _ _ () (require_of _ _ large)]
  simp only [missing, unlisted, large, reduceCtorEq, ↓reduceIte]
  cases sum : (checkedAdd (if state.lastResetDay nftId = message.today then
      state.spentToday nftId else 0#256) value : Except Failure Uint256) with
  | error reason =>
    obtain ⟨exceeded, rfl⟩ := (checkedAdd_eq_error _ _ _).mp sum
    rw [spent_toNat] at exceeded
    simp only [exceeded, ↓reduceIte]
    rfl
  | ok total =>
    have exact_sum := (checkedAdd_eq_ok _ _ _).mp sum
    rw [spent_toNat] at exact_sum
    rw [bind_of_ok _ _ total rfl, ← exact_sum]
    simp only [Nat.not_le.mpr total.isLt, ↓reduceIte, ← BitVec.lt_def]
    by_cases exceeded : (state.policies nftId).dailyLimit < total
    · rw [bind_of_error _ _ _ (require_of_not _ _ (not_not.mpr exceeded))]
      simp only [exceeded, ↓reduceIte]
      rfl
    rw [bind_of_ok _ _ () (require_of _ _ exceeded)]
    obtain ⟨result, recorded⟩ :=
      recordConsumption_total message nftId target value state total exact_sum room
    by_cases above : (state.policies nftId).humanApprovalThreshold < value
    · by_cases unapproved : state.humanApprovals nftId
          (keccak256 (encodeAction nftId (state.agentNonce nftId) target value data)) = false
      · simp only [exceeded, above, unapproved, and_self, ↓reduceIte]
        rfl
      · simp only [exceeded, above, unapproved, reduceCtorEq, and_false, ↓reduceIte]
        rw [bind_of_ok _ _ () (require_of _ _ trivial)]
        exact ⟨result, recorded⟩
    · simp only [exceeded, above, false_and, ↓reduceIte]
      exact ⟨result, recorded⟩

/-- The preflight's answer foretells the execution; `total` is the spent amount and the
value together. -/
structure Foretells {α : Type} (answer : Except Failure (Bool × String))
    (execution : Except Failure α) (total : Nat) : Prop where
  allowed : answer = .ok (true, "") ↔ ∃ executed, execution = .ok executed
  refused : ∀ reason, answer = .ok (false, reason) → execution = .error (.reason reason)
  reverts : (∃ failure, answer = .error failure) ↔ execution = .error .panic
  overflow : execution = .error .panic → 2 ^ 256 ≤ total

theorem Verdict.foretells {α : Type} (verdict : Verdict) (execution : Except Failure α)
    (total : Nat) (enforced : verdict.Enforced execution)
    (overflow : verdict = .overflow → 2 ^ 256 ≤ total) :
    Foretells verdict.answer execution total := by
  cases verdict with
  | allowed =>
    obtain ⟨executed, rfl⟩ := enforced
    refine ⟨?_, ?_, ?_, ?_⟩ <;> simp [Verdict.answer]
  | refused reason =>
    cases enforced
    refine ⟨?_, ?_, ?_, ?_⟩ <;> simp [Verdict.answer]
  | overflow =>
    cases enforced
    refine ⟨?_, ?_, ?_, fun _ => overflow rfl⟩ <;> simp [Verdict.answer]

theorem verdict_overflow (message : Message) (nftId : Uint256) (target : Address)
    (value : Uint256) (data : Calldata) (state : State)
    (exceeded : verdict keccak256 message nftId target value data state = .overflow) :
    2 ^ 256 ≤ (state.meter nftId).read message.today.toNat + value.toNat := by
  by_contra fits
  simp only [verdict, fits, ↓reduceIte] at exceeded
  repeat' split at exceeded
  all_goals cases exceeded

/-- In every state the engine can reach and at every time, `checkAction` foretells what
an executor's `consumeAction` with the current nonce does there, and a refused
`consumeAction` leaves the run where it was. -/
theorem preflight_agrees (deployment : Message) (admin : Address)
    (transactions : List Transaction) (asker message : Message) (nftId : Uint256)
    (target : Address) (value : Uint256) (data : Calldata) (now : State)
    (reached : now = (history keccak256 (deploy deployment admin).1 transactions).now)
    (sameTime : asker.timestamp = message.timestamp)
    (executor : now.roles.hasRole .executor message.sender = true)
    (room : (now.agentNonce nftId).toNat < 2 ^ 256 - 1) :
    Foretells (checkAction keccak256 asker nftId target value data now)
        (consumeAction keccak256 message nftId (now.agentNonce nftId) target value data now)
        ((now.meter nftId).read message.today.toNat + value.toNat) ∧
      ∀ reason, checkAction keccak256 asker nftId target value data now = .ok (false, reason) →
        history keccak256 (deploy deployment admin).1 (transactions ++
            [⟨message, .consumeAction nftId (now.agentNonce nftId) target value data⟩]) =
          history keccak256 (deploy deployment admin).1 transactions := by
  have today : asker.today = message.today := by rw [Message.today, Message.today, sameTime]
  have answers : checkAction keccak256 asker nftId target value data now =
      (verdict keccak256 message nftId target value data now).answer := by
    rw [checkAction_eq, verdict, verdict, today]
  have enforced := consumeAction_enforced keccak256 message nftId target value data now executor
    (by omega)
  have foretells := (verdict keccak256 message nftId target value data now).foretells _ _ enforced
    (verdict_overflow keccak256 message nftId target value data now)
  rw [answers]
  refine ⟨foretells, ?_⟩
  intro reason refused
  have reverts := foretells.refused reason refused
  rw [history, run_snoc]
  refine extend_error _ _ _ (.reason reason) ?_
  rw [← reached]
  simp only [transact, reverts]
  rfl

/-- An executor about to spend 40 of 100, below the approval threshold of 50. -/
theorem preflight_agrees_forty :
    ∃ now : State, now.roles.hasRole .executor 5#160 = true ∧
      Foretells (checkAction (fun _ => 0#256) ⟨8#160, 60#256⟩ 7#256 6#160 40#256 ⟨[], by decide⟩ now)
        (consumeAction (fun _ => 0#256) ⟨5#160, 60#256⟩ 7#256 (now.agentNonce 7#256) 6#160 40#256
          ⟨[], by decide⟩ now) 40 :=
  ⟨_, by decide, (preflight_agrees (fun _ => 0#256) ⟨1#160, 0#256⟩ 1#160
    [⟨⟨1#160, 0#256⟩, .setPolicy 7#256 100#256 500#256 50#256⟩,
     ⟨⟨1#160, 0#256⟩, .setTargetAllowed 7#256 6#160 true⟩,
     ⟨⟨1#160, 0#256⟩, .grantExecutorRole 5#160⟩]
    ⟨8#160, 60#256⟩ ⟨5#160, 60#256⟩ 7#256 6#160 40#256 ⟨[], by decide⟩ _ rfl rfl (by decide)
    (by decide)).1⟩

end BigX.Policy
