import BigX.Wallet.HumanApproval

set_option autoImplicit false

/- What the service approves and what the engine looks up. The engine hashes the agent's
nonce with an action and the service does not, so no approval of the service is found. -/
namespace BigX.Wallet.HumanApproval

open Evm Run

variable (int : String → Option Int) (address : String → Option Address)
  (keccak256 : List Byte → Bytes32)

/-- The bytes that the engine hashes for an action. -/
def Action.lookedUp (action : Action) (engine : Policy.State) : List Byte :=
  Policy.encodeAction action.nftId (engine.agentNonce action.nftId) action.target action.value
    action.calldata

/-- The engine's bytes are one word longer. -/
theorem encode_ne_lookedUp (action : Action) (engine : Policy.State) :
    action.encode ≠ action.lookedUp engine := by
  intro same
  have lengths := congrArg List.length same
  simp only [Action.encode, Action.lookedUp, Policy.encodeAction, Abi.encode, List.length_append,
    Abi.heads_length, List.length_cons, List.length_nil, Abi.tails, Abi.Value.tail,
    Abi.encodeWord_length] at lengths
  omega

/-- `approve` submitted the approval of a request for `action`, and the engine took it. -/
def Submits (action : Action) (entry : Entry) : Prop :=
  ∃ requestId approvingUserId now sending request,
    entry.input = .approve requestId approvingUserId now sending ∧
      entry.before.requests requestId = some request ∧
      readAction int address request.agentId request.target request.value request.calldata =
        .ok action ∧
      entry.output.events ≠ []

/-- Every request in the table has the hash of its own values. -/
def Hashed (state : State) : Prop :=
  ∀ requestId request, state.requests requestId = some request →
    computeActionHash int address keccak256 request.agentId request.target request.value
      request.calldata = .ok request.actionHash

/-- The engine has the approvals that were given, by whomever. -/
def Given (past : List Entry) (now : State) : Prop :=
  ∀ nftId actionHash, now.engine.humanApprovals nftId actionHash = true ↔
    ∃ entry ∈ past, Policy.Approves nftId actionHash entry.output.events

/-- The action was approved by the engine's hash, by other means than the service's approval
of it. -/
def ApprovedOtherwise (action : Action) (past : List Entry) (now : State) : Prop :=
  ∃ other ∈ past, ¬ Submits int address action other ∧
    Policy.Approves action.nftId (keccak256 (action.lookedUp now.engine)) other.output.events

variable {int address keccak256}

theorem Hashed.updateStatus {state : State} (hashed : Hashed int address keccak256 state)
    (requestId : String) (status : ApprovalStatus) :
    Hashed int address keccak256 (state.updateStatus requestId status) := by
  intro other request found
  by_cases same : other = requestId
  · subst same
    simp only [State.updateStatus, Function.update_self, Option.map_eq_some_iff] at found
    obtain ⟨earlier, stored, rfl⟩ := found
    exact hashed other earlier stored
  · simp only [State.updateStatus, Function.update_of_ne same] at found
    exact hashed other request found

theorem requestApproval_hashed (requestId agentId userId target : String) (value : Int)
    (calldata : Calldata) (now expiryMinutes : Int) (state : State)
    (hashed : Hashed int address keccak256 state) :
    Hashed int address keccak256 (requestApproval int address keccak256 requestId agentId userId
      target value calldata now expiryMinutes state).1 := by
  unfold requestApproval
  cases computed : computeActionHash int address keccak256 agentId target value calldata with
  | error raised => exact hashed
  | ok actionHash =>
    intro other request found
    by_cases same : other = requestId
    · subst same
      simp only [Function.update_self, Option.some.injEq] at found
      subst found
      exact computed
    · simp only [Function.update_of_ne same] at found
      exact hashed other request found

/-- The client's transaction is the only thing that touches the engine. -/
theorem approveAction_spec (keccak256 : List Byte → Bytes32) (sending : Sending) (nftId : Uint256) (actionHash : Bytes32)
    (engine : Policy.State) :
    Policy.Extends engine (approveAction keccak256 sending nftId actionHash engine).1.1
        (approveAction keccak256 sending nftId actionHash engine).1.2 ∧
      ((approveAction keccak256 sending nftId actionHash engine).1.2 = [] ∨
        ∃ nonce, (approveAction keccak256 sending nftId actionHash engine).1.2 =
          [.actionApproved nftId actionHash nonce]) := by
  have untouched : Policy.Extends engine engine [] := .of_same rfl (by simp [Policy.Approves])
  unfold approveAction
  cases sending.message with
  | none => exact ⟨untouched, .inl rfl⟩
  | some message =>
    cases sent : Policy.transact keccak256 ⟨message, .approveAction nftId actionHash⟩ engine with
    | error failure =>
      simp only [sent, true_or, and_true]
      exact untouched
    | ok result =>
      obtain ⟨after, output⟩ := result
      simp only [sent]
      refine ⟨Policy.transact_extends _ engine after output sent, .inr ?_⟩
      obtain ⟨events, written, rfl⟩ := (Policy.quietly_eq_ok _ _ _).mp sent
      simp only [Policy.approveAction, bind_eq_ok, onlyRole_eq_ok, pure_eq_ok, exists_and_left,
        exists_const] at written
      cases written.2
      exact ⟨_, rfl⟩

/-- What `approve` finds and does. -/
structure ApproveSpec (int : String → Option Int) (address : String → Option Address)
    (keccak256 : List Byte → Bytes32) (requestId : String) (before after : State)
    (events : List Policy.Event) : Prop where
  extends_ : Policy.Extends before.engine after.engine events
  hashed : Hashed int address keccak256 before → Hashed int address keccak256 after
  submits : events ≠ [] → ∃ request nftId nonce, before.requests requestId = some request ∧
    agentNumber int request.agentId = .ok nftId ∧
    events = [.actionApproved nftId request.actionHash nonce]

/-- An `approve` that does not get to the client. -/
theorem ApproveSpec.quiet {requestId : String} {before after : State}
    (engine : after.engine = before.engine)
    (hashed : Hashed int address keccak256 before → Hashed int address keccak256 after) :
    ApproveSpec int address keccak256 requestId before after [] where
  extends_ := by
    rw [engine]
    exact .of_same rfl (by simp [Policy.Approves])
  hashed := hashed
  submits := fun some_ => absurd rfl some_

theorem approvable_stored (requestId approvingUserId : String) (state : State)
    (request : ApprovalRequest)
    (found : approvable requestId approvingUserId state = .ok request) :
    state.requests requestId = some request := by
  unfold approvable getRequest at found
  cases stored : state.requests requestId with
  | none =>
    rw [stored] at found
    cases found
  | some other =>
    rw [stored] at found
    by_cases stranger : other.userId ≠ approvingUserId
    · simp [stranger, bind, Except.bind, throw, throwThe, MonadExceptOf.throw] at found
    by_cases settled : other.status ≠ .pending
    · simp [stranger, settled, bind, Except.bind, throw, throwThe, MonadExceptOf.throw] at found
    simp only [stranger, settled, bind, Except.bind, ↓reduceIte, pure, Except.pure,
      Except.ok.injEq] at found
    rw [found]

theorem approve_spec (int : String → Option Int) (address : String → Option Address)
    (keccak256 : List Byte → Bytes32) (requestId approvingUserId : String) (now : Int) (sending : Sending)
    (state : State) :
    ApproveSpec int address keccak256 requestId state
      (approve int keccak256 requestId approvingUserId now sending state).1.1
      (approve int keccak256 requestId approvingUserId now sending state).1.2 := by
  unfold approve
  cases found : approvable requestId approvingUserId state with
  | error raised => exact .quiet rfl id
  | ok request =>
    have stored := approvable_stored requestId approvingUserId state request found
    by_cases late : request.expiresAt < now
    · simp only [late, ↓reduceIte]
      exact .quiet rfl fun hashed => hashed.updateStatus requestId .expired
    cases number : agentNumber int request.agentId with
    | error raised =>
      simp only [late, number, ↓reduceIte]
      exact .quiet rfl id
    | ok nftId =>
      obtain ⟨extended, emitted⟩ := approveAction_spec keccak256 sending nftId
        request.actionHash state.engine
      have submits : (approveAction keccak256 sending nftId request.actionHash
          state.engine).1.2 ≠ [] → ∃ other number nonce,
          state.requests requestId = some other ∧ agentNumber int other.agentId = .ok number ∧
            (approveAction keccak256 sending nftId request.actionHash state.engine).1.2 =
              [.actionApproved number other.actionHash nonce] := by
        intro some_
        obtain ⟨nonce, events⟩ := emitted.resolve_left some_
        exact ⟨request, nftId, nonce, stored, number, events⟩
      simp only [late, number, ↓reduceIte]
      split
      · refine ⟨extended, ?_, submits⟩
        intro hashed
        have written : Hashed int address keccak256 ⟨state.requests, _⟩ := hashed
        exact written.updateStatus requestId .approved
      · exact ⟨extended, id, submits⟩

/-- One move: the approvals grow by what the engine emits, and the table stays hashed. -/
theorem step_spec (move : Move) (before after : State) (output : Output)
    (accepted : step int address keccak256 move before = .ok (after, output)) :
    Policy.Extends before.engine after.engine output.events ∧
      (Hashed int address keccak256 before → Hashed int address keccak256 after) := by
  have silent : ∀ nftId actionHash, ¬ Policy.Approves nftId actionHash [] := by
    simp [Policy.Approves]
  cases move with
  | requestApproval requestId agentId userId target value calldata now expiryMinutes =>
    cases accepted
    refine ⟨.of_same ?_ silent, requestApproval_hashed requestId agentId userId target value
      calldata now expiryMinutes before⟩
    unfold requestApproval
    split <;> rfl
  | approve requestId approvingUserId now sending =>
    cases accepted
    have spec := approve_spec int address keccak256 requestId approvingUserId now sending before
    exact ⟨spec.extends_, spec.hashed⟩
  | reject requestId rejectingUserId =>
    cases accepted
    unfold reject
    split
    · exact ⟨.of_same rfl silent, id⟩
    · split
      · exact ⟨.of_same rfl silent, id⟩
      · exact ⟨.of_same rfl silent, fun hashed => hashed.updateStatus requestId .rejected⟩
  | transact transaction =>
    simp only [step] at accepted
    cases attempt : Policy.transact keccak256 transaction before.engine with
    | error failure =>
      rw [attempt] at accepted
      cases accepted
    | ok result =>
      rw [attempt] at accepted
      cases accepted
      exact ⟨Policy.transact_extends transaction before.engine result.1 result.2 attempt, id⟩

theorem given_snoc (past : List Entry) (before after : State) (move : Move) (output : Output)
    (given : Given past before)
    (extended : Policy.Extends before.engine after.engine output.events) :
    Given (past ++ [⟨before, move, output, after⟩]) after := by
  intro nftId actionHash
  rw [extended nftId actionHash, given nftId actionHash]
  simp only [List.mem_append, List.mem_singleton, or_and_right, exists_or, exists_eq_left]

/-- The engine's approvals are those that a run gave. -/
theorem history_given (int : String → Option Int) (address : String → Option Address)
    (keccak256 : List Byte → Bytes32) (deployment : Message) (admin : Address) (moves : List Move) :
    Given (history int address keccak256 deployment admin moves).past
      (history int address keccak256 deployment admin moves).now := by
  apply run_induction (step int address keccak256) (begin_ deployment admin) Given
  · intro nftId actionHash
    simp [begin_, Policy.deploy]
  · intro past now move after output given accepted
    obtain ⟨extended, -⟩ := step_spec move now after output accepted
    exact given_snoc past now after move output given extended

/-- Along a run the table stays hashed. -/
theorem history_hashed (int : String → Option Int) (address : String → Option Address)
    (keccak256 : List Byte → Bytes32) (deployment : Message) (admin : Address) (moves : List Move) :
    ∀ entry ∈ (history int address keccak256 deployment admin moves).past,
      Hashed int address keccak256 entry.before := by
  apply run_before (step int address keccak256) (begin_ deployment admin)
    (Hashed int address keccak256)
  · intro requestId request found
    cases found
  · intro now move after output hashed accepted
    exact (step_spec move now after output accepted).2 hashed

/-- A submission approves the service's hash of its action, and nothing else. -/
theorem Submits.approves {action : Action} {entry : Entry}
    (submitted : Submits int address action entry)
    (accepted : step int address keccak256 entry.input entry.before =
      .ok (entry.after, entry.output))
    (hashed : Hashed int address keccak256 entry.before) (nftId : Uint256) (actionHash : Bytes32) :
    Policy.Approves nftId actionHash entry.output.events ↔
      nftId = action.nftId ∧ actionHash = keccak256 action.encode := by
  obtain ⟨requestId, approvingUserId, now, sending, request, input, stored, read, some_⟩ := submitted
  rw [input] at accepted
  simp only [step, Except.ok.injEq, Prod.mk.injEq] at accepted
  have events := congrArg Output.events accepted.2
  have spec := approve_spec int address keccak256 requestId approvingUserId now sending entry.before
  simp only at events
  rw [events] at spec
  obtain ⟨other, number, nonce, stored', agent, emitted⟩ := spec.submits some_
  cases Option.some.inj (stored.symm.trans stored')
  have hash := hashed requestId request stored
  simp only [computeActionHash, read, bind, Except.bind, pure, Except.pure, Except.ok.injEq] at hash
  have sameAgent : number = action.nftId := by
    simp only [readAction, agent, bind, Except.bind] at read
    repeat' split at read
    all_goals cases read
    rfl
  rw [emitted, ← hash, sameAgent]
  simp only [Policy.Approves, List.mem_singleton, Policy.Event.actionApproved.injEq,
    exists_and_left, exists_eq, and_true]

/-- After a submission the engine has the approval of the service's hash, and the approval
test for the action passes exactly if the action needs no approval, or was approved
otherwise, by the hash with the nonce. Where the test fails, the action is refused. -/
theorem approval_found_iff (int : String → Option Int) (address : String → Option Address)
    (keccak256 : List Byte → Bytes32) (deployment : Message) (admin : Address)
    (moves : List Move) (entry : Entry) (action : Action)
    (inRun : entry ∈ (history int address keccak256 deployment admin moves).past)
    (submitted : Submits int address action entry) (now : State)
    (reached : now = (history int address keccak256 deployment admin moves).now)
    (noCollision : keccak256 action.encode = keccak256 (action.lookedUp now.engine) →
      action.encode = action.lookedUp now.engine) :
    now.engine.humanApprovals action.nftId (keccak256 action.encode) = true ∧
    (Policy.ApprovalPasses keccak256 action.nftId action.target action.value action.calldata
        now.engine ↔
      action.value ≤ (now.engine.policies action.nftId).humanApprovalThreshold ∨
        ApprovedOtherwise int address keccak256 action
          (history int address keccak256 deployment admin moves).past now) ∧
      (¬ Policy.ApprovalPasses keccak256 action.nftId action.target action.value action.calldata
          now.engine →
        ∀ message, Policy.checkAction keccak256 message action.nftId action.target action.value
              action.calldata now.engine ≠ .ok (true, "") ∧
            ∀ expectedNonce result, Policy.consumeAction keccak256 message action.nftId
              expectedNonce action.target action.value action.calldata now.engine ≠ .ok result) := by
  have given := history_given int address keccak256 deployment admin moves
  have hashed := history_hashed int address keccak256 deployment admin moves
  have accepted := run_accepted (step int address keccak256) (begin_ deployment admin) moves
  refine ⟨?_, ?_, ?_⟩
  · rw [reached, given]
    exact ⟨entry, inRun, (submitted.approves (accepted entry inRun) (hashed entry inRun) _ _).mpr
      ⟨rfl, rfl⟩⟩
  · unfold Policy.ApprovalPasses
    have sameBytes : Policy.computeActionHash keccak256 action.nftId action.target action.value
        action.calldata now.engine = keccak256 (action.lookedUp now.engine) := rfl
    rw [sameBytes, reached, given action.nftId, ← reached, ← BitVec.not_lt,
      Decidable.imp_iff_not_or]
    apply or_congr_right
    apply exists_congr
    intro other
    apply and_congr_right
    intro member
    constructor
    · intro approved
      refine ⟨?_, approved⟩
      intro service
      have same := ((service.approves (accepted other member) (hashed other member) _ _).mp
        approved).2
      exact encode_ne_lookedUp action now.engine (noCollision same.symm)
    · exact And.right
  · intro unapproved message
    refine ⟨Policy.checkAction_unapproved keccak256 message _ _ _ _ now.engine unapproved, ?_⟩
    intro expectedNonce result
    exact Policy.consumeAction_unapproved keccak256 message _ expectedNonce _ _ _ now.engine
      unapproved result

section Sample

/-- Agent 7's action for account 6, with the encodings' hashes. -/
def sampleAction : Action := ⟨7#256, 6#160, 60#256, .empty⟩

def sampleInt (text : String) : Option Int := if text = "7" then some 7 else none

def sampleAddress (text : String) : Option Address :=
  if text = "0x0000000000000000000000000000000000000006" then some 6#160 else none

def sampleHash (bytes : List Byte) : Bytes32 :=
  if bytes = sampleAction.encode then
    0x4ef50b9d1ac65a9533faa1bbeef60c1c6f8fd2abe966eb7cd2daae37b87bf388#256
  else if bytes = Policy.encodeAction 7#256 0#256 6#160 60#256 .empty then
    0x40b4b1d75cd643c27a9ee2222f812df3630f503a5a87c06baa6d1e9a9d091626#256
  else 0#256

def sampleMoves : List Move :=
  [.transact ⟨⟨1#160, 0#256⟩, .setPolicy 7#256 100#256 500#256 50#256⟩,
   .transact ⟨⟨1#160, 0#256⟩, .setTargetAllowed 7#256 6#160 true⟩,
   .transact ⟨⟨1#160, 0#256⟩, .grantHumanApproverRole 4#160⟩,
   .requestApproval "r1" "7" "owner" "0x0000000000000000000000000000000000000006" 60 .empty 0 30,
   .approve "r1" "owner" 1 ⟨some ⟨4#160, 60#256⟩, true⟩]

def sampleRun : Run.Trace State Move Output :=
  history sampleInt sampleAddress sampleHash ⟨1#160, 0#256⟩ 1#160 sampleMoves

theorem sample_length : 4 < sampleRun.past.length := by decide +kernel

theorem sample_submits :
    ∃ entry ∈ sampleRun.past, Submits sampleInt sampleAddress sampleAction entry ∧
      entry.after.engine.agentNonce 7#256 = sampleRun.now.engine.agentNonce 7#256 := by
  refine ⟨sampleRun.past.get ⟨4, sample_length⟩, List.get_mem _ _, ?_, by decide +kernel⟩
  refine ⟨"r1", "owner", 1, ⟨some ⟨4#160, 60#256⟩, true⟩,
    ⟨"7", "owner", "0x0000000000000000000000000000000000000006", 60, .empty, .pending, 30,
      0x4ef50b9d1ac65a9533faa1bbeef60c1c6f8fd2abe966eb7cd2daae37b87bf388#256⟩, ?_, ?_, ?_, ?_⟩
  · decide +kernel
  · decide +kernel
  · rfl
  · decide +kernel

end Sample

theorem approval_found_iff_sample :
    sampleRun.now.engine.humanApprovals 7#256
      0x4ef50b9d1ac65a9533faa1bbeef60c1c6f8fd2abe966eb7cd2daae37b87bf388#256 = true := by
  obtain ⟨entry, inRun, submitted, -⟩ := sample_submits
  have found := approval_found_iff sampleInt sampleAddress sampleHash ⟨1#160, 0#256⟩ 1#160
    sampleMoves entry sampleAction inRun submitted sampleRun.now rfl
    (fun same => absurd same (by decide +kernel))
  have hash : sampleHash sampleAction.encode =
      0x4ef50b9d1ac65a9533faa1bbeef60c1c6f8fd2abe966eb7cd2daae37b87bf388#256 := by decide +kernel
  rw [← hash]
  exact found.1

/-- The owner approved, the nonce is the same, and the action still requires approval. -/
theorem approval_found_iff_nonce :
    (∃ entry ∈ sampleRun.past, Submits sampleInt sampleAddress sampleAction entry ∧
        entry.after.engine.agentNonce 7#256 = sampleRun.now.engine.agentNonce 7#256) ∧
      ¬ Policy.ApprovalPasses sampleHash 7#256 6#160 60#256 .empty sampleRun.now.engine ∧
      Policy.checkAction sampleHash ⟨5#160, 60#256⟩ 7#256 6#160 60#256 .empty sampleRun.now.engine =
        .ok (false, "Requires human approval") :=
  ⟨sample_submits, by decide +kernel, by decide +kernel⟩

end BigX.Wallet.HumanApproval
