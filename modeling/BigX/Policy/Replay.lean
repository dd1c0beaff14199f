import BigX.Policy.Steps

set_option autoImplicit false

/- Replay freedom. Approvals are never cleared; they die because the nonce is hashed into
what they approve and moves on with every success. -/
namespace BigX.Policy

open Evm Run

variable {keccak256 : List Byte → Bytes32}

/-- The nonces that successful actions of an agent returned, oldest first. -/
def usedNonces (nftId : Uint256) (past : List Entry) : List Nat :=
  past.filterMap fun entry =>
    if entry.input.call.agent = some nftId then entry.output.usedNonce.map BitVec.toNat else none

/-- The bytes an accepted entry had to have approved, with the agent they belong to. -/
def approvedBytes (entry : Entry) : Option (Uint256 × List Byte) :=
  match entry.input.call with
  | .consumeAction nftId _ target value data =>
      if (entry.before.policies nftId).humanApprovalThreshold < value then
        some (nftId, encodeAction nftId (entry.before.agentNonce nftId) target value data)
      else none
  | _ => none

/-- The entry succeeded on the strength of `humanApprovals[nftId][actionHash]`. -/
def UsesApproval (keccak256 : List Byte → Bytes32) (nftId : Uint256) (actionHash : Bytes32)
    (entry : Entry) : Prop :=
  ∃ bytes, approvedBytes entry = some (nftId, bytes) ∧ keccak256 bytes = actionHash

/-- The hash function separates all the bytes the run had to have approved. -/
def CollisionFree (keccak256 : List Byte → Bytes32) (past : List Entry) : Prop :=
  Set.InjOn keccak256 {bytes | ∃ entry ∈ past, ∃ nftId, approvedBytes entry = some (nftId, bytes)}

theorem usedNonces_snoc (nftId : Uint256) (past : List Entry) (entry : Entry) :
    usedNonces nftId (past ++ [entry]) = usedNonces nftId past ++
      (if entry.input.call.agent = some nftId then entry.output.usedNonce.map BitVec.toNat
        else none).toList := by
  simp only [usedNonces, List.filterMap_append, List.filterMap_cons, List.filterMap_nil]
  split <;> rename_i same <;> rw [same] <;> rfl

/-- The nonce is part of what is hashed. -/
theorem encodeAction_nonce (nftId nonce nonce' : Uint256) (target target' : Address)
    (value value' : Uint256) (data data' : Calldata)
    (same : encodeAction nftId nonce target value data =
      encodeAction nftId nonce' target' value' data') : nonce = nonce' := by
  have values := Abi.encode_inj
    [.uint256 nftId, .uint256 nonce, .address target, .uint256 value, .bytes data]
    [.uint256 nftId, .uint256 nonce', .address target', .uint256 value', .bytes data'] rfl same
  simp only [List.cons.injEq, Abi.Value.uint256.injEq] at values
  exact values.2.1

/-- What an entry did to the nonce of an agent: its own action uses it up. -/
theorem Step.nonce {message : Message} {before after : State} {output : Output} {call : Call}
    (step : Step keccak256 message before after output call) (nftId : Uint256) :
    if call.agent = some nftId then
      output.usedNonce = some (before.agentNonce nftId) ∧
        (after.agentNonce nftId).toNat = (before.agentNonce nftId).toNat + 1
    else after.agentNonce nftId = before.agentNonce nftId := by
  cases step with
  | consume agent expectedNonce target value data events spent newNonce step output_eq =>
    simp only [Call.agent, Option.some.injEq]
    rw [step.after_eq, output_eq]
    split
    · rename_i same
      subst same
      simp only [Function.update_self, step.advanced, and_self]
    · rename_i different
      have other : nftId ≠ agent := fun equal => different equal.symm
      simp only [Function.update_of_ne other]
  | admin call plain _ _ _ _ after_eq =>
    rw [plain, after_eq]
    rfl

/-- Nonces in use only go up. -/
def NonceLess (first second : Entry) : Prop :=
  ∀ nftId, first.input.call.agent = some nftId → second.input.call.agent = some nftId →
    (first.before.agentNonce nftId).toNat < (second.before.agentNonce nftId).toNat

/-- The past used up exactly the nonces below the present ones. -/
structure NoncesUsed (past : List Entry) (now : State) : Prop where
  range : ∀ nftId, usedNonces nftId past = List.range (now.agentNonce nftId).toNat
  below : ∀ entry ∈ past, ∀ nftId, entry.input.call.agent = some nftId →
    (entry.before.agentNonce nftId).toNat < (now.agentNonce nftId).toNat
  ordered : past.Pairwise NonceLess

theorem NoncesUsed.step {past : List Entry} (entry : Entry) (held : NoncesUsed past entry.before)
    (step : Step keccak256 entry.input.message entry.before entry.after entry.output
      entry.input.call) : NoncesUsed (past ++ [entry]) entry.after := by
  refine ⟨?_, ?_, ?_⟩
  · intro nftId
    have nonce := step.nonce nftId
    rw [usedNonces_snoc, held.range nftId]
    split at nonce
    · rename_i own
      rw [if_pos own, nonce.1, nonce.2, List.range_succ]
      rfl
    · rename_i other
      rw [if_neg other, nonce]
      exact List.append_nil _
  · intro earlier member nftId own
    have nonce := step.nonce nftId
    rcases List.mem_append.mp member with inPast | last
    · have less := held.below earlier inPast nftId own
      split at nonce
      · omega
      · rw [nonce]
        exact less
    · rw [List.mem_singleton.mp last] at own ⊢
      rw [if_pos own] at nonce
      omega
  · rw [List.pairwise_append]
    refine ⟨held.ordered, List.pairwise_singleton _ _, ?_⟩
    intro earlier inPast last isLast nftId own _
    rw [List.mem_singleton.mp isLast]
    exact held.below earlier inPast nftId own

theorem noncesUsed_run (deployment : Message) (admin : Address)
    (transactions : List Transaction) :
    NoncesUsed (history keccak256 (deploy deployment admin).1 transactions).past
      (history keccak256 (deploy deployment admin).1 transactions).now :=
  run_induction (transact keccak256) (deploy deployment admin).1 NoncesUsed
    ⟨fun _ => rfl, (fun _ member => nomatch member), List.Pairwise.nil⟩
    (fun _ now transaction after output held accepted =>
      held.step ⟨now, transaction, output, after⟩
        (transact_step transaction now after output accepted))
    transactions

theorem approvedBytes_agent {entry : Entry} {nftId : Uint256} {bytes : List Byte}
    (approved : approvedBytes entry = some (nftId, bytes)) :
    entry.input.call.agent = some nftId ∧ ∃ target value data,
      bytes = encodeAction nftId (entry.before.agentNonce nftId) target value data := by
  unfold approvedBytes at approved
  split at approved
  · rename_i agent _ target value data called
    split at approved
    · cases approved
      exact ⟨by rw [called]; rfl, target, value, data, rfl⟩
    · cases approved
  · cases approved

/-- One approval cannot serve two entries whose nonces differ. -/
theorem usesApproval_once {past : List Entry} (free : CollisionFree keccak256 past)
    {first second : Entry} (inPast : first ∈ past) (inPast' : second ∈ past)
    (less : NonceLess first second) (nftId : Uint256) (actionHash : Bytes32)
    (uses : UsesApproval keccak256 nftId actionHash first) :
    ¬ UsesApproval keccak256 nftId actionHash second := by
  rintro ⟨bytes', approved', hashed'⟩
  obtain ⟨bytes, approved, hashed⟩ := uses
  have same : bytes = bytes' :=
    free ⟨first, inPast, nftId, approved⟩ ⟨second, inPast', nftId, approved'⟩
      (hashed.trans hashed'.symm)
  obtain ⟨own, target, value, data, encoded⟩ := approvedBytes_agent approved
  obtain ⟨own', target', value', data', encoded'⟩ := approvedBytes_agent approved'
  rw [encoded, encoded'] at same
  have nonces := encodeAction_nonce nftId _ _ _ _ _ _ _ _ same
  have increased := less nftId own own'
  rw [nonces] at increased
  exact Nat.lt_irrefl _ increased

/-- An entry that uses an approval found it given. -/
theorem usesApproval_given {entry : Entry} {nftId : Uint256} {actionHash : Bytes32}
    (step : Step keccak256 entry.input.message entry.before entry.after entry.output
      entry.input.call) (uses : UsesApproval keccak256 nftId actionHash entry) :
    entry.before.humanApprovals nftId actionHash = true := by
  obtain ⟨bytes, approved, rfl⟩ := uses
  unfold approvedBytes at approved
  generalize called : entry.input.call = call at step approved
  cases step with
  | consume agent expectedNonce target value data events spent newNonce step =>
    dsimp only at approved
    split at approved
    · rename_i above
      cases approved
      exact step.approved above
    · cases approved
  | admin call plain =>
    split at approved
    · cases plain
    · cases approved

/-- In every run the nonces returned for an agent are 0, 1, 2, .. in order, and unless the
hash function collides on what the run hashed, no approval entry ever lets two actions
through. -/
theorem replay_free (keccak256 : List Byte → Bytes32) (deployment : Message) (admin : Address)
    (transactions : List Transaction)
    (free : CollisionFree keccak256
      (history keccak256 (deploy deployment admin).1 transactions).past) :
    (∀ nftId, usedNonces nftId (history keccak256 (deploy deployment admin).1 transactions).past =
      List.range (usedNonces nftId
        (history keccak256 (deploy deployment admin).1 transactions).past).length) ∧
    ∀ nftId actionHash,
      (∀ entry ∈ (history keccak256 (deploy deployment admin).1 transactions).past,
        UsesApproval keccak256 nftId actionHash entry →
          entry.before.humanApprovals nftId actionHash = true) ∧
      (history keccak256 (deploy deployment admin).1 transactions).past.Pairwise fun first second =>
        ¬ (UsesApproval keccak256 nftId actionHash first ∧
          UsesApproval keccak256 nftId actionHash second) := by
  have nonces := @noncesUsed_run keccak256 deployment admin transactions
  refine ⟨?_, ?_⟩
  · intro nftId
    rw [nonces.range nftId, List.length_range]
  · intro nftId actionHash
    refine ⟨?_, ?_⟩
    · intro entry member uses
      have accepted := run_accepted (transact keccak256) (deploy deployment admin).1 transactions
        entry member
      exact usesApproval_given
        (transact_step entry.input entry.before entry.after entry.output accepted) uses
    · refine nonces.ordered.imp_of_mem ?_
      rintro first second inPast inPast' less ⟨uses, uses'⟩
      exact usesApproval_once free inPast inPast' less nftId actionHash uses uses'

theorem collisionFree_of_one (past : List Entry)
    (few : (past.filterMap approvedBytes).length ≤ 1) : CollisionFree keccak256 past := by
  have found : ∀ bytes ∈ {bytes | ∃ entry ∈ past, ∃ nftId,
      approvedBytes entry = some (nftId, bytes)}, ∃ nftId, (nftId, bytes) ∈
        past.filterMap approvedBytes := by
    rintro bytes ⟨entry, inPast, nftId, approved⟩
    exact ⟨nftId, List.mem_filterMap.mpr ⟨entry, inPast, approved⟩⟩
  intro first inRun second inRun' _
  obtain ⟨nftId, member⟩ := found first inRun
  obtain ⟨nftId', member'⟩ := found second inRun'
  generalize past.filterMap approvedBytes = approved at few member member'
  match approved with
  | [] => cases member
  | [only] =>
    rw [List.mem_singleton] at member member'
    exact congrArg Prod.snd (member.trans member'.symm)
  | _ :: _ :: _ => simp at few

/-- The hash of the one action that is approved below. -/
def sampleHash (bytes : List Byte) : Bytes32 :=
  if bytes = encodeAction 7#256 0#256 6#160 60#256 ⟨[0xab#8, 0xcd#8], by decide⟩ then
    0xbf4f88528d7907cb7127d4712d2f70a69046a0194d2ace17b55ca617faeaeb38#256
  else 0#256

/-- An action above the threshold is approved, sent and sent again. -/
def sampleRun : Run.Trace State Transaction Output :=
  history sampleHash (deploy ⟨1#160, 0#256⟩ 1#160).1
    [⟨⟨1#160, 0#256⟩, .setPolicy 7#256 100#256 500#256 50#256⟩,
     ⟨⟨1#160, 0#256⟩, .setTargetAllowed 7#256 6#160 true⟩,
     ⟨⟨1#160, 0#256⟩, .grantExecutorRole 5#160⟩,
     ⟨⟨1#160, 0#256⟩, .grantHumanApproverRole 4#160⟩,
     ⟨⟨4#160, 0#256⟩, .approveAction 7#256
       0xbf4f88528d7907cb7127d4712d2f70a69046a0194d2ace17b55ca617faeaeb38#256⟩,
     ⟨⟨5#160, 60#256⟩,
       .consumeAction 7#256 0#256 6#160 60#256 ⟨[0xab#8, 0xcd#8], by decide⟩⟩,
     ⟨⟨5#160, 60#256⟩,
       .consumeAction 7#256 1#256 6#160 60#256 ⟨[0xab#8, 0xcd#8], by decide⟩⟩]

example : usedNonces 7#256 sampleRun.past = [0] := by decide +kernel

theorem replay_free_sample :
    usedNonces 7#256 sampleRun.past = List.range (usedNonces 7#256 sampleRun.past).length ∧
      sampleRun.past.Pairwise fun first second =>
        ¬ (UsesApproval sampleHash 7#256
            0xbf4f88528d7907cb7127d4712d2f70a69046a0194d2ace17b55ca617faeaeb38#256 first ∧
          UsesApproval sampleHash 7#256
            0xbf4f88528d7907cb7127d4712d2f70a69046a0194d2ace17b55ca617faeaeb38#256 second) := by
  have replayFree := replay_free sampleHash ⟨1#160, 0#256⟩ 1#160 _
    (collisionFree_of_one sampleRun.past (by decide +kernel))
  exact ⟨replayFree.1 7#256, (replayFree.2 7#256 _).2⟩

end BigX.Policy
