import BigX.Account.Contract
import BigX.Policy.Limits
import BigX.Policy.Preflight

set_option autoImplicit false

/- What holds the accounts to the policy. `execute` asks the engine for nothing; its
actions are consumed in their transactions exactly as far as others see to it. -/
namespace BigX.Account

open Evm Run

/-- An action, with its transaction and day. -/
structure Spend where
  transaction : Nat
  day : Nat
  target : Address
  value : Uint256
  data : Calldata
  deriving DecidableEq

/-- `block.timestamp / 1 days` -/
def World.today (world : World) : Nat := (Message.today ⟨.zero, world.timestamp⟩).toNat

def World.spend (world : World) (target : Address) (value : Uint256) (data : Calldata) : Spend :=
  ⟨world.transactions, world.today, target, value, data⟩

def Spend.charge (spend : Spend) : Charge Nat Nat := ⟨spend.day, spend.value.toNat⟩

/-- The action that an account of the agent executes. -/
def executes (token : Address → Option Token) (agent : Token) (entry : Entry) : Option Spend :=
  match entry.input with
  | .start (.execute _ account _ to_ value data _) =>
      if token account = some agent then some (entry.before.spend to_ value data) else none
  | _ => none

/-- The action that the engine consumed. -/
def consumes (nftId : Uint256) (entry : Entry) : Option Spend :=
  match entry.input, entry.output with
  | .start (.engine _ (.consumeAction agent _ target value data)), some ⟨some _, _⟩ =>
      if agent = nftId then some (entry.before.spend target value data) else none
  | _, _ => none

section Hash

variable (keccak256 : List Byte → Bytes32)

/-- An executor asks for an action with the current nonce, and `checkAction` allows it. -/
def Permitted (message : Message) (nftId expectedNonce : Uint256) (target : Address)
    (value : Uint256) (data : Calldata) (engine : Policy.State) : Prop :=
  engine.roles.hasRole .executor message.sender = true ∧
    expectedNonce = engine.agentNonce nftId ∧
    (engine.agentNonce nftId).toNat < 2 ^ 256 - 1 ∧
    Policy.checkAction keccak256 message nftId target value data engine = .ok (true, "")

instance (message : Message) (nftId expectedNonce : Uint256) (target : Address)
    (value : Uint256) (data : Calldata) (engine : Policy.State) :
    Decidable (Permitted keccak256 message nftId expectedNonce target value data engine) :=
  inferInstanceAs (Decidable (_ ∧ _ ∧ _ ∧ _))

/-- The action that somebody asked the engine for, when he may have it. -/
def asks (nftId : Uint256) (entry : Entry) : Option Spend :=
  match entry.input with
  | .start (.engine sender (.consumeAction agent expectedNonce target value data)) =>
      if agent = nftId ∧ Permitted keccak256 ⟨sender, entry.before.timestamp⟩ nftId expectedNonce
          target value data entry.before.engine then
        some (entry.before.spend target value data)
      else none
  | _ => none

/-- In every finished transaction, for each time that the agent executes an action somebody
asks the engine for just this action. -/
def Accompanied (token : Address → Option Token) (agent : Token) (journal : List Entry)
    (now : World) : Prop :=
  ∀ spend, spend.transaction < now.transactions →
    (journal.filterMap (executes token agent)).count spend ≤
      (journal.filterMap (asks keccak256 agent.tokenId)).count spend

end Hash

/-- What the agent's accounts sent out on a day, in finished transactions. -/
def executedOn (token : Address → Option Token) (agent : Token) (journal : List Entry)
    (now : World) (day : Nat) : Nat :=
  sumOn (((journal.filterMap (executes token agent)).filter
    fun spend => spend.transaction < now.transactions).map Spend.charge) day

/-- In every finished transaction each execution has a consumption of its own, and what a day
executes is within the daily limit that a consumption of the day found. -/
structure Enforced (token : Address → Option Token) (agent : Token) (journal : List Entry)
    (now : World) : Prop where
  consumed : ∀ spend, spend.transaction < now.transactions →
    (journal.filterMap (executes token agent)).count spend ≤
      (journal.filterMap (consumes agent.tokenId)).count spend
  daily : ∀ day, executedOn token agent journal now day = 0 ∨
    ∃ entry ∈ journal, ∃ spend, consumes agent.tokenId entry = some spend ∧ spend.day = day ∧
      executedOn token agent journal now day ≤
        (entry.before.engine.policies agent.tokenId).dailyLimit.toNat

/-- What the engine has charged an agent. -/
def charges (nftId : Uint256) (past : List Entry) : List (Charge Nat Nat) :=
  (past.filterMap (consumes nftId)).map Spend.charge

/-- The engine's meter follows its consumptions, and those of a day are within the limit that
one of them found. -/
structure Metered (nftId : Uint256) (past : List Entry) (now : World) : Prop where
  tracks : Tracks 0 (now.engine.meter nftId) (charges nftId past)
  reached : ∀ charge ∈ charges nftId past, charge.day ≤ now.today
  limited : ∀ day, sumOn (charges nftId past) day = 0 ∨
    ∃ entry ∈ past, ∃ spend, consumes nftId entry = some spend ∧ spend.day = day ∧
      sumOn (charges nftId past) day ≤ (entry.before.engine.policies nftId).dailyLimit.toNat

theorem charges_snoc (nftId : Uint256) (past : List Entry) (entry : Entry) :
    charges nftId (past ++ [entry]) =
      charges nftId past ++ ((consumes nftId entry).map Spend.charge).toList := by
  simp only [charges, List.filterMap_append, List.map_append, List.append_cancel_left_eq]
  cases found : consumes nftId entry <;> simp [found]

/-- A stretch that consumes nothing. -/
theorem Metered.idle {nftId : Uint256} {past : List Entry} {entry : Entry}
    (metered : Metered nftId past entry.before) (idle : consumes nftId entry = none)
    (meter : entry.after.engine.meter nftId = entry.before.engine.meter nftId)
    (later : entry.before.today ≤ entry.after.today) :
    Metered nftId (past ++ [entry]) entry.after := by
  have same : charges nftId (past ++ [entry]) = charges nftId past := by
    rw [charges_snoc, idle, Option.map_none, Option.toList_none, List.append_nil]
  refine ⟨?_, ?_, ?_⟩
  · rw [same, meter]
    exact metered.tracks
  · intro charge member
    rw [same] at member
    exact Nat.le_trans (metered.reached charge member) later
  · intro day
    rw [same]
    rcases metered.limited day with none_ | ⟨found, member, rest⟩
    · exact .inl none_
    · exact .inr ⟨found, List.mem_append_left _ member, rest⟩

/-- A stretch in which the engine consumes an action. -/
theorem Metered.consume {nftId : Uint256} {past : List Entry} {entry : Entry} {spend : Spend}
    (metered : Metered nftId past entry.before) (consumed : consumes nftId entry = some spend)
    (day : spend.day = entry.before.today) (sameDay : entry.after.today = entry.before.today)
    (meter : entry.after.engine.meter nftId =
      (entry.before.engine.meter nftId).charge spend.day spend.value.toNat)
    (daily : (entry.before.engine.meter nftId).read spend.day + spend.value.toNat ≤
      (entry.before.engine.policies nftId).dailyLimit.toNat) :
    Metered nftId (past ++ [entry]) entry.after := by
  have grown : charges nftId (past ++ [entry]) =
      charges nftId past ++ [⟨spend.day, spend.value.toNat⟩] := by
    rw [charges_snoc, consumed]
    rfl
  have meterDay : (entry.before.engine.meter nftId).day ≤ spend.day := by
    rw [day]
    exact metered.tracks.day_le _ (Nat.zero_le _) metered.reached
  have reading := metered.tracks.read_eq spend.day meterDay
  refine ⟨?_, ?_, ?_⟩
  · rw [grown, meter]
    exact metered.tracks.charge spend.day spend.value.toNat meterDay
  · intro charge member
    rw [sameDay]
    rw [grown] at member
    rcases List.mem_append.mp member with earlier | last
    · exact metered.reached charge earlier
    · rw [List.mem_singleton.mp last]
      exact le_of_eq day
  · intro other
    rw [grown, sumOn_snoc]
    by_cases today : spend.day = other
    · subst today
      refine .inr ⟨entry, by simp, spend, consumed, rfl, ?_⟩
      rw [if_pos rfl, ← reading]
      exact daily
    · rw [if_neg today, Nat.add_zero]
      rcases metered.limited other with none_ | ⟨found, member, rest⟩
      · exact .inl none_
      · exact .inr ⟨found, List.mem_append_left _ member, rest⟩

variable {keccak256 : List Byte → Bytes32} {chainId : Uint256} {token : Address → Option Token}

/-- The engine consumes only what a permitted call asks for. -/
theorem permitted_of_accepted (message : Message) (nftId expectedNonce : Uint256)
    (target : Address) (value : Uint256) (data : Calldata) (engine : Policy.State)
    (result : (Policy.State × List Policy.Event) × Uint256)
    (accepted : Policy.consumeAction keccak256 message nftId expectedNonce target value data engine =
      .ok result) :
    Permitted keccak256 message nftId expectedNonce target value data engine := by
  obtain ⟨⟨after, events⟩, usedNonce⟩ := result
  obtain ⟨-, spent, newNonce, step⟩ := Policy.consumeAction_ok message nftId expectedNonce target
    value data engine after events usedNonce accepted
  have room : (engine.agentNonce nftId).toNat + 1 < 2 ^ 256 := by
    rw [← step.advanced]
    exact newNonce.isLt
  have enforced := Policy.consumeAction_enforced keccak256 message nftId target value data engine
    step.executor room
  rw [← step.nonce, accepted] at enforced
  refine ⟨step.executor, step.nonce, by omega, ?_⟩
  rw [Policy.checkAction_eq]
  cases decided : Policy.verdict keccak256 message nftId target value data engine with
  | allowed => rfl
  | refused reason =>
    rw [decided] at enforced
    cases enforced
  | overflow =>
    rw [decided] at enforced
    cases enforced

/-- What a stretch of the run keeps, for each agent. -/
structure Kept (keccak256 : List Byte → Bytes32) (token : Address → Option Token)
    (past : List Entry) (entry : Entry) : Prop where
  metered : ∀ nftId, Metered nftId past entry.before →
    Metered nftId (past ++ [entry]) entry.after
  asked : ∀ nftId, asks keccak256 nftId entry = consumes nftId entry
  silent : ∀ agent, (executes token agent entry).isSome → entry.after.engine = entry.before.engine

/-- A stretch that has nothing to do with the engine. -/
theorem Kept.of_engine {past : List Entry} {entry : Entry}
    (engine : entry.after.engine = entry.before.engine)
    (later : entry.before.today ≤ entry.after.today)
    (other : ∀ sender call, entry.input ≠ .start (.engine sender call)) :
    Kept keccak256 token past entry := by
  have asked : ∀ nftId, asks keccak256 nftId entry = none := by
    intro nftId
    unfold asks
    split
    · rename_i input
      exact absurd input (other _ _)
    · rfl
  have consumed : ∀ nftId, consumes nftId entry = none := by
    intro nftId
    unfold consumes
    split
    · rename_i input _
      exact absurd input (other _ _)
    · rfl
  refine ⟨?_, fun nftId => by rw [asked, consumed], fun _ _ => engine⟩
  intro nftId metered
  exact metered.idle (consumed nftId) (by rw [engine]) later

/-- A consumption by the engine is charged, and asks for what it consumes. -/
theorem consume_kept (past : List Entry) (now : World) (sender : Address)
    (agent expectedNonce : Uint256) (target : Address) (value : Uint256) (data : Calldata)
    {after : Policy.State} {output : Policy.Output} {events : List Policy.Event}
    {spent newNonce : Uint256}
    (step : Policy.ConsumeStep keccak256 ⟨sender, now.timestamp⟩ agent expectedNonce target value
      data now.engine after events spent newNonce)
    (output_eq : output = ⟨some (now.engine.agentNonce agent), events⟩)
    (permitted : Permitted keccak256 ⟨sender, now.timestamp⟩ agent expectedNonce target value data
      now.engine) :
    Kept keccak256 token past
      ⟨now, .start (.engine sender (.consumeAction agent expectedNonce target value data)),
        some output, { now with engine := after }⟩ := by
  have consumed : ∀ nftId, consumes nftId ⟨now,
      .start (.engine sender (.consumeAction agent expectedNonce target value data)),
      some output, { now with engine := after }⟩ =
        if agent = nftId then some (now.spend target value data) else none := by
    intro nftId
    rw [output_eq]
    rfl
  refine ⟨?_, ?_, ?_⟩
  · intro nftId metered
    by_cases same : agent = nftId
    · subst same
      refine metered.consume ((consumed agent).trans (if_pos rfl)) rfl rfl ?_ ?_
      · have charged := step.meter keccak256 agent
        rw [if_pos rfl] at charged
        exact charged
      · have daily := step.daily
        rw [step.charged] at daily
        exact daily
    · refine metered.idle ((consumed nftId).trans (if_neg same)) ?_ (Nat.le_refl _)
      have charged := step.meter keccak256 nftId
      rw [if_neg same] at charged
      exact charged
  · intro nftId
    refine Eq.trans ?_ (consumed nftId).symm
    by_cases same : agent = nftId
    · subst same
      simp only [asks, true_and, if_pos permitted, ↓reduceIte]
    · simp only [asks, same, false_and, ↓reduceIte]
  · intro agent some_
    cases some_

/-- Any other call of the engine leaves the meters alone. -/
theorem admin_kept (past : List Entry) (now : World) (sender : Address) {call : Policy.Call}
    (plain : call.agent = none) {after : Policy.State} (output : Policy.Output)
    (meter : ∀ nftId, after.meter nftId = now.engine.meter nftId) :
    Kept keccak256 token past
      ⟨now, .start (.engine sender call), some output, { now with engine := after }⟩ := by
  have idle : ∀ nftId, consumes nftId ⟨now, .start (.engine sender call), some output,
      { now with engine := after }⟩ = none := by
    intro nftId
    unfold consumes
    split
    · rename_i input _
      cases input
      cases plain
    · rfl
  have unasked : ∀ nftId, asks keccak256 nftId ⟨now, .start (.engine sender call), some output,
      { now with engine := after }⟩ = none := by
    intro nftId
    unfold asks
    split
    · rename_i input
      cases input
      cases plain
    · rfl
  refine ⟨?_, fun nftId => (unasked nftId).trans (idle nftId).symm, ?_⟩
  · intro nftId metered
    exact metered.idle (idle nftId) (meter nftId) (Nat.le_refl _)
  · intro agent some_
    cases some_

/-- A call of the engine. -/
theorem engine_kept (chainId : Uint256) (past : List Entry) (now : World) (sender : Address) (call : Policy.Call)
    (progress : Progress World Rest Output)
    (accepted : enter chainId token keccak256 (.engine sender call) now = .ok progress) :
    Kept keccak256 token past
      ⟨now, .start (.engine sender call), progress.output, progress.state⟩ := by
  simp only [enter, bind_eq_ok, pure_eq_ok] at accepted
  obtain ⟨⟨after, output⟩, transacted, rfl⟩ := accepted
  have step := Policy.transact_step _ now.engine after output transacted
  cases step with
  | consume agent expectedNonce target value data events spent newNonce step output_eq =>
    apply consume_kept past now sender agent expectedNonce target value data step output_eq
    simp only [Policy.transact] at transacted
    cases attempt : Policy.consumeAction keccak256 ⟨sender, now.timestamp⟩ agent expectedNonce
        target value data now.engine with
    | error failure =>
      rw [attempt] at transacted
      cases transacted
    | ok result => exact permitted_of_accepted _ _ _ _ _ _ _ result attempt
  | admin call plain roles policies allowedTargets humanApprovals after_eq output_eq =>
    apply admin_kept past now sender plain output
    intro nftId
    rw [after_eq]
    rfl

theorem advance_kept (past : List Entry) (now : World) (stretch : Stretch Call Rest)
    (progress : Progress World Rest Output)
    (accepted : (machine chainId token keccak256).advance stretch now = .ok progress) :
    Kept keccak256 token past ⟨now, stretch, progress.output, progress.state⟩ := by
  cases stretch with
  | rest pending =>
    cases accepted
    exact .of_engine rfl (Nat.le_refl _) (by simp)
  | start call =>
    cases call with
    | begin_ timestamp =>
      simp only [Machine.advance, machine, enter, begin_, bind_eq_ok, require_eq_ok, pure_eq_ok,
        exists_const] at accepted
      obtain ⟨⟨-, later⟩, rfl⟩ := accepted
      exact .of_engine rfl (Message.today_mono ⟨.zero, now.timestamp⟩ ⟨.zero, timestamp⟩ later) (by simp)
    | execute sender account msgValue to_ value data operation =>
      simp only [Machine.advance, machine, enter, execute] at accepted
      split at accepted
      · cases accepted
      · simp only [bind_eq_ok, require_eq_ok, pure_eq_ok, exists_and_left, exists_const] at accepted
        obtain ⟨_, -, -, -, _, -, -, rfl⟩ := accepted
        exact .of_engine rfl (Nat.le_refl _) (by simp)
    | receive_ account msgValue =>
      cases accepted
      exact .of_engine rfl (Nat.le_refl _) (by simp)
    | transferToken tokenContract tokenId owner =>
      cases accepted
      exact .of_engine rfl (Nat.le_refl _) (by simp)
    | engine sender call => exact engine_kept chainId past now sender call progress accepted

/-- Along every run the meter follows the consumptions, these are what was asked for, and
`execute` touches nothing of the engine. -/
theorem journal_kept (chainId : Uint256) (token : Address → Option Token)
    (keccak256 : List Byte → Bytes32) (deployment : Message) (admin : Address) (moves : List (Move Call)) :
    (∀ nftId, Metered nftId
        ((machine chainId token keccak256).journal (genesis deployment admin) moves)
        (run (machine chainId token keccak256).step ⟨genesis deployment admin, []⟩ moves).now.state) ∧
      ∀ entry ∈ (machine chainId token keccak256).journal (genesis deployment admin) moves,
        (∀ nftId, asks keccak256 nftId entry = consumes nftId entry) ∧
          ∀ agent, (executes token agent entry).isSome →
            entry.after.engine = entry.before.engine := by
  apply journal_induction (machine chainId token keccak256) (genesis deployment admin)
    (fun past now => (∀ nftId, Metered nftId past now) ∧ ∀ entry ∈ past,
      (∀ nftId, asks keccak256 nftId entry = consumes nftId entry) ∧
        ∀ agent, (executes token agent entry).isSome → entry.after.engine = entry.before.engine)
  · refine ⟨?_, by simp⟩
    intro nftId
    exact ⟨tracks_new 0, by simp [charges], fun day => .inl rfl⟩
  · rintro past now stretch progress ⟨metered, earlier⟩ accepted
    have kept := advance_kept past now stretch progress accepted
    refine ⟨fun nftId => kept.metered nftId (metered nftId), ?_⟩
    intro entry member
    rcases List.mem_append.mp member with inPast | last
    · exact earlier entry inPast
    · cases List.mem_singleton.mp last
      exact ⟨kept.asked, kept.silent⟩

/-- With a consumption for each execution, a day executes no more than the engine charged. -/
theorem executedOn_le_charges (agent : Token) (journal : List Entry) (now : World)
    (consumed : ∀ spend, spend.transaction < now.transactions →
      (journal.filterMap (executes token agent)).count spend ≤
        (journal.filterMap (consumes agent.tokenId)).count spend) (day : Nat) :
    executedOn token agent journal now day ≤ sumOn (charges agent.tokenId journal) day := by
  apply sumOn_le_of_count_le
  intro spend member
  have finished : spend.transaction < now.transactions := by
    simpa using (List.mem_filter.mp member).2
  exact Nat.le_trans (List.filter_sublist.count_le spend) (consumed spend finished)

/-- The agent with token 7, whose account is 10. -/
def sampleAgent : Token := ⟨1#256, 20#160, 7#256⟩

def sampleToken (account : Address) : Option Token :=
  if account = 10#160 then some sampleAgent else none

/-- With a daily limit of 100 the owner has the account send out 500. -/
def sampleMoves : List (Move Call) :=
  [.call (.begin_ 60#256),
   .call (.engine 1#160 (.setPolicy 7#256 100#256 100#256 100#256)),
   .call (.engine 1#160 (.setTargetAllowed 7#256 6#160 true)),
   .call (.engine 1#160 (.grantExecutorRole 10#160)),
   .call (.transferToken 20#160 7#256 (some 2#160)),
   .call (.receive_ 10#160 500),
   .call (.begin_ 60#256),
   .call (.execute 2#160 10#160 0 6#160 500#256 .empty 0#8),
   .returned,
   .call (.begin_ 60#256)]

def sampleJournal : List Entry :=
  (machine 1#256 sampleToken fun _ => 0#256).journal (genesis ⟨1#160, 0#256⟩ 1#160) sampleMoves

def sampleWorld : World :=
  (run (machine 1#256 sampleToken fun _ => 0#256).step ⟨genesis ⟨1#160, 0#256⟩ 1#160, []⟩
    sampleMoves).now.state

end BigX.Account
