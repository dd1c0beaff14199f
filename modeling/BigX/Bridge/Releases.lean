import BigX.Bridge.Ledger

set_option autoImplicit false

/- What a release pays, whatever the relayers say: the deposit stands as the first vote with
a recipient described it, later votes only add to its count, and it is paid once. -/
namespace BigX.Bridge

open Evm Run

variable {token : Erc20} {bridge : Address}

/-- What a call says about a deposit. -/
def Call.told (btcTxHash : Bytes32) : Call → Option (Address × Uint256)
  | .confirmPegIn voted recipient amount =>
      if voted = btcTxHash then some (recipient, amount) else none
  | _ => none

/-- The relayer's vote on a deposit, if the entry is one. -/
def votesOn (btcTxHash : Bytes32) (entry : Entry token bridge) : Bool :=
  (entry.input.call.told btcTxHash).isSome

/-- What the votes on a deposit said, in order. -/
def statements (past : List (Entry token bridge)) (btcTxHash : Bytes32) :
    List (Address × Uint256) :=
  past.filterMap fun entry => entry.input.call.told btcTxHash

/-- Who voted on a deposit, in order. -/
def voters (past : List (Entry token bridge)) (btcTxHash : Bytes32) : List Address :=
  (past.filter (votesOn btcTxHash)).map fun entry => entry.input.message.sender

/-- The first statement with a recipient; without one, the last statement. -/
def described : List (Address × Uint256) → Address × Uint256
  | [] => (Address.zero, 0#256)
  | first :: rest => if first.1 = Address.zero ∧ rest ≠ [] then described rest else first

theorem described_snoc (said : List (Address × Uint256)) (last : Address × Uint256) :
    described (said ++ [last]) =
      if (described said).1 = Address.zero then last else described said := by
  induction said with
  | nil => simp [described]
  | cons first rest ih =>
    by_cases zero : first.1 = Address.zero
    · by_cases empty : rest = []
      · subst empty
        simp [described, zero]
      · have more : rest ++ [last] ≠ [] := by simp
        simp only [List.cons_append, described, zero, more, empty, ne_eq, not_false_eq_true,
          and_self, ↓reduceIte]
        exact ih
    · simp [described, zero]

theorem statements_snoc (past : List (Entry token bridge)) (entry : Entry token bridge)
    (btcTxHash : Bytes32) :
    statements (past ++ [entry]) btcTxHash =
      statements past btcTxHash ++ (entry.input.call.told btcTxHash).toList := by
  unfold statements
  cases said : entry.input.call.told btcTxHash <;> simp [said]

theorem voters_snoc (past : List (Entry token bridge)) (entry : Entry token bridge)
    (btcTxHash : Bytes32) :
    voters (past ++ [entry]) btcTxHash =
      if votesOn btcTxHash entry then voters past btcTxHash ++ [entry.input.message.sender]
      else voters past btcTxHash := by
  unfold voters
  cases voted : votesOn btcTxHash entry <;> simp [voted]

/-- A payment out of the bridge. -/
structure Release where
  btcTxHash : Bytes32
  recipient : Address
  amount : Uint256
  deriving DecidableEq

def Event.release : Event → Option Release
  | .pegInExecuted btcTxHash recipient amount => some ⟨btcTxHash, recipient, amount⟩
  | _ => none

def releases (past : List (Entry token bridge)) : List Release :=
  (emitted past).filterMap Event.release

theorem releases_snoc (past : List (Entry token bridge)) (entry : Entry token bridge) :
    releases (past ++ [entry]) = releases past ++ entry.output.filterMap Event.release := by
  simp only [releases, emitted_snoc, List.filterMap_append]

/-- The deposits paid, in order. -/
def paidHashes (past : List (Entry token bridge)) : List Bytes32 :=
  (releases past).map Release.btcTxHash

/-- The stored requests, told from the votes alone. -/
structure Told (past : List (Entry token bridge)) (now : State token) : Prop where
  request : ∀ btcTxHash, ((now.pegInRequests btcTxHash).recipient,
    (now.pegInRequests btcTxHash).amount) = described (statements past btcTxHash)
  counted : ∀ btcTxHash, (now.pegInRequests btcTxHash).confirmations.toNat =
    (voters past btcTxHash).length
  confirmedBy : ∀ btcTxHash relayer, now.pegInConfirmedBy btcTxHash relayer = true ↔
    relayer ∈ voters past btcTxHash
  once : ∀ btcTxHash, (voters past btcTxHash).Nodup
  executed : ∀ btcTxHash, (now.pegInRequests btcTxHash).executed = true ↔
    btcTxHash ∈ paidHashes past
  paidOnce : (paidHashes past).Nodup
  asDescribed : ∀ release ∈ releases past,
    (release.recipient, release.amount) = described (statements past release.btcTxHash)

/-- Steps that are no votes change none of it. -/
theorem Told.other {past : List (Entry token bridge)} {now : State token}
    (told : Told past now) (entry : Entry token bridge)
    (silent : ∀ btcTxHash, entry.input.call.told btcTxHash = none)
    (unpaid : entry.output.filterMap Event.release = [])
    (requests : entry.after.pegInRequests = now.pegInRequests)
    (confirmedBy : entry.after.pegInConfirmedBy = now.pegInConfirmedBy) :
    Told (past ++ [entry]) entry.after := by
  have said (btcTxHash : Bytes32) :
      statements (past ++ [entry]) btcTxHash = statements past btcTxHash := by
    rw [statements_snoc, silent btcTxHash]
    simp
  have voted (btcTxHash : Bytes32) :
      voters (past ++ [entry]) btcTxHash = voters past btcTxHash := by
    rw [voters_snoc, votesOn, silent btcTxHash]
    simp
  have paid : releases (past ++ [entry]) = releases past := by
    rw [releases_snoc, unpaid, List.append_nil]
  have hashes : paidHashes (past ++ [entry]) = paidHashes past := by
    rw [paidHashes, paid, paidHashes]
  constructor
  · intro btcTxHash
    rw [requests, said]
    exact told.request btcTxHash
  · intro btcTxHash
    rw [requests, voted]
    exact told.counted btcTxHash
  · intro btcTxHash relayer
    rw [confirmedBy, voted]
    exact told.confirmedBy btcTxHash relayer
  · intro btcTxHash
    rw [voted]
    exact told.once btcTxHash
  · intro btcTxHash
    rw [requests, hashes]
    exact told.executed btcTxHash
  · rw [hashes]
    exact told.paidOnce
  · rw [paid]
    intro release member
    rw [said]
    exact told.asDescribed release member

/-- What a vote writes is what its statement adds to the earlier ones. -/
theorem Told.describe {past : List (Entry token bridge)} {now : State token}
    (told : Told past now) (btcTxHash : Bytes32) (recipient : Address) (amount : Uint256) :
    (((now.pegInRequests btcTxHash).describe recipient amount).recipient,
        ((now.pegInRequests btcTxHash).describe recipient amount).amount) =
      described (statements past btcTxHash ++ [(recipient, amount)]) := by
  have stored := told.request btcTxHash
  have first : (described (statements past btcTxHash)).1 =
      (now.pegInRequests btcTxHash).recipient := by
    rw [← stored]
  rw [described_snoc, first]
  unfold PegInRequest.describe
  split
  · rfl
  · exact stored

theorem statements_vote (past : List (Entry token bridge)) (entry : Entry token bridge)
    {voted : Bytes32} {recipient : Address} {amount : Uint256}
    (called : entry.input.call = .confirmPegIn voted recipient amount) (btcTxHash : Bytes32) :
    statements (past ++ [entry]) btcTxHash =
      if voted = btcTxHash then statements past btcTxHash ++ [(recipient, amount)]
      else statements past btcTxHash := by
  rw [statements_snoc, called]
  by_cases about : voted = btcTxHash <;> simp [Call.told, about]

theorem voters_vote (past : List (Entry token bridge)) (entry : Entry token bridge)
    {voted : Bytes32} {recipient : Address} {amount : Uint256}
    (called : entry.input.call = .confirmPegIn voted recipient amount) (btcTxHash : Bytes32) :
    voters (past ++ [entry]) btcTxHash =
      if voted = btcTxHash then voters past btcTxHash ++ [entry.input.message.sender]
      else voters past btcTxHash := by
  rw [voters_snoc, votesOn, called]
  by_cases about : voted = btcTxHash <;> simp [Call.told, about]

theorem PegInStep.releases {message : Message} {btcTxHash : Bytes32} {recipient : Address}
    {amount confirmations : Uint256} {executed : Bool} {before after : State token}
    {events : List Event} {ledger : token.Ledger}
    (step : PegInStep bridge message btcTxHash recipient amount before after events confirmations
      executed ledger) :
    events.filterMap Event.release =
      if executed then
        [⟨btcTxHash, ((before.pegInRequests btcTxHash).describe recipient amount).recipient,
          ((before.pegInRequests btcTxHash).describe recipient amount).amount⟩]
      else [] := by
  rw [step.events_eq]
  cases executed <;> rfl

/-- Who may still vote has not, -/
theorem Told.new_voter {past : List (Entry token bridge)} {now : State token}
    (told : Told past now) {btcTxHash : Bytes32} {relayer : Address}
    (fresh : now.pegInConfirmedBy btcTxHash relayer = false) :
    relayer ∉ voters past btcTxHash := by
  intro voted
  have confirmed := (told.confirmedBy btcTxHash relayer).mpr voted
  rw [fresh] at confirmed
  cases confirmed

/-- and what is still pending is not paid. -/
theorem Told.unpaid {past : List (Entry token bridge)} {now : State token}
    (told : Told past now) {btcTxHash : Bytes32}
    (pending : (now.pegInRequests btcTxHash).executed = false) :
    btcTxHash ∉ paidHashes past := by
  intro paid
  have done := (told.executed btcTxHash).mpr paid
  rw [pending] at done
  cases done

theorem Told.vote {past : List (Entry token bridge)} {now : State token}
    (told : Told past now) (entry : Entry token bridge) {btcTxHash : Bytes32}
    {recipient : Address} {amount confirmations : Uint256} {executed : Bool}
    {ledger : token.Ledger}
    (called : entry.input.call = .confirmPegIn btcTxHash recipient amount)
    (step : PegInStep bridge entry.input.message btcTxHash recipient amount now entry.after
      entry.output confirmations executed ledger) :
    Told (past ++ [entry]) entry.after := by
  have said := statements_vote past entry called
  have voted := voters_vote past entry called
  have unpaid := told.unpaid step.pending
  have hashes : paidHashes (past ++ [entry]) =
      paidHashes past ++ if executed then [btcTxHash] else [] := by
    rw [paidHashes, releases_snoc, step.releases, List.map_append, ← paidHashes]
    cases executed <;> rfl
  constructor
  · intro other
    rw [step.after_eq, said]
    by_cases same : btcTxHash = other
    · subst same
      rw [if_pos rfl, ← told.describe btcTxHash recipient amount]
      simp only [Function.update_self]
    · rw [if_neg same, ← told.request other]
      simp only [Function.update_of_ne (Ne.symm same)]
  · intro other
    rw [step.after_eq, voted]
    by_cases same : btcTxHash = other
    · subst same
      simp only [Function.update_self, ↓reduceIte, List.length_append, List.length_singleton,
        step.counted, told.counted btcTxHash]
    · simp only [Function.update_of_ne (Ne.symm same), same, ↓reduceIte]
      exact told.counted other
  · intro other relayer
    rw [step.after_eq, voted]
    by_cases same : btcTxHash = other
    · subst same
      simp only [Function.update_self, ↓reduceIte, List.mem_append, List.mem_singleton]
      by_cases own : relayer = entry.input.message.sender
      · simp [own]
      · simp only [Function.update_of_ne own, own, or_false]
        exact told.confirmedBy btcTxHash relayer
    · simp only [Function.update_of_ne (Ne.symm same), same, ↓reduceIte]
      exact told.confirmedBy other relayer
  · intro other
    rw [voted]
    split
    · rename_i same
      subst same
      rw [← List.concat_eq_append]
      exact (told.once btcTxHash).concat (told.new_voter step.fresh)
    · exact told.once other
  · intro other
    rw [step.after_eq, hashes]
    by_cases same : other = btcTxHash
    · subst same
      cases executed <;> simp [unpaid]
    · have kept := told.executed other
      simp only [Function.update_of_ne same, kept, List.mem_append]
      cases executed <;> simp [same]
  · rw [hashes]
    cases executed with
    | false => simpa using told.paidOnce
    | true =>
      rw [if_pos rfl, ← List.concat_eq_append]
      exact told.paidOnce.concat unpaid
  · intro release member
    rw [releases_snoc, step.releases] at member
    rw [said]
    rcases List.mem_append.mp member with earlier | last
    · have different : btcTxHash ≠ release.btcTxHash := by
        intro same
        exact unpaid (same ▸ List.mem_map_of_mem earlier)
      rw [if_neg different]
      exact told.asDescribed release earlier
    · cases executed with
      | false => cases last
      | true =>
        rw [List.mem_singleton.mp last, if_pos rfl]
        exact told.describe btcTxHash recipient amount

/-- A step is a vote, or it says nothing about any deposit and pays none. -/
theorem Step.vote_cases {message : Message} {before after : State token} {events : List Event}
    {call : Call} (step : Step bridge message before after events call) :
    (∃ btcTxHash recipient amount confirmations executed ledger,
      call = .confirmPegIn btcTxHash recipient amount ∧
        PegInStep bridge message btcTxHash recipient amount before after events confirmations
          executed ledger) ∨
      PegInFrame before after events ∧ ∀ btcTxHash, call.told btcTxHash = none := by
  rcases step.pegIn_cases with vote | frame
  · exact Or.inl vote
  · cases step with
    | pegIn btcTxHash recipient amount confirmations executed ledger step =>
      exact Or.inl ⟨btcTxHash, recipient, amount, confirmations, executed, ledger, rfl, step⟩
    | request => exact Or.inr ⟨frame, fun _ => rfl⟩
    | pegOut => exact Or.inr ⟨frame, fun _ => rfl⟩
    | ledger => exact Or.inr ⟨frame, fun _ => rfl⟩
    | admin call plain =>
      refine Or.inr ⟨frame, ?_⟩
      cases call <;> first | exact fun _ => rfl | cases plain

theorem PegInFrame.releases {before after : State token} {events : List Event}
    (frame : PegInFrame before after events) : events.filterMap Event.release = [] := by
  rw [List.filterMap_eq_nil_iff]
  intro event member
  cases event with
  | pegInExecuted btcTxHash recipient amount => exact absurd member (frame.unpaid _ _ _)
  | _ => rfl

theorem Told.step {past : List (Entry token bridge)} (entry : Entry token bridge)
    (told : Told past entry.before)
    (step : Step bridge entry.input.message entry.before entry.after entry.output
      entry.input.call) : Told (past ++ [entry]) entry.after := by
  rcases step.vote_cases with ⟨_, _, _, _, _, _, called, vote⟩ | ⟨frame, silent⟩
  · exact told.vote entry called vote
  · exact told.other entry silent frame.releases frame.requests frame.confirmedBy

/-- A vote comes from a relayer, before its deposit is paid, and is the voter's only one. What
an entry pays has as many voters as the threshold then asks for. -/
structure Counted (earlier : List (Entry token bridge)) (entry : Entry token bridge) : Prop where
  relayer : ∀ btcTxHash, votesOn btcTxHash entry = true →
    entry.before.relayers entry.input.message.sender = true
  unpaid : ∀ btcTxHash, votesOn btcTxHash entry = true → btcTxHash ∉ paidHashes earlier
  single : ∀ btcTxHash, votesOn btcTxHash entry = true →
    entry.input.message.sender ∉ voters earlier btcTxHash
  enough : ∀ release ∈ entry.output.filterMap Event.release,
    entry.before.requiredConfirmations.toNat ≤
      (voters (earlier ++ [entry]) release.btcTxHash).length

theorem Told.counted_step {past : List (Entry token bridge)} (entry : Entry token bridge)
    (told : Told past entry.before)
    (step : Step bridge entry.input.message entry.before entry.after entry.output
      entry.input.call) : Counted past entry := by
  have next := told.step entry step
  rcases step.vote_cases with ⟨voted, recipient, amount, confirmations, executed, _, called, vote⟩ |
    ⟨frame, silent⟩
  · have about (btcTxHash : Bytes32) (votes : votesOn btcTxHash entry = true) :
        voted = btcTxHash := by
      rw [votesOn, called] at votes
      simpa [Call.told] using votes
    constructor
    · intro _ _
      exact vote.relayer
    · intro btcTxHash votes
      obtain rfl := about btcTxHash votes
      exact told.unpaid vote.pending
    · intro btcTxHash votes
      obtain rfl := about btcTxHash votes
      exact told.new_voter vote.fresh
    · intro release paid
      rw [vote.events_eq] at paid
      cases executed with
      | false => cases paid
      | true =>
        rw [List.mem_singleton.mp paid]
        have reached := of_decide_eq_true vote.decided.symm
        have count := next.counted voted
        rw [vote.after_eq] at count
        simp only [Function.update_self] at count
        rw [← count]
        exact BitVec.le_def.mp reached
  · have none_votes (btcTxHash : Bytes32) : votesOn btcTxHash entry = false := by
      rw [votesOn, silent btcTxHash]
      rfl
    constructor
    · intro btcTxHash votes
      rw [none_votes btcTxHash] at votes
      cases votes
    · intro btcTxHash votes
      rw [none_votes btcTxHash] at votes
      cases votes
    · intro btcTxHash votes
      rw [none_votes btcTxHash] at votes
      cases votes
    · rw [frame.releases]
      intro release member
      cases member

theorem deployed_told {message : Message} {wrappedBtc : token.Ledger} {admin : Address}
    {initialRelayers : List Address} {threshold : Uint256} {start : State token}
    (deployed : Deployed message wrappedBtc admin initialRelayers threshold start) :
    Told ([] : List (Entry token bridge)) start := by
  constructor
  · intro btcTxHash
    rw [deployed.pegInRequests]
    rfl
  · intro btcTxHash
    rw [deployed.pegInRequests]
    rfl
  · intro btcTxHash relayer
    rw [deployed.pegInConfirmedBy]
    exact ⟨fun confirmed => absurd confirmed Bool.false_ne_true, fun voted => by cases voted⟩
  · intro btcTxHash
    exact List.nodup_nil
  · intro btcTxHash
    rw [deployed.pegInRequests]
    exact ⟨fun done => absurd done Bool.false_ne_true, fun paid => by cases paid⟩
  · exact List.nodup_nil
  · intro release member
    cases member

/-- Each release pays its deposit as the first vote with a recipient described it, once, on the
votes of as many different relayers as the threshold then asks for; so all releases together
pay what the first votes on the paid deposits said, whatever other votes said. -/
theorem releases_as_described (bridge : Address) (message : Message) (wrappedBtc : token.Ledger)
    (admin : Address) (initialRelayers : List Address) (threshold : Uint256)
    (start : State token) (events : List Event)
    (accepted : deploy message wrappedBtc admin initialRelayers threshold = .ok (start, events))
    (transactions : List (Transaction bridge)) :
    Throughout Counted (history bridge start transactions).past ∧
      (paidHashes (history bridge start transactions).past).Nodup ∧
      (∀ release ∈ releases (history bridge start transactions).past,
        (release.recipient, release.amount) =
          described (statements (history bridge start transactions).past release.btcTxHash)) ∧
      ((releases (history bridge start transactions).past).map fun release =>
          release.amount.toNat).sum =
        ((paidHashes (history bridge start transactions).past).map fun btcTxHash =>
          (described
            (statements (history bridge start transactions).past btcTxHash)).2.toNat).sum := by
  have deployed :=
    deploy_ok message wrappedBtc admin initialRelayers threshold start events accepted
  obtain ⟨counted, told⟩ := run_throughout (transact bridge) start Told Counted
    (deployed_told deployed) (fun past now transaction after written told accepted => by
      have step := transact_step bridge transaction now after written accepted
      exact ⟨Told.counted_step ⟨now, transaction, written, after⟩ told step,
        Told.step ⟨now, transaction, written, after⟩ told step⟩) transactions
  refine ⟨counted, told.paidOnce, told.asDescribed, ?_⟩
  rw [paidHashes, List.map_map]
  congr 1
  apply List.map_congr_left
  intro release member
  have amount := congrArg Prod.snd (told.asDescribed release member)
  exact congrArg BitVec.toNat amount

/-- The second relayer votes for another payment, and the first one's is made. -/
theorem releases_as_described_disputed :
    ∃ (start : State MockWbtc.token) (events : List Event),
      deploy ⟨1#160, 0#256⟩ (MockWbtc.create 1#160 50#256) 1#160 [2#160, 3#160] 2#256 =
        .ok (start, events) ∧
      releases (history 9#160 start
        [⟨⟨1#160, 0#256⟩, .wrappedBtc (.transfer 9#160 20#256), by decide⟩,
         ⟨⟨2#160, 0#256⟩, .confirmPegIn 4#256 5#160 7#256, by decide⟩,
         ⟨⟨3#160, 0#256⟩, .confirmPegIn 4#256 6#160 8#256, by decide⟩]).past =
        [⟨4#256, 5#160, 7#256⟩] ∧
      Throughout Counted (history 9#160 start
        [⟨⟨1#160, 0#256⟩, .wrappedBtc (.transfer 9#160 20#256), by decide⟩,
         ⟨⟨2#160, 0#256⟩, .confirmPegIn 4#256 5#160 7#256, by decide⟩,
         ⟨⟨3#160, 0#256⟩, .confirmPegIn 4#256 6#160 8#256, by decide⟩]).past := by
  refine ⟨_, _, rfl, by decide, ?_⟩
  exact (@releases_as_described MockWbtc.token 9#160 ⟨1#160, 0#256⟩
    (MockWbtc.create 1#160 50#256) 1#160 [2#160, 3#160] 2#256 _ _ rfl _).1

end BigX.Bridge
