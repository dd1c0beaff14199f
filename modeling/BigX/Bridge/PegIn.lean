import BigX.Bridge.Relayers

set_option autoImplicit false

/- Peg-in agreement. The vote counter of a deposit is the number of its recorded voters,
but the counter asks neither what a later voter said nor whether an earlier one still is
a relayer, so agreement needs both as conditions. -/
namespace BigX.Bridge

open Evm Run

variable {token : Erc20} {bridge : Address}

/-- The counter of each deposit is the size of its voter set, and nobody has described a
deposit without voters. -/
structure PegInBooks (state : State token) : Prop where
  counted : ∀ btcTxHash, (state.pegInRequests btcTxHash).confirmations.toNat =
    tally (state.pegInConfirmedBy btcTxHash)
  undescribed : ∀ btcTxHash, (state.pegInRequests btcTxHash).confirmations = 0#256 →
    (state.pegInRequests btcTxHash).recipient = Address.zero

theorem PegInBooks.congr {before after : State token} (books : PegInBooks before)
    (requests : after.pegInRequests = before.pegInRequests)
    (confirmedBy : after.pegInConfirmedBy = before.pegInConfirmedBy) : PegInBooks after := by
  refine ⟨?_, ?_⟩
  · rw [requests, confirmedBy]
    exact books.counted
  · rw [requests]
    exact books.undescribed

theorem PegInStep.confirmations_ne {message : Message} {btcTxHash : Bytes32}
    {recipient : Address} {amount : Uint256} {before after : State token} {events : List Event}
    {confirmations : Uint256} {executed : Bool} {ledger : token.Ledger}
    (step : PegInStep bridge message btcTxHash recipient amount before after events confirmations
      executed ledger) : confirmations ≠ 0#256 := by
  intro zero
  have counted := step.counted
  rw [zero] at counted
  exact absurd counted (by simp)

/-- A vote adds a voter and counts it. -/
theorem PegInStep.books {message : Message} {btcTxHash : Bytes32} {recipient : Address}
    {amount : Uint256} {before after : State token} {events : List Event}
    {confirmations : Uint256} {executed : Bool} {ledger : token.Ledger}
    (step : PegInStep bridge message btcTxHash recipient amount before after events confirmations
      executed ledger) (books : PegInBooks before) : PegInBooks after := by
  rw [step.after_eq]
  refine ⟨?_, ?_⟩
  · intro other
    by_cases same : other = btcTxHash
    · subst same
      simp only [Function.update_self, tally_mark _ _ step.fresh, step.counted,
        books.counted other]
    · simp only [Function.update_of_ne same]
      exact books.counted other
  · intro other
    by_cases same : other = btcTxHash
    · subst same
      simp only [Function.update_self]
      exact fun zero => absurd zero step.confirmations_ne
    · simp only [Function.update_of_ne same]
      exact books.undescribed other

theorem Step.pegInBooks {message : Message} {before after : State token} {events : List Event}
    {call : Call} (step : Step bridge message before after events call)
    (books : PegInBooks before) : PegInBooks after := by
  rcases step.pegIn_cases with ⟨_, _, _, _, _, _, -, vote⟩ | frame
  · exact vote.books books
  · exact books.congr frame.requests frame.confirmedBy

theorem deployed_pegInBooks {message : Message} {wrappedBtc : token.Ledger} {admin : Address}
    {initialRelayers : List Address} {threshold : Uint256} {start : State token}
    (deployed : Deployed message wrappedBtc admin initialRelayers threshold start) :
    PegInBooks start := by
  refine ⟨?_, ?_⟩
  · intro btcTxHash
    rw [deployed.pegInRequests, deployed.pegInConfirmedBy, tally_none]
    rfl
  · intro btcTxHash _
    rw [deployed.pegInRequests]
    rfl

/-- The entry is a vote of `relayer` for paying `amount` to `recipient`. -/
def Votes (entry : Entry token bridge) (btcTxHash : Bytes32) (recipient : Address)
    (amount : Uint256) (relayer : Address) : Prop :=
  entry.input.call = .confirmPegIn btcTxHash recipient amount ∧
    entry.input.message.sender = relayer

/-- Everybody who is a relayer before `entry` and has voted by its end for exactly this
payment. -/
def supporters (earlier : List (Entry token bridge)) (entry : Entry token bridge)
    (btcTxHash : Bytes32) (recipient : Address) (amount : Uint256) : Set Address :=
  {relayer | entry.before.relayers relayer = true ∧
    ∃ vote ∈ earlier ++ [entry], Votes vote btcTxHash recipient amount relayer}

/-- Whatever the entry pays out has the support of the threshold in force. -/
def AgreedRelease (earlier : List (Entry token bridge)) (entry : Entry token bridge) : Prop :=
  ∀ btcTxHash recipient amount, .pegInExecuted btcTxHash recipient amount ∈ entry.output →
    entry.before.requiredConfirmations.toNat ≤
      (supporters earlier entry btcTxHash recipient amount).ncard

/-- A vote repeats what the deposit's first vote said, and a vote that reaches the
threshold finds all earlier voters still relayers. -/
def joinsAgreement (bridge : Address) (state : State token) (transaction : Transaction bridge) :
    Prop :=
  match transaction.call with
  | .confirmPegIn btcTxHash recipient amount =>
      let stored := state.pegInRequests btcTxHash
      (stored.confirmations ≠ 0#256 → recipient = stored.recipient ∧ amount = stored.amount) ∧
        (state.requiredConfirmations.toNat ≤ stored.confirmations.toNat + 1 →
          ∀ relayer, state.pegInConfirmedBy btcTxHash relayer = true →
            state.relayers relayer = true)
  | _ => True

/-- A vote that joins the agreement leaves the deposit described as it says. -/
theorem describe_eq (stored : PegInRequest) (recipient : Address) (amount : Uint256)
    (unset : stored.confirmations = 0#256 → stored.recipient = Address.zero)
    (agrees : stored.confirmations ≠ 0#256 → recipient = stored.recipient ∧
      amount = stored.amount) :
    (stored.describe recipient amount).recipient = recipient ∧
      (stored.describe recipient amount).amount = amount := by
  unfold PegInRequest.describe
  split
  · exact ⟨rfl, rfl⟩
  · rename_i described
    have voted : stored.confirmations ≠ 0#256 := fun zero => described (unset zero)
    obtain ⟨sameRecipient, sameAmount⟩ := agrees voted
    exact ⟨sameRecipient.symm, sameAmount.symm⟩

/-- Each recorded voter of a deposit voted for what the deposit now says. -/
structure PegInVotes (past : List (Entry token bridge)) (now : State token) : Prop where
  books : PegInBooks now
  voted : ∀ btcTxHash relayer, now.pegInConfirmedBy btcTxHash relayer = true →
    ∃ vote ∈ past, Votes vote btcTxHash (now.pegInRequests btcTxHash).recipient
      (now.pegInRequests btcTxHash).amount relayer

theorem PegInVotes.other {past : List (Entry token bridge)} {now : State token}
    (held : PegInVotes past now) (entry : Entry token bridge)
    (books : PegInBooks entry.after)
    (requests : entry.after.pegInRequests = now.pegInRequests)
    (confirmedBy : entry.after.pegInConfirmedBy = now.pegInConfirmedBy) :
    PegInVotes (past ++ [entry]) entry.after := by
  refine ⟨books, ?_⟩
  rw [requests, confirmedBy]
  intro btcTxHash relayer confirmed
  obtain ⟨vote, member, same⟩ := held.voted btcTxHash relayer confirmed
  exact ⟨vote, List.mem_append_left _ member, same⟩

/-- The voters after a vote for an agreed payment all voted for that payment. -/
theorem PegInVotes.confirmed {past : List (Entry token bridge)} {now : State token}
    (held : PegInVotes past now) (entry : Entry token bridge) {btcTxHash : Bytes32}
    {recipient : Address} {amount : Uint256}
    (called : entry.input.call = .confirmPegIn btcTxHash recipient amount)
    (agrees : (now.pegInRequests btcTxHash).confirmations ≠ 0#256 →
      recipient = (now.pegInRequests btcTxHash).recipient ∧
        amount = (now.pegInRequests btcTxHash).amount)
    (relayer : Address)
    (confirmed : Function.update (now.pegInConfirmedBy btcTxHash) entry.input.message.sender true
      relayer = true) :
    ∃ vote ∈ past ++ [entry], Votes vote btcTxHash recipient amount relayer := by
  by_cases own : relayer = entry.input.message.sender
  · exact ⟨entry, by simp, called, own.symm⟩
  · rw [Function.update_of_ne own] at confirmed
    obtain ⟨vote, member, same⟩ := held.voted btcTxHash relayer confirmed
    have counted := held.books.counted btcTxHash
    have voters := tally_pos _ relayer confirmed
    have some_votes : (now.pegInRequests btcTxHash).confirmations ≠ 0#256 := by
      intro zero
      rw [zero] at counted
      have none_counted : (0#256).toNat = 0 := rfl
      omega
    obtain ⟨rfl, rfl⟩ := agrees some_votes
    exact ⟨vote, List.mem_append_left _ member, same⟩

theorem PegInVotes.vote {past : List (Entry token bridge)} {now : State token}
    (held : PegInVotes past now) (entry : Entry token bridge) {btcTxHash : Bytes32}
    {recipient : Address} {amount confirmations : Uint256} {executed : Bool}
    {ledger : token.Ledger}
    (called : entry.input.call = .confirmPegIn btcTxHash recipient amount)
    (step : PegInStep bridge entry.input.message btcTxHash recipient amount now entry.after
      entry.output confirmations executed ledger)
    (agrees : (now.pegInRequests btcTxHash).confirmations ≠ 0#256 →
      recipient = (now.pegInRequests btcTxHash).recipient ∧
        amount = (now.pegInRequests btcTxHash).amount) :
    PegInVotes (past ++ [entry]) entry.after := by
  obtain ⟨sameRecipient, sameAmount⟩ :=
    describe_eq (now.pegInRequests btcTxHash) recipient amount
      (held.books.undescribed btcTxHash) agrees
  refine ⟨step.books held.books, ?_⟩
  intro other relayer confirmed
  rw [step.after_eq] at confirmed ⊢
  by_cases same : other = btcTxHash
  · subst same
    simp only [Function.update_self, sameRecipient, sameAmount] at confirmed ⊢
    exact held.confirmed entry called agrees relayer confirmed
  · simp only [Function.update_of_ne same] at confirmed ⊢
    obtain ⟨vote, member, voted⟩ := held.voted other relayer confirmed
    exact ⟨vote, List.mem_append_left _ member, voted⟩

/-- A release counts its voters, who all are relayers and agree. -/
theorem PegInVotes.release {past : List (Entry token bridge)} {now : State token}
    (held : PegInVotes past now) (entry : Entry token bridge) (from_now : entry.before = now)
    {btcTxHash : Bytes32} {recipient : Address} {amount confirmations : Uint256}
    {executed : Bool} {ledger : token.Ledger}
    (called : entry.input.call = .confirmPegIn btcTxHash recipient amount)
    (step : PegInStep bridge entry.input.message btcTxHash recipient amount now entry.after
      entry.output confirmations executed ledger)
    (joins : joinsAgreement bridge now entry.input) : AgreedRelease past entry := by
  simp only [joinsAgreement, called] at joins
  obtain ⟨agrees, present⟩ := joins
  obtain ⟨sameRecipient, sameAmount⟩ :=
    describe_eq (now.pegInRequests btcTxHash) recipient amount
      (held.books.undescribed btcTxHash) agrees
  intro paidHash paidRecipient paidAmount paid
  rw [step.events_eq, sameRecipient, sameAmount] at paid
  have released : executed = true := by
    cases executed with
    | true => rfl
    | false => simp at paid
  simp only [released, ↓reduceIte, List.mem_cons, reduceCtorEq, List.not_mem_nil, or_false,
    false_or, Event.pegInExecuted.injEq] at paid
  obtain ⟨rfl, rfl, rfl⟩ := paid
  have reached : now.requiredConfirmations ≤ confirmations := by
    have decided := step.decided
    rw [released] at decided
    exact of_decide_eq_true decided.symm
  have enough := BitVec.le_def.mp reached
  rw [step.counted] at enough
  have everyone := present enough
  have size : tally (Function.update (now.pegInConfirmedBy paidHash) entry.input.message.sender
      true) = (now.pegInRequests paidHash).confirmations.toNat + 1 := by
    rw [tally_mark _ _ step.fresh, held.books.counted paidHash]
  rw [from_now]
  refine le_trans enough ?_
  rw [← size]
  refine Set.ncard_le_ncard ?_ (Set.toFinite _)
  intro relayer confirmed
  rw [mem_marked] at confirmed
  refine ⟨?_, held.confirmed entry called agrees relayer confirmed⟩
  rw [from_now]
  by_cases own : relayer = entry.input.message.sender
  · rw [own]
    exact step.relayer
  · rw [Function.update_of_ne own] at confirmed
    exact everyone relayer confirmed

/-- Only a vote can release, and any other step leaves the recorded votes alone. -/
theorem PegInVotes.step {past : List (Entry token bridge)} (entry : Entry token bridge)
    (held : PegInVotes past entry.before) (joins : joinsAgreement bridge entry.before entry.input)
    (step : Step bridge entry.input.message entry.before entry.after entry.output
      entry.input.call) :
    AgreedRelease past entry ∧ PegInVotes (past ++ [entry]) entry.after := by
  rcases step.pegIn_cases with ⟨btcTxHash, recipient, amount, _, _, _, called, vote⟩ | frame
  · have agrees := joins
    simp only [joinsAgreement, called] at agrees
    exact ⟨held.release entry rfl called vote joins, held.vote entry called vote agrees.1⟩
  · refine ⟨?_, held.other entry (step.pegInBooks held.books) frame.requests frame.confirmedBy⟩
    intro btcTxHash recipient amount paid
    exact absurd paid (frame.unpaid btcTxHash recipient amount)

/-- In a run whose votes all join the agreement of their deposit, each release has the
support of as many relayers as the threshold then asks for. -/
theorem pegIn_agreement (bridge : Address) (message : Message) (wrappedBtc : token.Ledger)
    (admin : Address) (initialRelayers : List Address) (threshold : Uint256)
    (start : State token) (events : List Event)
    (accepted : deploy message wrappedBtc admin initialRelayers threshold = .ok (start, events))
    (transactions : List (Transaction bridge))
    (meets : Meets (joinsAgreement bridge) (history bridge start transactions).past) :
    Throughout AgreedRelease (history bridge start transactions).past := by
  have deployed := deploy_ok message wrappedBtc admin initialRelayers threshold start events accepted
  refine (run_throughout_of_meets (transact bridge) start PegInVotes (joinsAgreement bridge)
    AgreedRelease ?_ ?_ transactions meets).1
  · refine ⟨deployed_pegInBooks deployed, ?_⟩
    intro btcTxHash relayer confirmed
    rw [deployed.pegInConfirmedBy] at confirmed
    cases confirmed
  · intro past now transaction after written held joins accepted
    exact held.step ⟨now, transaction, written, after⟩ joins
      (transact_step bridge transaction now after written accepted)

/-- A release cannot have more supporters than votes for it. -/
theorem supporters_le_votes (earlier : List (Entry token bridge)) (entry : Entry token bridge)
    (btcTxHash : Bytes32) (recipient : Address) (amount : Uint256) :
    (supporters earlier entry btcTxHash recipient amount).ncard ≤
      ((earlier ++ [entry]).filter
        (fun vote => vote.input.call = .confirmPegIn btcTxHash recipient amount)).length := by
  have voters : supporters earlier entry btcTxHash recipient amount ⊆
      ((((earlier ++ [entry]).filter
        (fun vote => vote.input.call = .confirmPegIn btcTxHash recipient amount)).map
          (fun vote => vote.input.message.sender)).toFinset : Set Address) := by
    rintro relayer ⟨-, vote, member, called, sender⟩
    rw [List.coe_toFinset]
    exact List.mem_map.mpr ⟨vote, List.mem_filter.mpr ⟨member, decide_eq_true called⟩, sender⟩
  refine le_trans (Set.ncard_le_ncard voters (Set.toFinite _)) ?_
  rw [Set.ncard_coe_finset]
  refine le_trans (List.toFinset_card_le _) ?_
  rw [List.length_map]

theorem enough_votes {past : List (Entry token bridge)}
    (held : Throughout AgreedRelease past) (index : Nat) (bound : index < past.length)
    (btcTxHash : Bytes32) (recipient : Address) (amount : Uint256)
    (paid : .pegInExecuted btcTxHash recipient amount ∈ past[index].output) :
    past[index].before.requiredConfirmations.toNat ≤ ((past.take (index + 1)).filter
      (fun vote => vote.input.call = .confirmPegIn btcTxHash recipient amount)).length := by
  have enough := held.at_index index bound btcTxHash recipient amount paid
  refine le_trans enough ?_
  have votes := supporters_le_votes (past.take index) past[index] btcTxHash recipient amount
  rwa [List.take_concat_get'] at votes

/-- Two relayers vote for paying 7 to account 5, and the second vote pays. -/
theorem pegIn_agreement_two :
    ∃ (start : State MockWbtc.token) (events : List Event),
      deploy ⟨1#160, 0#256⟩ (MockWbtc.create 1#160 50#256) 1#160 [2#160, 3#160] 2#256 =
        .ok (start, events) ∧
      Throughout AgreedRelease (history 9#160 start
        [⟨⟨1#160, 0#256⟩, .wrappedBtc (.transfer 9#160 20#256), by decide⟩,
         ⟨⟨2#160, 0#256⟩, .confirmPegIn 4#256 5#160 7#256, by decide⟩,
         ⟨⟨3#160, 0#256⟩, .confirmPegIn 4#256 5#160 7#256, by decide⟩]).past := by
  refine ⟨_, _, rfl, ?_⟩
  refine @pegIn_agreement MockWbtc.token 9#160 ⟨1#160, 0#256⟩ (MockWbtc.create 1#160 50#256)
    1#160 [2#160, 3#160] 2#256 _ _ rfl _ ?_
  refine meets_run_snoc (transact 9#160) _ (joinsAgreement 9#160) [_, _] _
    (meets_run_snoc (transact 9#160) _ (joinsAgreement 9#160) [_] _
      (meets_run_snoc (transact 9#160) _ (joinsAgreement 9#160) [] _ (meets_nil _) trivial)
      ⟨fun voted => absurd rfl voted, fun reached => absurd reached (by decide)⟩)
    ⟨fun _ => ⟨rfl, rfl⟩, fun _ relayer confirmed => ?_⟩
  have voted : Function.update (fun _ => false) 2#160 true relayer = true := confirmed
  by_cases first : relayer = 2#160
  · subst first
    rfl
  · rw [Function.update_of_ne first] at voted
    cases voted

/-- The second relayer votes for another payment; its vote releases the first one's. -/
theorem pegIn_agreement_disputed :
    ∃ (start : State MockWbtc.token) (events : List Event),
      deploy ⟨1#160, 0#256⟩ (MockWbtc.create 1#160 50#256) 1#160 [2#160, 3#160] 2#256 =
        .ok (start, events) ∧
      ¬ Throughout AgreedRelease (history 9#160 start
        [⟨⟨1#160, 0#256⟩, .wrappedBtc (.transfer 9#160 20#256), by decide⟩,
         ⟨⟨2#160, 0#256⟩, .confirmPegIn 4#256 5#160 7#256, by decide⟩,
         ⟨⟨3#160, 0#256⟩, .confirmPegIn 4#256 6#160 8#256, by decide⟩]).past := by
  refine ⟨_, _, rfl, fun held => ?_⟩
  exact absurd (enough_votes held 2 (by decide) 4#256 5#160 7#256 (by decide)) (by decide)

end BigX.Bridge
