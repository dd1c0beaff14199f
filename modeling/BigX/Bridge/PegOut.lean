import BigX.Bridge.Relayers

set_option autoImplicit false

/- Peg-out bookkeeping: the request table against the confirmation table, and both
against the history. `confirmPegOut` takes any id, so ids nobody has requested yet need
a condition of their own. -/
namespace BigX.Bridge

open Evm Run

variable {token : Erc20} {bridge : Address}

/-- The two peg-out tables agree on requests that exist and are blank elsewhere. -/
structure PegOutBooks (state : State token) : Prop where
  counted : ∀ id, id.toNat < state.nextPegOutId.toNat →
    (state.pegOutRequests id).confirmations.toNat = tally (state.pegOutConfirmedBy id)
  unmade : ∀ id, state.nextPegOutId.toNat ≤ id.toNat →
    (∀ relayer, state.pegOutConfirmedBy id relayer = false) ∧
      (state.pegOutRequests id).confirmations = 0#256 ∧
      (state.pegOutRequests id).executed = false

/-- A confirmation is of a request that exists. -/
def confirmsRequested (bridge : Address) (state : State token) (transaction : Transaction bridge) :
    Prop :=
  match transaction.call with
  | .confirmPegOut id => id.toNat < state.nextPegOutId.toNat
  | _ => True

/-- A request is made at a time that `uint64(block.timestamp)` keeps. -/
def keepsTime (bridge : Address) (_ : State token) (transaction : Transaction bridge) : Prop :=
  match transaction.call with
  | .requestPegOut _ _ => transaction.message.timestamp.toNat < 2 ^ 64
  | _ => True

instance (state : State token) (transaction : Transaction bridge) :
    Decidable (confirmsRequested bridge state transaction) := by
  unfold confirmsRequested
  split <;> exact inferInstance

instance (state : State token) (transaction : Transaction bridge) :
    Decidable (keepsTime bridge state transaction) := by
  unfold keepsTime
  split <;> exact inferInstance

/-- The entry made the request `id`. -/
def RequestsId (entry : Entry token bridge) (id : Uint256) : Prop :=
  (∃ amount btcAddress, entry.input.call = .requestPegOut amount btcAddress) ∧
    entry.before.nextPegOutId = id

/-- The entry confirmed the request `id`. -/
def ConfirmsId (entry : Entry token bridge) (id : Uint256) : Prop :=
  entry.input.call = .confirmPegOut id

/-- Every confirmation of `id` has a request of `id`, and comes a timelock after it. -/
def TimelockKept (past : List (Entry token bridge)) : Prop :=
  ∀ confirmation ∈ past, ∀ id, ConfirmsId confirmation id →
    (∃ request ∈ past, RequestsId request id) ∧
      ∀ request ∈ past, RequestsId request id →
        request.input.message.timestamp.toNat + 3600 ≤
          confirmation.input.message.timestamp.toNat

theorem PegOutBooks.congr {before after : State token} (books : PegOutBooks before)
    (requests : after.pegOutRequests = before.pegOutRequests)
    (confirmedBy : after.pegOutConfirmedBy = before.pegOutConfirmedBy)
    (nextPegOutId : after.nextPegOutId = before.nextPegOutId) : PegOutBooks after := by
  refine ⟨?_, ?_⟩
  · rw [requests, confirmedBy, nextPegOutId]
    exact books.counted
  · rw [requests, confirmedBy, nextPegOutId]
    exact books.unmade

/-- Where the tables agree, a count of zero means that nobody confirmed. -/
theorem PegOutBooks.unconfirmed {state : State token} (books : PegOutBooks state) (id : Uint256)
    (made : id.toNat < state.nextPegOutId.toNat)
    (none_counted : (state.pegOutRequests id).confirmations = 0#256) (relayer : Address) :
    state.pegOutConfirmedBy id relayer = false := by
  have counted := books.counted id made
  rw [none_counted] at counted
  exact (tally_eq_zero _).mp counted.symm relayer

/-- A request overwrites only an id that nobody has confirmed. -/
theorem RequestStep.books {message : Message} {amount : Uint256} {btcAddress : String}
    {before after : State token} {events : List Event} {nextPegOutId : Uint256}
    {ledger : token.Ledger}
    (step : RequestStep bridge message amount btcAddress before after events nextPegOutId ledger)
    (books : PegOutBooks before) : PegOutBooks after := by
  have advanced := step.advanced
  have blank := (books.unmade before.nextPegOutId (Nat.le_refl _)).1
  rw [step.after_eq]
  refine ⟨?_, ?_⟩
  · intro id made
    by_cases fresh : id = before.nextPegOutId
    · subst fresh
      simp only [Function.update_self, BitVec.toNat_ofNat, Nat.zero_mod]
      exact ((tally_eq_zero _).mpr blank).symm
    · have older : id.toNat < before.nextPegOutId.toNat := by
        have different : id.toNat ≠ before.nextPegOutId.toNat := fun same =>
          fresh (BitVec.eq_of_toNat_eq same)
        dsimp only at made
        omega
      simp only [Function.update_of_ne fresh]
      exact books.counted id older
  · intro id unmade
    have fresh : id ≠ before.nextPegOutId := by
      rintro rfl
      dsimp only at unmade
      omega
    simp only [Function.update_of_ne fresh]
    exact books.unmade id (by dsimp only at unmade; omega)

/-- A confirmation keeps the tables in agreement exactly when its request exists. -/
theorem PegOutStep.books_iff {message : Message} {id : Uint256} {before after : State token}
    {events : List Event} {confirmations : Uint256} {executed : Bool}
    {withdrawn resetDay : Uint256}
    (step : PegOutStep message id before after events confirmations executed withdrawn resetDay)
    (books : PegOutBooks before) :
    PegOutBooks after ↔ id.toNat < before.nextPegOutId.toNat := by
  rw [step.after_eq]
  constructor
  · intro good
    by_contra missing
    have blank := (good.unmade id (Nat.le_of_not_lt missing)).1 message.sender
    simp at blank
  · intro made
    refine ⟨?_, ?_⟩
    · intro other older
      by_cases same : other = id
      · subst same
        simp only [Function.update_self, tally_mark _ _ step.fresh, step.counted,
          books.counted other made]
      · simp only [Function.update_of_ne same]
        exact books.counted other older
    · intro other unmade
      have same : other ≠ id := by
        rintro rfl
        exact Nat.not_lt_of_le unmade made
      simp only [Function.update_of_ne same]
      exact books.unmade other unmade

theorem transact_books_iff (transaction : Transaction bridge) (before after : State token)
    (events : List Event) (books : PegOutBooks before)
    (accepted : transact bridge transaction before = .ok (after, events)) :
    PegOutBooks after ↔ confirmsRequested bridge before transaction := by
  have step := transact_step bridge transaction before after events accepted
  unfold confirmsRequested
  rcases step.pegOut_cases with
    ⟨_, _, _, _, called, request⟩ | ⟨id, _, _, _, _, called, confirmation⟩ | frame
  · rw [called]
    exact iff_of_true (request.books books) trivial
  · rw [called]
    exact confirmation.books_iff books
  · refine iff_of_true (books.congr frame.requests frame.confirmedBy frame.nextPegOutId) ?_
    split
    · rename_i id called
      exact absurd called (frame.unconfirmed id)
    · trivial

theorem deployed_books {message : Message} {wrappedBtc : token.Ledger} {admin : Address}
    {initialRelayers : List Address} {threshold : Uint256} {start : State token}
    (deployed : Deployed message wrappedBtc admin initialRelayers threshold start) :
    PegOutBooks start := by
  refine ⟨?_, ?_⟩
  · intro id made
    rw [deployed.nextPegOutId] at made
    exact absurd made (Nat.not_lt_zero _)
  · intro id _
    rw [deployed.pegOutRequests, deployed.pegOutConfirmedBy]
    exact ⟨fun _ => rfl, rfl, rfl⟩

/-- What the history of requests and confirmations says about the present tables. -/
structure PegOutHistory (past : List (Entry token bridge)) (now : State token) : Prop where
  made : ∀ id, id.toNat < now.nextPegOutId.toNat → ∃ request ∈ past, RequestsId request id
  stamped : ∀ request ∈ past, ∀ id, RequestsId request id →
    id.toNat < now.nextPegOutId.toNat ∧
      (now.pegOutRequests id).requestedAt.toNat = request.input.message.timestamp.toNat
  known : ∀ confirmation ∈ past, ∀ id, ConfirmsId confirmation id →
    id.toNat < now.nextPegOutId.toNat
  timelock : TimelockKept past

/-- The earlier confirmations keep their timelock when no new entry requests their id. -/
theorem TimelockKept.earlier {past : List (Entry token bridge)} (held : TimelockKept past)
    (last : Entry token bridge) {confirmation : Entry token bridge} (member : confirmation ∈ past)
    {id : Uint256} (confirmed : ConfirmsId confirmation id) (requests : ¬ RequestsId last id) :
    (∃ request ∈ past ++ [last], RequestsId request id) ∧
      ∀ request ∈ past ++ [last], RequestsId request id →
        request.input.message.timestamp.toNat + 3600 ≤
          confirmation.input.message.timestamp.toNat := by
  obtain ⟨⟨request, requestMember, made⟩, late⟩ := held confirmation member id confirmed
  refine ⟨⟨request, List.mem_append_left _ requestMember, made⟩, ?_⟩
  intro second secondMember again
  exact late second (mem_past_of_not_last (RequestsId · id) secondMember again requests) again

/-- Steps that neither request nor confirm change nothing the history speaks of. -/
theorem PegOutHistory.other {past : List (Entry token bridge)} {now : State token}
    (held : PegOutHistory past now) (entry : Entry token bridge)
    (requests : ∀ id, ¬ RequestsId entry id) (confirms : ∀ id, ¬ ConfirmsId entry id)
    (sameId : entry.after.nextPegOutId = now.nextPegOutId)
    (sameRequests : entry.after.pegOutRequests = now.pegOutRequests) :
    PegOutHistory (past ++ [entry]) entry.after := by
  refine ⟨?_, ?_, ?_, ?_⟩
  · intro id older
    rw [sameId] at older
    obtain ⟨request, member, made⟩ := held.made id older
    exact ⟨request, List.mem_append_left _ member, made⟩
  · intro request member id made
    rw [sameId, sameRequests]
    have earlier := mem_past_of_not_last (RequestsId · id) member made (requests id)
    exact held.stamped request earlier id made
  · intro confirmation member id confirmed
    rw [sameId]
    have earlier := mem_past_of_not_last (ConfirmsId · id) member confirmed (confirms id)
    exact held.known confirmation earlier id confirmed
  · intro confirmation member id confirmed
    have earlier := mem_past_of_not_last (ConfirmsId · id) member confirmed (confirms id)
    exact held.timelock.earlier entry earlier confirmed (requests id)

/-- A request takes an id that no confirmation of the past names. -/
theorem PegOutHistory.request {past : List (Entry token bridge)} {now : State token}
    (held : PegOutHistory past now) (entry : Entry token bridge) (from_now : entry.before = now)
    {amount : Uint256} {btcAddress : String} {nextPegOutId : Uint256} {ledger : token.Ledger}
    (called : entry.input.call = .requestPegOut amount btcAddress)
    (step : RequestStep bridge entry.input.message amount btcAddress now entry.after entry.output
      nextPegOutId ledger)
    (kept : entry.input.message.timestamp.toNat < 2 ^ 64) :
    PegOutHistory (past ++ [entry]) entry.after := by
  have advanced := step.advanced
  have nextId : entry.after.nextPegOutId = nextPegOutId := by rw [step.after_eq]
  have own : RequestsId entry now.nextPegOutId := ⟨⟨amount, btcAddress, called⟩, by rw [from_now]⟩
  have only : ∀ id, RequestsId entry id → id = now.nextPegOutId := by
    rintro id ⟨-, same⟩
    rw [← same, from_now]
  have confirms : ∀ id, ¬ ConfirmsId entry id := by
    intro id confirmed
    rw [ConfirmsId, called] at confirmed
    cases confirmed
  refine ⟨?_, ?_, ?_, ?_⟩
  · intro id older
    rw [nextId] at older
    by_cases fresh : id = now.nextPegOutId
    · exact ⟨entry, by simp, fresh ▸ own⟩
    · have different : id.toNat ≠ now.nextPegOutId.toNat := fun same =>
        fresh (BitVec.eq_of_toNat_eq same)
      obtain ⟨request, member, made⟩ := held.made id (by omega)
      exact ⟨request, List.mem_append_left _ member, made⟩
  · intro request member id made
    rw [nextId]
    rcases List.mem_append.mp member with earlier | last
    · obtain ⟨older, stamp⟩ := held.stamped request earlier id made
      have fresh : id ≠ now.nextPegOutId := by
        rintro rfl
        omega
      refine ⟨by omega, ?_⟩
      rw [step.after_eq]
      simp only [Function.update_of_ne fresh]
      exact stamp
    · rw [List.mem_singleton.mp last] at made ⊢
      rw [only id made, step.after_eq]
      refine ⟨by omega, ?_⟩
      simp only [Function.update_self, BitVec.toNat_setWidth]
      exact Nat.mod_eq_of_lt kept
  · intro confirmation member id confirmed
    rw [nextId]
    have earlier := mem_past_of_not_last (ConfirmsId · id) member confirmed (confirms id)
    have older := held.known confirmation earlier id confirmed
    omega
  · intro confirmation member id confirmed
    have earlier := mem_past_of_not_last (ConfirmsId · id) member confirmed (confirms id)
    refine held.timelock.earlier entry earlier confirmed ?_
    intro again
    have older := held.known confirmation earlier id confirmed
    rw [only id again] at older
    exact absurd older (Nat.lt_irrefl _)

/-- A confirmation waits for the time its request was stamped with. -/
theorem PegOutHistory.confirm {past : List (Entry token bridge)} {now : State token}
    (held : PegOutHistory past now) (entry : Entry token bridge)
    {id confirmations : Uint256} {executed : Bool} {withdrawn resetDay : Uint256}
    (called : entry.input.call = .confirmPegOut id)
    (step : PegOutStep entry.input.message id now entry.after entry.output confirmations executed
      withdrawn resetDay)
    (requested : id.toNat < now.nextPegOutId.toNat) :
    PegOutHistory (past ++ [entry]) entry.after := by
  have nextId : entry.after.nextPegOutId = now.nextPegOutId := by rw [step.after_eq]
  have stamps : ∀ other, (entry.after.pegOutRequests other).requestedAt =
      (now.pegOutRequests other).requestedAt := by
    intro other
    rw [step.after_eq]
    by_cases same : other = id
    · simp [same]
    · simp [same]
  have only : ∀ other, ConfirmsId entry other → other = id := by
    intro other confirmed
    rw [ConfirmsId, called] at confirmed
    exact (Call.confirmPegOut.inj confirmed).symm
  have requests : ∀ other, ¬ RequestsId entry other := by
    rintro other ⟨⟨amount, btcAddress, same⟩, -⟩
    rw [called] at same
    cases same
  refine ⟨?_, ?_, ?_, ?_⟩
  · intro other older
    rw [nextId] at older
    obtain ⟨request, member, made⟩ := held.made other older
    exact ⟨request, List.mem_append_left _ member, made⟩
  · intro request member other made
    rw [nextId, stamps other]
    have earlier := mem_past_of_not_last (RequestsId · other) member made (requests other)
    exact held.stamped request earlier other made
  · intro confirmation member other confirmed
    rw [nextId]
    rcases List.mem_append.mp member with earlier | last
    · exact held.known confirmation earlier other confirmed
    · rw [List.mem_singleton.mp last] at confirmed
      rw [only other confirmed]
      exact requested
  · intro confirmation member other confirmed
    rcases List.mem_append.mp member with earlier | last
    · exact held.timelock.earlier entry earlier confirmed (requests other)
    · rw [List.mem_singleton.mp last] at confirmed ⊢
      have same := only other confirmed
      subst same
      obtain ⟨request, requestMember, made⟩ := held.made other requested
      refine ⟨⟨request, List.mem_append_left _ requestMember, made⟩, ?_⟩
      intro second secondMember again
      have earlier := mem_past_of_not_last (RequestsId · other) secondMember again (requests other)
      rw [← (held.stamped second earlier other again).2]
      exact step.elapsed

theorem PegOutHistory.step {past : List (Entry token bridge)} (entry : Entry token bridge)
    (held : PegOutHistory past entry.before)
    (requested : confirmsRequested bridge entry.before entry.input)
    (kept : keepsTime bridge entry.before entry.input)
    (step : Step bridge entry.input.message entry.before entry.after entry.output
      entry.input.call) :
    PegOutHistory (past ++ [entry]) entry.after := by
  simp only [confirmsRequested, keepsTime] at requested kept
  rcases step.pegOut_cases with
    ⟨_, _, _, _, called, request⟩ | ⟨id, _, _, _, _, called, confirmation⟩ | frame
  · rw [called] at kept
    exact held.request entry rfl called request kept
  · rw [called] at requested
    exact held.confirm entry called confirmation requested
  · refine held.other entry ?_ frame.unconfirmed frame.nextPegOutId frame.requests
    rintro id ⟨⟨amount, btcAddress, called⟩, -⟩
    exact frame.unrequested amount btcAddress called

/-- The history part of the bookkeeping, for runs that confirm only what was requested. -/
theorem pegOut_history (start : State token) (blank : start.nextPegOutId = 0#256)
    (transactions : List (Transaction bridge))
    (meets : Meets (confirmsRequested bridge) (history bridge start transactions).past)
    (times : Meets (keepsTime bridge) (history bridge start transactions).past) :
    PegOutHistory (history bridge start transactions).past
      (history bridge start transactions).now := by
  revert meets times
  apply run_induction (transact bridge) start (fun past now =>
    Meets (confirmsRequested bridge) past → Meets (keepsTime bridge) past → PegOutHistory past now)
  · intro _ _
    refine ⟨?_, ?_, ?_, ?_⟩
    · intro id older
      rw [blank] at older
      exact absurd older (Nat.not_lt_zero _)
    · intro request member
      cases member
    · intro confirmation member
      cases member
    · intro confirmation member
      cases member
  · intro past now transaction after events held accepted meets times
    obtain ⟨earlierMeets, requested⟩ := (meets_snoc _ past _).mp meets
    obtain ⟨earlierTimes, kept⟩ := (meets_snoc _ past _).mp times
    exact (held earlierMeets earlierTimes).step ⟨now, transaction, events, after⟩ requested kept
      (transact_step bridge transaction now after events accepted)

/-- A step adds its sender to the confirmations of the id it confirms, and no more. -/
theorem Step.pegOutConfirmedBy {message : Message} {before after : State token}
    {events : List Event} {call : Call} (step : Step bridge message before after events call)
    {id : Uint256} {relayer : Address} (confirmed : after.pegOutConfirmedBy id relayer = true) :
    before.pegOutConfirmedBy id relayer = true ∨
      (call = .confirmPegOut id ∧ message.sender = relayer) := by
  rcases step.pegOut_cases with
    ⟨_, _, _, _, -, request⟩ | ⟨other, _, _, _, _, called, confirmation⟩ | frame
  · rw [request.after_eq] at confirmed
    exact Or.inl confirmed
  · rw [confirmation.after_eq] at confirmed
    by_cases same : id = other
    · subst same
      by_cases own : relayer = message.sender
      · exact Or.inr ⟨called, own.symm⟩
      · exact Or.inl (by simpa [Function.update_of_ne own] using confirmed)
    · exact Or.inl (by simpa [Function.update_of_ne same] using confirmed)
  · rw [frame.confirmedBy] at confirmed
    exact Or.inl confirmed

/-- Whoever the table says confirmed `id` made an accepted confirmation of it. -/
theorem pegOutConfirmedBy_confirms (start : State token)
    (blank : start.pegOutConfirmedBy = fun _ _ => false)
    (transactions : List (Transaction bridge)) :
    ∀ id relayer, (history bridge start transactions).now.pegOutConfirmedBy id relayer = true →
      ∃ confirmation ∈ (history bridge start transactions).past,
        ConfirmsId confirmation id ∧ confirmation.input.message.sender = relayer := by
  apply run_induction (transact bridge) start (fun past now =>
    ∀ id relayer, now.pegOutConfirmedBy id relayer = true →
      ∃ confirmation ∈ past, ConfirmsId confirmation id ∧
        confirmation.input.message.sender = relayer)
  · intro id relayer confirmed
    rw [blank] at confirmed
    cases confirmed
  · intro past now transaction after events held accepted id relayer confirmed
    have step := transact_step bridge transaction now after events accepted
    rcases step.pegOutConfirmedBy confirmed with known | ⟨called, own⟩
    · obtain ⟨confirmation, member, found⟩ := held id relayer known
      exact ⟨confirmation, List.mem_append_left _ member, found⟩
    · exact ⟨⟨now, transaction, events, after⟩, by simp, called, own⟩

/-- The tables agree in every state of exactly the runs that confirm only requested ids,
and in these runs every counted confirmation waited for the timelock of its request. -/
theorem pegOut_bookkeeping (bridge : Address) (message : Message) (wrappedBtc : token.Ledger)
    (admin : Address) (initialRelayers : List Address) (threshold : Uint256)
    (start : State token) (events : List Event)
    (accepted : deploy message wrappedBtc admin initialRelayers threshold = .ok (start, events))
    (transactions : List (Transaction bridge)) :
    (PegOutBooks start ∧
      ((∀ entry ∈ (history bridge start transactions).past, PegOutBooks entry.after) ↔
        Meets (confirmsRequested bridge) (history bridge start transactions).past)) ∧
    (Meets (confirmsRequested bridge) (history bridge start transactions).past →
      Meets (keepsTime bridge) (history bridge start transactions).past →
      TimelockKept (history bridge start transactions).past ∧
        ∀ id relayer,
          (history bridge start transactions).now.pegOutConfirmedBy id relayer = true →
          ∃ confirmation ∈ (history bridge start transactions).past,
            ConfirmsId confirmation id ∧ confirmation.input.message.sender = relayer) := by
  have deployed := deploy_ok message wrappedBtc admin initialRelayers threshold start events accepted
  have base := deployed_books deployed
  refine ⟨⟨base, ?_⟩, ?_⟩
  · exact run_always_iff (transact bridge) start PegOutBooks (confirmsRequested bridge) base
      (fun now transaction after written books step =>
        transact_books_iff transaction now after written books step) transactions
  · intro meets times
    have histories := pegOut_history start deployed.nextPegOutId transactions meets times
    exact ⟨histories.timelock,
      pegOutConfirmedBy_confirms start deployed.pegOutConfirmedBy transactions⟩

/-- A request at noon of the first day, confirmed an hour later. -/
theorem pegOut_bookkeeping_noon :
    ∃ (start : State MockWbtc.token) (events : List Event),
      deploy ⟨1#160, 0#256⟩ (MockWbtc.create 1#160 50#256) 1#160 [2#160, 3#160] 2#256 =
        .ok (start, events) ∧
      TimelockKept (history 9#160 start
        [⟨⟨1#160, 43200#256⟩, .wrappedBtc (.approve 9#160 5#256), by decide⟩,
         ⟨⟨1#160, 43200#256⟩, .requestPegOut 5#256 "bc1q", by decide⟩,
         ⟨⟨2#160, 46800#256⟩, .confirmPegOut 0#256, by decide⟩]).past := by
  refine ⟨_, _, rfl, ?_⟩
  refine ((@pegOut_bookkeeping MockWbtc.token 9#160 ⟨1#160, 0#256⟩ (MockWbtc.create 1#160 50#256)
    1#160 [2#160, 3#160] 2#256 _ _ rfl _).2 ?_ ?_).1
  · decide
  · decide

/-- A relayer confirms id 0 before the first request, which then starts out with a
confirmation that the table does not count. -/
theorem pegOut_bookkeeping_early :
    ∃ (start : State MockWbtc.token) (events : List Event),
      deploy ⟨1#160, 0#256⟩ (MockWbtc.create 1#160 50#256) 1#160 [2#160, 3#160] 2#256 =
        .ok (start, events) ∧
      ¬ PegOutBooks (history 9#160 start
        [⟨⟨1#160, 7200#256⟩, .wrappedBtc (.approve 9#160 5#256), by decide⟩,
         ⟨⟨2#160, 7200#256⟩, .confirmPegOut 0#256, by decide⟩,
         ⟨⟨1#160, 7260#256⟩, .requestPegOut 5#256 "bc1q", by decide⟩]).now := by
  refine ⟨_, _, rfl, fun books => ?_⟩
  exact absurd (books.unconfirmed 0#256 (by decide) (by decide) 2#160) (by decide)

end BigX.Bridge
