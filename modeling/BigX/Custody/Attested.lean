import BigX.Custody.Monitor
import BigX.Run.Credits
import Mathlib.Data.List.Nodup

set_option autoImplicit false

/- When the attestations are the deposits. The monitor attests an address's cumulative
amount, and it remembers transactions, not deposits. -/
namespace BigX.Custody

open Run

def weiPerSatoshi : Nat := 10 ^ 10

/-- The deposits on an address: what each transaction pays it, in wei. -/
def State.deposits (state : State) (address : String) : List (String × Nat) :=
  (state.chain.transactions.filter fun tx => tx.pays address).map fun tx =>
    (tx.txid, tx.paid address * weiPerSatoshi)

/-- What has been attested of the deposits on an address. -/
def State.attestedTo (state : State) (address : String) : List (String × Nat) :=
  (state.attested.filter fun attestation => attestation.btcAddress = address).map
    fun attestation => (attestation.txid, attestation.amountWei)

/-- Everything an address has received, in wei. -/
def State.received (state : State) (address : String) : Nat :=
  (state.chain.transactions.map fun tx => tx.paid address).sum * weiPerSatoshi

/-- The check comes to a deposit that is deep enough. -/
def Monitor.ComesTo (monitor : Monitor) (entry : Entry State Move Unit)
    (address txid : String) : Prop :=
  ∃ outcome check amountBtc rest, entry.input = .examined outcome ∧
    entry.before.check = some check ∧ check.btcAddress = address ∧
    check.pending = (amountBtc, txid) :: rest ∧
    monitor.requiredConfirmations ≤ entry.before.chain.confirmations txid

/-- The check comes to a transaction. If it is deep enough and new, the answer counted no
other transaction that pays the address, and the bridge records the attestation; if it is
deep enough and has been seen, it pays no other tracked address. -/
def Monitor.PlainAt (monitor : Monitor) (outcome : Outcome) (check : Check) (txid : String)
    (state : State) : Prop :=
  monitor.requiredConfirmations ≤ state.chain.confirmations txid →
    if txid ∈ state.seenTxids then
      ∀ tx ∈ state.chain.transactions, tx.txid = txid →
        ∀ tracked ∈ monitor.trackedAddresses, tracked.1 ≠ check.btcAddress →
          tx.pays tracked.1 = false
    else
      outcome.recorded = true ∧
        ∀ other ∈ check.counted, other.txid ≠ txid → other.paid check.btcAddress = 0

instance (monitor : Monitor) (outcome : Outcome) (check : Check) (txid : String)
    (state : State) : Decidable (monitor.PlainAt outcome check txid state) :=
  inferInstanceAs (Decidable (_ → ite _ _ _))

/-- The condition on a step. -/
def Monitor.Plain (monitor : Monitor) (state : State) (move : Move) : Prop :=
  match move, state.check with
  | .examined outcome, some check =>
      ∀ item ∈ check.pending.head?, monitor.PlainAt outcome check item.2 state
  | _, _ => True

instance (monitor : Monitor) (state : State) (move : Move) :
    Decidable (monitor.Plain state move) :=
  match move, checking : state.check with
  | .examined outcome, some check =>
      decidable_of_iff (∀ item ∈ check.pending.head?, monitor.PlainAt outcome check item.2 state)
        (by simp only [Monitor.Plain, checking])
  | .examined _, none => isTrue (by simp only [Monitor.Plain, checking])
  | .arrived _, _ => isTrue trivial
  | .confirmed _ _, _ => isTrue trivial
  | .listed, _ => isTrue trivial

/-- The monitor's run over a sequence of moves, with its log. -/
def Monitor.history (monitor : Monitor) (moves : List Move) : Trace State Move Unit :=
  run monitor.step .initial moves

/-- What the bridge has been told of an address is some of its deposits, each once and with
what it paid; together no more than the address has received, and all of it in the end. -/
structure State.Told (state : State) (address : String) : Prop where
  credits : Credits (state.deposits address) (state.attestedTo address)
  within : amounts (state.attestedTo address) ≤ state.received address
  whole : state.deposits address ⊆ state.attestedTo address →
    amounts (state.attestedTo address) = state.received address

/-- What an answer that is being worked through is known to be. -/
structure Check.Of (monitor : Monitor) (chain : Chain) (check : Check) : Prop where
  watched : (check.btcAddress, check.recipient) ∈ monitor.trackedAddresses
  counted : check.counted.Sublist chain.transactions
  pending : ∀ item ∈ check.pending,
    item.1 = ((check.counted.map fun tx => tx.paid check.btcAddress).sum : Nat) / 10 ^ 8 ∧
      ∃ tx ∈ check.counted, tx.txid = item.2 ∧ tx.pays check.btcAddress = true

/-- The invariant: a seen transaction is attested for one tracked address that it pays. -/
structure Kept (monitor : Monitor) (past : List (Entry State Move Unit)) (state : State) :
    Prop where
  distinct : (state.chain.transactions.map Tx.txid).Nodup
  round : state.round ⊆ monitor.trackedAddresses
  checking : ∀ check, state.check = some check → check.Of monitor state.chain
  seen : ∀ txid ∈ state.seenTxids, ∃ attestation ∈ state.attested, attestation.txid = txid
  attested : ∀ attestation ∈ state.attested, attestation.txid ∈ state.seenTxids ∧
    (attestation.btcAddress, attestation.recipient) ∈ monitor.trackedAddresses ∧
    ∃ tx ∈ state.chain.transactions, tx.txid = attestation.txid ∧
      tx.pays attestation.btcAddress = true
  credits : ∀ address, Credits (state.deposits address) (state.attestedTo address)
  reached : ∀ entry ∈ past, ∀ address txid, monitor.ComesTo entry address txid →
    ∃ attestation ∈ state.attested,
      attestation.btcAddress = address ∧ attestation.txid = txid

theorem paid_of_not_pays {tx : Tx} {address : String} (unpaid : tx.pays address = false) :
    tx.paid address = 0 := by
  unfold Tx.pays at unpaid
  have none_paid : (tx.outputs.filter fun output => output.1 = address) = [] := by
    rw [List.filter_eq_nil_iff]
    exact List.any_eq_false.mp unpaid
  rw [Tx.paid, none_paid]
  rfl

theorem amounts_deposits (state : State) (address : String) :
    amounts (state.deposits address) = state.received address := by
  unfold amounts State.deposits State.received
  induction state.chain.transactions with
  | nil => exact (Nat.zero_mul weiPerSatoshi).symm
  | cons tx rest ih =>
    cases paying : tx.pays address with
    | true =>
      simp only [List.filter_cons, paying, if_true, List.map_cons, List.sum_cons, Nat.add_mul, ih]
    | false =>
      simp only [List.filter_cons, paying, Bool.false_eq_true, if_false, List.map_cons,
        List.sum_cons, paid_of_not_pays paying, Nat.zero_add, ih]

theorem amountWei_satoshis (satoshis : Nat) :
    amountWei ((satoshis : Rat) / 10 ^ 8) = satoshis * weiPerSatoshi := by
  have exact : (satoshis : Rat) / 10 ^ 8 * 10 ^ 18 = ((satoshis * weiPerSatoshi : Nat) : Rat) := by
    unfold weiPerSatoshi
    push_cast
    ring
  rw [amountWei, exact]
  exact congrArg Int.toNat (Rat.floor_intCast _)

/-- The only transaction that pays an address anything pays its whole cumulative amount. -/
theorem sum_sole {address txid : String} {counted : List Tx}
    (distinct : (counted.map Tx.txid).Nodup) {tx : Tx} (member : tx ∈ counted)
    (same : tx.txid = txid)
    (others : ∀ other ∈ counted, other.txid ≠ txid → other.paid address = 0) :
    (counted.map fun tx => tx.paid address).sum = tx.paid address := by
  induction counted with
  | nil => cases member
  | cons head rest ih =>
    rw [List.map_cons, List.nodup_cons] at distinct
    rw [List.map_cons, List.sum_cons]
    rcases List.mem_cons.mp member with equal | later
    · have rest_zero : (rest.map fun tx => tx.paid address).sum = 0 := by
        apply List.sum_eq_zero_iff_forall_eq_nat.mpr
        intro amount listed
        obtain ⟨other, also, rfl⟩ := List.mem_map.mp listed
        apply others other (List.mem_cons_of_mem head also)
        intro again
        apply distinct.1
        rw [← equal, same, ← again]
        exact List.mem_map_of_mem also
      rw [rest_zero, equal, Nat.add_zero]
    · have different : head.txid ≠ txid := by
        intro equal
        apply distinct.1
        rw [equal, ← same]
        exact List.mem_map_of_mem later
      rw [others head List.mem_cons_self different, Nat.zero_add]
      exact ih distinct.2 later fun other also => others other (List.mem_cons_of_mem head also)

theorem mem_counted {chain : Chain} {minconf : Int} {address : String} {tx : Tx} :
    tx ∈ chain.counted minconf address ↔
      tx ∈ chain.transactions ∧ tx.pays address = true ∧
        minconf ≤ chain.confirmations tx.txid := by
  unfold Chain.counted
  rw [List.mem_filter, Bool.and_eq_true, decide_eq_true_iff]

/-- The check that begins comes to what its answer counts, each time with the whole amount. -/
theorem mem_pending_iff (monitor : Monitor) (btcAddress recipient : String) (state : State)
    (item : Rat × String) :
    item ∈ (monitor.checkAddress btcAddress recipient state).pending ↔
      item.1 = (((state.chain.counted monitor.requiredConfirmations btcAddress).map fun tx =>
          tx.paid btcAddress).sum : Nat) / 10 ^ 8 ∧
        ∃ tx ∈ state.chain.counted monitor.requiredConfirmations btcAddress,
          tx.txid = item.2 := by
  unfold Monitor.checkAddress listReceivedByAddress
  dsimp only
  constructor
  · intro member
    split at member
    · cases member
    · rw [List.flatMap_singleton, List.mem_map] at member
      obtain ⟨txid, listed, rfl⟩ := member
      obtain ⟨tx, counted, output⟩ := List.mem_flatMap.mp listed
      obtain ⟨-, -, same⟩ := List.mem_map.mp output
      exact ⟨rfl, tx, counted, same⟩
  · rintro ⟨amount, tx, counted, same⟩
    rw [if_neg (fun empty => List.ne_nil_of_mem counted (List.isEmpty_iff.mp empty)),
      List.flatMap_singleton, List.mem_map]
    refine ⟨item.2, ?_, Prod.ext amount.symm rfl⟩
    obtain ⟨output, listed, paid⟩ := List.any_eq_true.mp (mem_counted.mp counted).2.1
    refine List.mem_flatMap.mpr ⟨tx, counted, List.mem_map.mpr ⟨output, ?_, same⟩⟩
    exact List.mem_filter.mpr ⟨listed, paid⟩

theorem checkAddress_of (monitor : Monitor) (state : State) {btcAddress recipient : String}
    (watched : (btcAddress, recipient) ∈ monitor.trackedAddresses) :
    (monitor.checkAddress btcAddress recipient state).Of monitor state.chain := by
  refine ⟨watched, List.filter_sublist, ?_⟩
  intro item member
  obtain ⟨amount, tx, counted, same⟩ := (mem_pending_iff monitor btcAddress recipient state
    item).mp member
  exact ⟨amount, tx, counted, same, (mem_counted.mp counted).2.1⟩

theorem pollForDeposits_ok {monitor : Monitor} {state after : State}
    (polled : monitor.pollForDeposits state = .ok after)
    (round : state.round ⊆ monitor.trackedAddresses) :
    ∃ tracked rest, tracked ∈ monitor.trackedAddresses ∧ rest ⊆ monitor.trackedAddresses ∧
      after = { state with
        round := rest
        check := some (monitor.checkAddress tracked.1 tracked.2 state) } := by
  unfold Monitor.pollForDeposits at polled
  have known : (if state.round.isEmpty then monitor.trackedAddresses else state.round) ⊆
      monitor.trackedAddresses := by
    split
    · exact List.Subset.refl _
    · exact round
  generalize (if state.round.isEmpty then monitor.trackedAddresses else state.round) = toCome
    at polled known
  cases toCome with
  | nil => cases polled
  | cons tracked rest =>
    cases polled
    exact ⟨tracked, rest, known List.mem_cons_self,
      fun _ later => known (List.mem_cons_of_mem tracked later), rfl⟩

namespace Kept

variable {monitor : Monitor} {past : List (Entry State Move Unit)} {state : State}

theorem start (monitor : Monitor) : Kept monitor [] State.initial := by
  refine ⟨List.nodup_nil, List.nil_subset _, ?_, ?_, ?_, fun address => Credits.start _, ?_⟩
  · intro check checking
    cases checking
  · intro txid member
    cases member
  · intro attestation member
    cases member
  · intro entry member
    cases member

/-- A step is covered when what it came to is attested after it. -/
theorem extend (kept : Kept monitor past state) {last : Entry State Move Unit}
    (covered : ∀ address txid, monitor.ComesTo last address txid →
      ∃ attestation ∈ state.attested,
        attestation.btcAddress = address ∧ attestation.txid = txid) :
    Kept monitor (past ++ [last]) state := by
  refine ⟨kept.distinct, kept.round, kept.checking, kept.seen, kept.attested, kept.credits, ?_⟩
  intro entry member
  rcases List.mem_append.mp member with earlier | final
  · exact kept.reached entry earlier
  · rw [List.mem_singleton.mp final]
    exact covered

theorem arrived (kept : Kept monitor past state) {tx : Tx}
    (fresh : tx.txid ∉ state.chain.transactions.map Tx.txid) :
    Kept monitor past { state with
      chain := { state.chain with transactions := state.chain.transactions ++ [tx] } } := by
  refine ⟨?_, kept.round, ?_, kept.seen, ?_, ?_, kept.reached⟩
  · simp only [List.map_append, List.map_cons, List.map_nil]
    exact List.nodup_append.mpr ⟨kept.distinct, List.pairwise_singleton _ _, by
      rintro txid earlier last member rfl
      exact fresh (List.mem_singleton.mp member ▸ earlier)⟩
  · intro check checking
    have known := kept.checking check checking
    exact ⟨known.watched, known.counted.trans (List.sublist_append_left _ _), known.pending⟩
  · intro attestation member
    obtain ⟨seen, watched, paid, listed, rest⟩ := kept.attested attestation member
    exact ⟨seen, watched, paid, List.mem_append_left _ listed, rest⟩
  · intro address
    apply (kept.credits address).mono
    unfold State.deposits
    simp only [List.filter_append, List.map_append]
    exact List.subset_append_left _ _

theorem confirmed (kept : Kept monitor past state) (confirmations : String → Int) :
    Kept monitor past { state with
      chain := { state.chain with confirmations := confirmations } } := by
  refine ⟨kept.distinct, kept.round, ?_, kept.seen, kept.attested, kept.credits, kept.reached⟩
  intro check checking
  have known := kept.checking check checking
  exact ⟨known.watched, known.counted, known.pending⟩

theorem check (kept : Kept monitor past state) {round : List (String × String)} {next : Check}
    (tracked : round ⊆ monitor.trackedAddresses) (known : next.Of monitor state.chain) :
    Kept monitor past { state with round := round, check := some next } := by
  refine ⟨kept.distinct, tracked, ?_, kept.seen, kept.attested, kept.credits, kept.reached⟩
  intro check checking
  cases checking
  exact known

/-- A new transaction is attested with what it pays the address. -/
theorem attest (kept : Kept monitor past state) {btcAddress recipient txid : String}
    {amountWei : Nat} (new : txid ∉ state.seenTxids)
    (watched : (btcAddress, recipient) ∈ monitor.trackedAddresses) {tx : Tx}
    (listed : tx ∈ state.chain.transactions) (same : tx.txid = txid)
    (paying : tx.pays btcAddress = true) (exact : amountWei = tx.paid btcAddress * weiPerSatoshi) :
    Kept monitor past { state with
      attested := state.attested ++ [⟨btcAddress, txid, recipient, amountWei⟩]
      seenTxids := txid :: state.seenTxids } := by
  refine ⟨kept.distinct, kept.round, kept.checking, ?_, ?_, ?_, ?_⟩
  · intro other member
    rcases List.mem_cons.mp member with rfl | earlier
    · exact ⟨_, List.mem_append_right _ List.mem_cons_self, rfl⟩
    · obtain ⟨attestation, attested, rest⟩ := kept.seen other earlier
      exact ⟨attestation, List.mem_append_left _ attested, rest⟩
  · intro attestation member
    rcases List.mem_append.mp member with earlier | last
    · obtain ⟨seen, rest⟩ := kept.attested attestation earlier
      exact ⟨List.mem_cons_of_mem _ seen, rest⟩
    · rw [List.mem_singleton.mp last]
      exact ⟨List.mem_cons_self, watched, tx, listed, same, paying⟩
  · intro address
    have credits := kept.credits address
    unfold State.attestedTo at credits ⊢
    rw [List.filter_append, List.map_append, List.filter_cons, List.filter_nil]
    by_cases mine : btcAddress = address
    · subst mine
      rw [if_pos (decide_eq_true rfl)]
      apply credits.snoc
      · exact List.mem_map.mpr
          ⟨tx, List.mem_filter.mpr ⟨listed, paying⟩, Prod.ext same exact.symm⟩
      · intro credit member equal
        obtain ⟨attestation, attested, rfl⟩ := List.mem_map.mp member
        have seen := (kept.attested attestation (List.mem_filter.mp attested).1).1
        rw [show attestation.txid = txid from equal] at seen
        exact new seen
    · rw [if_neg (fun impossible => mine (of_decide_eq_true impossible)), List.map_nil,
        List.append_nil]
      exact credits
  · intro entry member address other came
    obtain ⟨attestation, attested, rest⟩ := kept.reached entry member address other came
    exact ⟨attestation, List.mem_append_left _ attested, rest⟩

/-- The body of the loop under `Plain`: a transaction that is deep enough is attested to the
address at hand, now or before. -/
theorem examine (kept : Kept monitor past state) {check : Check} {outcome : Outcome}
    {txid : String} {amountBtc : Rat}
    (known : check.Of monitor state.chain) (payer : ∃ tx ∈ check.counted, tx.txid = txid ∧
      tx.pays check.btcAddress = true)
    (amount : amountBtc = ((check.counted.map fun tx => tx.paid check.btcAddress).sum : Nat) /
      10 ^ 8)
    (plain : monitor.PlainAt outcome check txid state) :
    Kept monitor past (monitor.examine outcome check txid amountBtc state) ∧
      (monitor.requiredConfirmations ≤ state.chain.confirmations txid →
        ∃ attestation ∈ (monitor.examine outcome check txid amountBtc state).attested,
          attestation.btcAddress = check.btcAddress ∧ attestation.txid = txid) := by
  unfold Monitor.examine
  by_cases seen : txid ∈ state.seenTxids
  · rw [if_pos seen]
    refine ⟨kept, ?_⟩
    intro deep
    have elsewhere := plain deep
    rw [if_pos seen] at elsewhere
    obtain ⟨attestation, attested, same⟩ := kept.seen txid seen
    obtain ⟨-, watched, tx, listed, paid, paying⟩ := kept.attested attestation attested
    refine ⟨attestation, attested, ?_, same⟩
    by_contra other
    have unpaid := elsewhere tx listed (paid.trans same) _ watched other
    rw [unpaid] at paying
    cases paying
  · rw [if_neg seen]
    by_cases shallow : state.chain.confirmations txid < monitor.requiredConfirmations
    · rw [if_pos shallow]
      exact ⟨kept, fun deep => absurd shallow (not_lt.mpr deep)⟩
    · rw [if_neg shallow]
      have alone := plain (not_lt.mp shallow)
      rw [if_neg seen] at alone
      obtain ⟨tx, counted, same, paying⟩ := payer
      have whole := sum_sole ((known.counted.map Tx.txid).nodup kept.distinct) counted same
        alone.2
      have exact : amountWei amountBtc = tx.paid check.btcAddress * weiPerSatoshi := by
        rw [amount, whole]
        exact amountWei_satoshis (tx.paid check.btcAddress)
      unfold State.attestPegIn
      rw [if_pos alone.1]
      refine ⟨?_, fun _ => ⟨_, List.mem_append_right _ List.mem_cons_self, rfl, rfl⟩⟩
      exact kept.attest seen known.watched (known.counted.subset counted) same paying exact

end Kept

theorem listed_ok {monitor : Monitor} {now after : State} {output : Unit}
    (accepted : monitor.step .listed now = .ok (after, output)) :
    monitor.pollForDeposits now = .ok after := by
  have mapped : (monitor.pollForDeposits now).map (fun after => (after, ())) =
      .ok (after, output) := by
    simp only [Monitor.step] at accepted
    split at accepted
    · exact accepted
    · split at accepted
      · exact accepted
      · cases accepted
  cases polled : monitor.pollForDeposits now with
  | error reason =>
    rw [polled] at mapped
    cases mapped
  | ok next =>
    rw [polled] at mapped
    cases mapped
    rfl

theorem examined_ok {monitor : Monitor} {now after : State} {outcome : Outcome} {output : Unit}
    (accepted : monitor.step (.examined outcome) now = .ok (after, output)) :
    ∃ check amountBtc txid rest, now.check = some check ∧
      check.pending = (amountBtc, txid) :: rest ∧
      after = monitor.examine outcome check txid amountBtc
        { now with check := some { check with pending := rest } } := by
  simp only [Monitor.step] at accepted
  split at accepted
  · cases accepted
  · rename_i check checking
    split at accepted
    · cases accepted
    · rename_i amountBtc txid rest pending
      cases accepted
      exact ⟨check, amountBtc, txid, rest, checking, pending, rfl⟩

theorem step_kept {monitor : Monitor} {past : List (Entry State Move Unit)} {now after : State}
    {move : Move} {output : Unit} (kept : Kept monitor past now)
    (plain : monitor.Plain now move) (accepted : monitor.step move now = .ok (after, output)) :
    Kept monitor (past ++ [⟨now, move, output, after⟩]) after := by
  cases move with
  | arrived tx =>
    simp only [Monitor.step] at accepted
    split at accepted
    · cases accepted
    · rename_i fresh
      cases accepted
      apply (kept.arrived fresh).extend
      rintro address txid ⟨outcome, check, amountBtc, rest, input, -⟩
      cases input
  | confirmed txid confirmations =>
    cases accepted
    apply (kept.confirmed _).extend
    rintro address txid ⟨outcome, check, amountBtc, rest, input, -⟩
    cases input
  | listed =>
    obtain ⟨tracked, rest, watched, later, rfl⟩ :=
      pollForDeposits_ok (listed_ok accepted) kept.round
    apply (kept.check later (checkAddress_of monitor now watched)).extend
    rintro address txid ⟨outcome, check, amountBtc, rest, input, -⟩
    cases input
  | examined outcome =>
    obtain ⟨check, amountBtc, txid, rest, checking, pending, rfl⟩ := examined_ok accepted
    have known := kept.checking check checking
    have first := known.pending (amountBtc, txid) (pending ▸ List.mem_cons_self)
    have popped : Kept monitor past
        { now with check := some { check with pending := rest } } := by
      apply kept.check kept.round
      exact ⟨known.watched, known.counted,
        fun item member => known.pending item (pending ▸ List.mem_cons_of_mem _ member)⟩
    have atHead : monitor.PlainAt outcome check txid now := by
      simp only [Monitor.Plain, checking, pending, List.head?_cons] at plain
      exact plain (amountBtc, txid) rfl
    have examined := popped.examine known first.2 first.1 atHead
    apply examined.1.extend
    rintro address other ⟨call, current, amount, others, -, also, rfl, head, deep⟩
    have same : current = check := Option.some.inj (also.symm.trans checking)
    subst same
    rw [pending] at head
    cases head
    exact examined.2 deep

theorem Kept.told {monitor : Monitor} {past : List (Entry State Move Unit)} {state : State}
    (kept : Kept monitor past state) (address : String) : state.Told address := by
  have distinct : (state.deposits address).Nodup := by
    apply List.Nodup.of_map Prod.fst
    unfold State.deposits
    rw [List.map_map]
    exact (List.filter_sublist.map Tx.txid).nodup kept.distinct
  refine ⟨kept.credits address, ?_, ?_⟩
  · rw [← amounts_deposits]
    exact (kept.credits address).sum_le
  · intro whole
    rw [← amounts_deposits]
    exact (kept.credits address).sum_eq distinct whole

/-- A check comes to every deposit on its address that is deep enough when it begins. -/
theorem listed_comes_to {monitor : Monitor} {now after : State} {output : Unit}
    (accepted : monitor.step .listed now = .ok (after, output)) :
    ∃ check, after.check = some check ∧
      ∀ tx ∈ now.chain.transactions, tx.pays check.btcAddress = true →
        monitor.requiredConfirmations ≤ now.chain.confirmations tx.txid →
        tx.txid ∈ check.pending.map Prod.snd := by
  have polled := listed_ok accepted
  unfold Monitor.pollForDeposits at polled
  split at polled
  · cases polled
  · rename_i btcAddress recipient rest _
    cases polled
    refine ⟨_, rfl, ?_⟩
    intro tx listed paying deep
    have counted := mem_counted.mpr ⟨listed, paying, deep⟩
    exact List.mem_map.mpr ⟨_,
      (mem_pending_iff monitor btcAddress recipient now (_, tx.txid)).mpr
        ⟨rfl, tx, counted, rfl⟩, rfl⟩

/-- In every run whose checks are plain, whatever a check comes to is attested, a check comes
to every deposit that is deep enough, and all attestations are exact. -/
theorem deposits_attested (monitor : Monitor) (moves : List Move)
    (meets : Meets monitor.Plain (monitor.history moves).past) :
    (∀ entry ∈ (monitor.history moves).past, ∀ address txid,
        monitor.ComesTo entry address txid →
        txid ∈ ((monitor.history moves).now.attestedTo address).map Prod.fst) ∧
      (∀ entry ∈ (monitor.history moves).past, entry.input = .listed →
        ∃ check, entry.after.check = some check ∧
          ∀ tx ∈ entry.before.chain.transactions, tx.pays check.btcAddress = true →
            monitor.requiredConfirmations ≤ entry.before.chain.confirmations tx.txid →
            tx.txid ∈ check.pending.map Prod.snd) ∧
      ∀ address, (monitor.history moves).now.Told address := by
  have kept := run_of_meets monitor.step .initial (Kept monitor) monitor.Plain
    (Kept.start monitor)
    (fun _ _ _ _ _ held plain accepted => step_kept held plain accepted) moves meets
  refine ⟨?_, ?_, kept.told⟩
  · intro entry member address txid came
    obtain ⟨attestation, attested, mine, same⟩ := kept.reached entry member address txid came
    rw [List.mem_map]
    refine ⟨(attestation.txid, attestation.amountWei), ?_, same⟩
    exact List.mem_map.mpr
      ⟨attestation, List.mem_filter.mpr ⟨attested, decide_eq_true mine⟩, rfl⟩
  · intro entry member listing
    have accepted := run_accepted monitor.step .initial moves entry member
    rw [listing] at accepted
    exact listed_comes_to accepted

/-- Six confirmations, and two tracked addresses. -/
def monitorOfTwo : Monitor where
  requiredConfirmations := 6
  trackedAddresses := [("bc1q", "0x01"), ("bc1r", "0x02")]
  distinct := by decide

/-- One deposit on each address. -/
def depositOnEach : List Move :=
  [.arrived ⟨"a1", [("bc1q", 100000), ("bc1z", 7000)]⟩, .confirmed "a1" 6,
    .arrived ⟨"b2", [("bc1r", 50000)]⟩, .confirmed "b2" 9,
    .listed, .examined .confirmed, .listed, .examined .confirmed]

theorem deposits_attested_each :
    (monitorOfTwo.history depositOnEach).now.Told "bc1q" ∧
      (monitorOfTwo.history depositOnEach).now.attestedTo "bc1q" = [("a1", 1000000000000000)] := by
  refine ⟨(deposits_attested monitorOfTwo depositOnEach ?_).2.2 "bc1q", by decide +kernel⟩
  decide +kernel

/-- Two deposits on one address. -/
def depositsOnOne : List Move :=
  [.arrived ⟨"a1", [("bc1q", 100000)]⟩, .confirmed "a1" 6,
    .arrived ⟨"b2", [("bc1q", 50000)]⟩, .confirmed "b2" 6,
    .listed, .examined .confirmed, .examined .confirmed]

/-- One transaction that pays both addresses. -/
def depositOnBoth : List Move :=
  [.arrived ⟨"c3", [("bc1q", 100000), ("bc1r", 50000)]⟩, .confirmed "c3" 6,
    .listed, .examined .confirmed, .listed, .examined .confirmed]

/-- The call of the bridge fails in the first round; the second round skips the deposit. -/
def attestationFails : List Move :=
  [.arrived ⟨"a1", [("bc1q", 100000)]⟩, .confirmed "a1" 6,
    .listed, .examined (.raised false), .listed, .listed, .examined .confirmed]

/-- The address is attested twice what it received; the second address of a transaction gets
no attestation; and neither does a deposit whose attestation failed once. -/
theorem deposits_attested_twofold :
    (¬ amounts ((monitorOfTwo.history depositsOnOne).now.attestedTo "bc1q") ≤
        (monitorOfTwo.history depositsOnOne).now.received "bc1q") ∧
      "c3" ∉ ((monitorOfTwo.history depositOnBoth).now.attestedTo "bc1r").map Prod.fst ∧
      "a1" ∉ ((monitorOfTwo.history attestationFails).now.attestedTo "bc1q").map Prod.fst := by
  decide +kernel

end BigX.Custody
