import BigX.Bridge.Releases
import BigX.Custody.Attested
import BigX.Json.Scan

set_option autoImplicit false

/- From the Bitcoin deposit to the tokens that are released for it: the relayers' monitors, the
calls they have sent, and the bridge, with anybody else's transactions in between. -/
namespace BigX.Custody.Bridged

open Evm Run

/-- `bytes.fromhex`: blanks may stand between the bytes. -/
def fromHex : List Char → Option (List Nat)
  | [] => some []
  | [last] => if last.toNat ∈ [9, 10, 11, 12, 13, 32] then some [] else none
  | first :: second :: rest =>
      if first.toNat ∈ [9, 10, 11, 12, 13, 32] then fromHex (second :: rest)
      else do
        let high ← Json.hexValue first
        let low ← Json.hexValue second
        let bytes ← fromHex rest
        return (high * 16 + low) :: bytes

/-- A txid as a `bytes32` argument; building the call raises for another number of bytes. -/
def btcTxHash (txid : String) : Option Bytes32 := do
  let bytes ← fromHex txid.toList
  if bytes.length = 32 then
    return BitVec.ofNat 256 (bytes.foldl (fun word byte => word * 256 + byte) 0)
  else none

/-- What `_attest_peg_in` is called with in a step of the monitor. -/
def called (monitor : Monitor) (move : Custody.Move) (state : Custody.State) :
    Option Attestation :=
  match move, state.check with
  | .examined _, some check =>
      match check.pending with
      | [] => none
      | (amountBtc, txid) :: _ =>
          if txid ∈ state.seenTxids then none
          else if state.chain.confirmations txid < monitor.requiredConfirmations then none
          else some ⟨check.btcAddress, txid, check.recipient, amountWei amountBtc⟩
  | _, _ => none

/-- `BridgeClient.confirm_peg_in` up to the sending. -/
def confirmPegIn (account : String → Address) (attestation : Attestation) : Option Bridge.Call := do
  let btcTxHash ← btcTxHash attestation.txid
  if attestation.amountWei < 2 ^ 256 then
    return .confirmPegIn btcTxHash (account attestation.recipient)
      (BitVec.ofNat 256 attestation.amountWei)
  else none

/-- A call that a relayer's client has signed and sent. -/
structure Sent (bridge : Address) where
  relayer : Address
  call : Bridge.Call
  outside : relayer ≠ bridge

def Sent.mined {bridge : Address} (sent : Sent bridge) (timestamp : Uint256) :
    Bridge.Transaction bridge :=
  ⟨⟨sent.relayer, timestamp⟩, sent.call, sent.outside⟩

/-- The relayers poll for the same addresses. `account` is what an address string names; an
honest relayer's key confirms peg-ins only through its monitor. -/
structure Deployment where
  monitor : Monitor
  account : String → Address
  honest : Address → Bool

/-- Every transaction there is, what each relayer's node and monitor know of it, the calls in
flight, and the bridge with its history. A call stays in flight after it is mined: the bridge
has to refuse it then. -/
structure System (token : Erc20) (bridge : Address) where
  bitcoin : List Tx
  nodes : Address → Custody.State
  sent : List (Sent bridge)
  evm : Trace (Bridge.State token) (Bridge.Transaction bridge) (List Bridge.Event)

variable {token : Erc20} {bridge : Address}

inductive Move (bridge : Address)
  | paid (tx : Tx)
  | polled (relayer : Address) (outside : relayer ≠ bridge) (move : Custody.Move)
  | mined (index : Nat) (timestamp : Uint256)
  | submitted (transaction : Bridge.Transaction bridge)

/-- A node knows only transactions there are. -/
def Heard (bitcoin : List Tx) : Custody.Move → Prop
  | .arrived tx => tx ∈ bitcoin
  | _ => True

instance (bitcoin : List Tx) (move : Custody.Move) : Decidable (Heard bitcoin move) :=
  match move with
  | .arrived tx => inferInstanceAs (Decidable (tx ∈ bitcoin))
  | .confirmed _ _ => isTrue trivial
  | .listed => isTrue trivial
  | .examined _ => isTrue trivial

/-- The call confirms a peg-in. -/
def isVote : Bridge.Call → Bool
  | .confirmPegIn _ _ _ => true
  | _ => false

def System.transact (system : System token bridge) (transaction : Bridge.Transaction bridge) :
    System token bridge :=
  { system with evm := system.evm.extend (Bridge.transact bridge) transaction }

def step (deployment : Deployment) (move : Move bridge) (system : System token bridge) :
    Except String (System token bridge × Unit) :=
  match move with
  | .paid tx =>
      if tx.txid ∈ system.bitcoin.map Tx.txid then .error "known"
      else .ok ({ system with bitcoin := system.bitcoin ++ [tx] }, ())
  | .polled relayer outside move =>
      if Heard system.bitcoin move then do
        let (after, _) ← deployment.monitor.step move (system.nodes relayer)
        let call := (called deployment.monitor move (system.nodes relayer)).bind
          (confirmPegIn deployment.account)
        .ok ({ system with
          nodes := Function.update system.nodes relayer after
          sent := system.sent ++ (call.map fun call => ⟨relayer, call, outside⟩).toList }, ())
      else .error "no such transaction"
  | .mined index timestamp =>
      match system.sent[index]? with
      | none => .error "not sent"
      | some sent => .ok (system.transact (sent.mined timestamp), ())
  | .submitted transaction =>
      if deployment.honest transaction.message.sender && isVote transaction.call then
        .error "an honest relayer leaves it to its monitor"
      else .ok (system.transact transaction, ())

def System.initial (start : Bridge.State token) : System token bridge :=
  ⟨[], fun _ => .initial, [], ⟨[], start⟩⟩

abbrev history (deployment : Deployment) (start : Bridge.State token) (moves : List (Move bridge)) :
    Trace (System token bridge) (Move bridge) Unit :=
  run (step deployment) (System.initial start) moves

/-- A tracked address is paid once. -/
def Fresh (deployment : Deployment) (system : System token bridge) : Move bridge → Prop
  | .paid tx => ∀ tracked ∈ deployment.monitor.trackedAddresses, tx.pays tracked.1 = true →
      ∀ earlier ∈ system.bitcoin, earlier.pays tracked.1 = false
  | _ => True

instance (deployment : Deployment) (system : System token bridge) (move : Move bridge) :
    Decidable (Fresh deployment system move) :=
  match move with
  | .paid _ => inferInstanceAs (Decidable (∀ _ ∈ _, _ → ∀ _ ∈ _, _))
  | .polled _ _ _ => isTrue trivial
  | .mined _ _ => isTrue trivial
  | .submitted _ => isTrue trivial

/-- The statement is a deposit: what one transaction pays a tracked address, to the account the
address is tracked for. -/
def Backed (deployment : Deployment) (bitcoin : List Tx) (hash : Bytes32)
    (said : Address × Uint256) : Prop :=
  ∃ tx ∈ bitcoin, ∃ tracked ∈ deployment.monitor.trackedAddresses, tx.pays tracked.1 = true ∧
    btcTxHash tx.txid = some hash ∧ said.1 = deployment.account tracked.2 ∧
    said.2.toNat = tx.paid tracked.1 * weiPerSatoshi

/-- Somebody else than an honest relayer has said what the release pays. -/
def forged (deployment : Deployment) (past : List (Bridge.Entry token bridge))
    (release : Bridge.Release) : Bool :=
  past.any fun entry => !deployment.honest entry.input.message.sender &&
    decide (entry.input.call.told release.btcTxHash = some (release.recipient, release.amount))

/-- The releases that nobody has forged, each with what it pays. -/
def genuine (deployment : Deployment) (past : List (Bridge.Entry token bridge)) :
    List (Bytes32 × Nat) :=
  ((Bridge.releases past).filter fun release => !forged deployment past release).map fun release =>
    (release.btcTxHash, release.amount.toNat)

/-- What the transactions pay the tracked addresses, in wei. -/
def received (deployment : Deployment) (bitcoin : List Tx) : Nat :=
  (bitcoin.map fun tx => (deployment.monitor.trackedAddresses.map fun tracked =>
    tx.paid tracked.1 * weiPerSatoshi).sum).sum

/-- What a monitor works with is what its node knows, and that is what there is. -/
structure Node (monitor : Monitor) (bitcoin : List Tx) (state : Custody.State) : Prop where
  known : state.chain.transactions ⊆ bitcoin
  distinct : (state.chain.transactions.map Tx.txid).Nodup
  round : state.round ⊆ monitor.trackedAddresses
  checking : ∀ check, state.check = some check → check.Of monitor state.chain

theorem examine_frame (monitor : Monitor) (outcome : Outcome) (check : Check) (txid : String)
    (amountBtc : Rat) (state : Custody.State) :
    (monitor.examine outcome check txid amountBtc state).chain = state.chain ∧
      (monitor.examine outcome check txid amountBtc state).round = state.round ∧
      (monitor.examine outcome check txid amountBtc state).check = state.check := by
  unfold Monitor.examine State.attestPegIn
  split_ifs <;> exact ⟨rfl, rfl, rfl⟩

namespace Node

variable {monitor : Monitor} {bitcoin : List Tx} {now after : Custody.State}

theorem initial (monitor : Monitor) (bitcoin : List Tx) :
    Node monitor bitcoin Custody.State.initial := by
  refine ⟨List.nil_subset _, List.nodup_nil, List.nil_subset _, ?_⟩
  intro check checking
  cases checking

theorem mono {later : List Tx} (node : Node monitor bitcoin now) (grown : bitcoin ⊆ later) :
    Node monitor later now :=
  ⟨List.Subset.trans node.known grown, node.distinct, node.round, node.checking⟩

/-- The monitor's own steps leave the chain alone. -/
theorem congr (node : Node monitor bitcoin now) (chain : after.chain = now.chain)
    (round : after.round ⊆ monitor.trackedAddresses)
    (checking : ∀ check, after.check = some check → check.Of monitor now.chain) :
    Node monitor bitcoin after := by
  refine ⟨?_, ?_, round, ?_⟩
  · rw [chain]
    exact node.known
  · rw [chain]
    exact node.distinct
  · rw [chain]
    exact checking

theorem step (node : Node monitor bitcoin now) {move : Custody.Move} {output : Unit}
    (heard : Heard bitcoin move) (accepted : monitor.step move now = .ok (after, output)) :
    Node monitor bitcoin after := by
  cases move with
  | arrived tx =>
    simp only [Monitor.step] at accepted
    split at accepted
    · cases accepted
    · rename_i fresh
      cases accepted
      refine ⟨?_, ?_, node.round, ?_⟩
      · apply List.append_subset.mpr
        exact ⟨node.known, List.cons_subset.mpr ⟨heard, List.nil_subset _⟩⟩
      · rw [List.map_append, List.map_singleton, ← List.concat_eq_append]
        exact node.distinct.concat fresh
      · intro check checking
        have before := node.checking check checking
        exact ⟨before.watched, before.counted.trans (List.sublist_append_left _ _),
          before.pending⟩
  | confirmed txid confirmations =>
    cases accepted
    refine ⟨node.known, node.distinct, node.round, ?_⟩
    intro check checking
    have before := node.checking check checking
    exact ⟨before.watched, before.counted, before.pending⟩
  | listed =>
    obtain ⟨tracked, rest, watched, later, rfl⟩ :=
      pollForDeposits_ok (listed_ok accepted) node.round
    refine node.congr rfl later ?_
    intro check checking
    cases checking
    exact checkAddress_of monitor now watched
  | examined outcome =>
    obtain ⟨check, amountBtc, txid, rest, checking, pending, rfl⟩ := examined_ok accepted
    have before := node.checking check checking
    have popped : ({ check with pending := rest } : Check).Of monitor now.chain :=
      ⟨before.watched, before.counted,
        fun item member => before.pending item (pending ▸ List.mem_cons_of_mem _ member)⟩
    have frame := examine_frame monitor outcome check txid amountBtc
      { now with check := some { check with pending := rest } }
    refine node.congr frame.1 ?_ ?_
    · rw [frame.2.1]
      exact node.round
    · intro current found
      rw [frame.2.2] at found
      cases found
      exact popped

end Node

/-- No two transactions pay one tracked address. -/
def SingleUse (deployment : Deployment) (bitcoin : List Tx) : Prop :=
  ∀ tracked ∈ deployment.monitor.trackedAddresses, ∀ tx ∈ bitcoin, ∀ other ∈ bitcoin,
    tx.pays tracked.1 = true → other.pays tracked.1 = true → tx = other

theorem SingleUse.paid {deployment : Deployment} {system : System token bridge} {tx : Tx}
    (sole : SingleUse deployment system.bitcoin)
    (fresh : Fresh deployment system (.paid tx)) :
    SingleUse deployment (system.bitcoin ++ [tx]) := by
  intro tracked watched first firstMember second secondMember firstPays secondPays
  rcases List.mem_append.mp firstMember with firstOld | firstNew <;>
    rcases List.mem_append.mp secondMember with secondOld | secondNew
  · exact sole tracked watched first firstOld second secondOld firstPays secondPays
  · rw [List.mem_singleton.mp secondNew] at secondPays
    have unpaid := fresh tracked watched secondPays first firstOld
    rw [unpaid] at firstPays
    cases firstPays
  · rw [List.mem_singleton.mp firstNew] at firstPays
    have unpaid := fresh tracked watched firstPays second secondOld
    rw [unpaid] at secondPays
    cases secondPays
  · rw [List.mem_singleton.mp firstNew, List.mem_singleton.mp secondNew]

theorem Backed.mono {deployment : Deployment} {bitcoin later : List Tx} {hash : Bytes32}
    {said : Address × Uint256} (backed : Backed deployment bitcoin hash said)
    (grown : bitcoin ⊆ later) : Backed deployment later hash said := by
  obtain ⟨tx, member, rest⟩ := backed
  exact ⟨tx, grown member, rest⟩

theorem called_of {monitor : Monitor} {move : Custody.Move} {state : Custody.State}
    {attestation : Attestation} (calls : called monitor move state = some attestation) :
    ∃ check amountBtc rest, state.check = some check ∧
      check.pending = (amountBtc, attestation.txid) :: rest ∧
      attestation.btcAddress = check.btcAddress ∧ attestation.recipient = check.recipient ∧
      attestation.amountWei = amountWei amountBtc := by
  unfold called at calls
  split at calls
  · rename_i outcome check checking
    split at calls
    · cases calls
    · rename_i amountBtc txid rest pending
      split_ifs at calls
      cases calls
      exact ⟨check, amountBtc, rest, checking, pending, rfl, rfl, rfl⟩
  · cases calls

/-- The amount is the whole of the address's only deposit. -/
theorem Node.called_backed {deployment : Deployment} {bitcoin : List Tx} {state : Custody.State}
    (node : Node deployment.monitor bitcoin state) (sole : SingleUse deployment bitcoin)
    {move : Custody.Move} {attestation : Attestation} {call : Bridge.Call}
    (calls : called deployment.monitor move state = some attestation)
    (built : confirmPegIn deployment.account attestation = some call) :
    ∃ hash recipient amount, call = .confirmPegIn hash recipient amount ∧
      Backed deployment bitcoin hash (recipient, amount) := by
  obtain ⟨check, amountBtc, rest, checking, pending, address, recipient, wei⟩ := called_of calls
  have known := node.checking check checking
  obtain ⟨cumulative, tx, counted, same, pays⟩ :=
    known.pending (amountBtc, attestation.txid) (pending ▸ List.mem_cons_self)
  have listed := known.counted.subset counted
  have whole : (check.counted.map fun other => other.paid check.btcAddress).sum =
      tx.paid check.btcAddress := by
    apply sum_sole ((known.counted.map Tx.txid).nodup node.distinct) counted same
    intro other member different
    cases paying : other.pays check.btcAddress with
    | false => exact paid_of_not_pays paying
    | true =>
      have equal := sole _ known.watched other (node.known (known.counted.subset member)) tx
        (node.known listed) paying pays
      rw [equal] at different
      exact absurd same different
  have exact : attestation.amountWei = tx.paid check.btcAddress * weiPerSatoshi := by
    rw [wei, show amountBtc = _ from cumulative, whole]
    exact amountWei_satoshis (tx.paid check.btcAddress)
  unfold confirmPegIn at built
  rw [Option.bind_eq_bind, Option.bind_eq_some_iff] at built
  obtain ⟨hash, named, rest⟩ := built
  split_ifs at rest with bound
  cases rest
  refine ⟨hash, _, _, rfl, tx, node.known listed, _, known.watched, pays, ?_, ?_, ?_⟩
  · rw [same]
    exact named
  · rw [recipient]
  · rw [BitVec.toNat_ofNat, Nat.mod_eq_of_lt bound]
    exact exact

theorem described_mem (said : List (Address × Uint256)) (spoken : said ≠ []) :
    Bridge.described said ∈ said := by
  induction said with
  | nil => exact absurd rfl spoken
  | cons first rest ih =>
    unfold Bridge.described
    split_ifs with skipped
    · exact List.mem_cons_of_mem _ (ih skipped.2)
    · exact List.mem_cons_self

/-- The books of the bridge, with what is known of the votes. -/
structure Votes (deployment : Deployment) (bitcoin : List Tx)
    (past : List (Bridge.Entry token bridge)) (now : Bridge.State token) : Prop where
  told : Bridge.Told past now
  spoken : ∀ release ∈ Bridge.releases past, Bridge.statements past release.btcTxHash ≠ []
  backed : ∀ entry ∈ past, deployment.honest entry.input.message.sender = true →
    ∀ hash said, entry.input.call.told hash = some said → Backed deployment bitcoin hash said

theorem Votes.mono {deployment : Deployment} {bitcoin later : List Tx}
    {past : List (Bridge.Entry token bridge)} {now : Bridge.State token}
    (kept : Votes deployment bitcoin past now) (grown : bitcoin ⊆ later) :
    Votes deployment later past now := by
  refine ⟨kept.told, kept.spoken, ?_⟩
  intro entry member honest hash said told
  exact (kept.backed entry member honest hash said told).mono grown

theorem Votes.snoc {deployment : Deployment} {bitcoin : List Tx}
    {past : List (Bridge.Entry token bridge)} (entry : Bridge.Entry token bridge)
    (kept : Votes deployment bitcoin past entry.before)
    (step : Bridge.Step bridge entry.input.message entry.before entry.after entry.output
      entry.input.call)
    (exact : deployment.honest entry.input.message.sender = true →
      ∀ hash said, entry.input.call.told hash = some said →
        Backed deployment bitcoin hash said) :
    Votes deployment bitcoin (past ++ [entry]) entry.after := by
  refine ⟨kept.told.step entry step, ?_, ?_⟩
  · intro release member
    rw [Bridge.releases_snoc] at member
    rw [Bridge.statements_snoc]
    rcases List.mem_append.mp member with earlier | last
    · intro empty
      exact kept.spoken release earlier (List.append_eq_nil_iff.mp empty).1
    · rcases step.vote_cases with ⟨hash, _, _, _, executed, _, called, vote⟩ | ⟨frame, _⟩
      · rw [vote.events_eq] at last
        cases executed with
        | false => cases last
        | true =>
          rw [List.mem_singleton.mp last, called]
          simp [Bridge.Call.told]
      · rw [frame.releases] at last
        cases last
  · intro other member honest
    rcases List.mem_append.mp member with earlier | last
    · exact kept.backed other earlier honest
    · rw [List.mem_singleton.mp last] at honest ⊢
      exact exact honest

/-- A transaction keeps the books when what it says, if it is an honest vote, is a deposit. -/
theorem Votes.transact {deployment : Deployment} {bitcoin : List Tx}
    {trace : Trace (Bridge.State token) (Bridge.Transaction bridge) (List Bridge.Event)}
    (kept : Votes deployment bitcoin trace.past trace.now)
    (transaction : Bridge.Transaction bridge)
    (exact : deployment.honest transaction.message.sender = true →
      ∀ hash said, transaction.call.told hash = some said →
        Backed deployment bitcoin hash said) :
    Votes deployment bitcoin (trace.extend (Bridge.transact bridge) transaction).past
      (trace.extend (Bridge.transact bridge) transaction).now := by
  cases attempt : Bridge.transact bridge transaction trace.now with
  | error reason =>
    rw [extend_error _ _ _ reason attempt]
    exact kept
  | ok result =>
    rw [extend_ok _ _ _ result.1 result.2 attempt]
    exact Votes.snoc ⟨trace.now, transaction, result.2, result.1⟩ kept
      (Bridge.transact_step bridge transaction trace.now result.1 result.2 attempt) exact

/-- The invariant: whatever the honest relayers have sent is a deposit. -/
structure Kept (deployment : Deployment) (system : System token bridge) : Prop where
  sole : SingleUse deployment system.bitcoin
  nodes : ∀ relayer, Node deployment.monitor system.bitcoin (system.nodes relayer)
  sent : ∀ sent ∈ system.sent, ∃ hash recipient amount,
    sent.call = .confirmPegIn hash recipient amount ∧
      Backed deployment system.bitcoin hash (recipient, amount)
  votes : Votes deployment system.bitcoin system.evm.past system.evm.now

theorem told_of_vote {hash other : Bytes32} {recipient : Address} {amount : Uint256}
    {said : Address × Uint256}
    (told : (Bridge.Call.confirmPegIn hash recipient amount).told other = some said) :
    hash = other ∧ (recipient, amount) = said := by
  simp only [Bridge.Call.told] at told
  split_ifs at told with same
  exact ⟨same, Option.some.inj told⟩

theorem Kept.start (deployment : Deployment) {start : Bridge.State token}
    (told : Bridge.Told ([] : List (Bridge.Entry token bridge)) start) :
    Kept deployment (System.initial start : System token bridge) := by
  refine ⟨?_, fun _ => Node.initial _ _, ?_, told, ?_, ?_⟩
  · intro tracked _ tx member
    cases member
  · intro sent member
    cases member
  · intro release member
    cases member
  · intro entry member
    cases member

theorem Kept.paid {deployment : Deployment} {system : System token bridge} {tx : Tx}
    (kept : Kept deployment system) (fresh : Fresh deployment system (.paid tx)) :
    Kept deployment { system with bitcoin := system.bitcoin ++ [tx] } := by
  have grown : system.bitcoin ⊆ system.bitcoin ++ [tx] := List.subset_append_left _ _
  refine ⟨kept.sole.paid fresh, ?_, ?_, kept.votes.mono grown⟩
  · intro relayer
    exact (kept.nodes relayer).mono grown
  · intro sent member
    obtain ⟨hash, recipient, amount, called, backed⟩ := kept.sent sent member
    exact ⟨hash, recipient, amount, called, backed.mono grown⟩

theorem Kept.polled {deployment : Deployment} {system : System token bridge}
    (kept : Kept deployment system) {relayer : Address} (outside : relayer ≠ bridge)
    {move : Custody.Move} {after : Custody.State} {output : Unit}
    (heard : Heard system.bitcoin move)
    (accepted : deployment.monitor.step move (system.nodes relayer) = .ok (after, output)) :
    Kept deployment { system with
      nodes := Function.update system.nodes relayer after
      sent := system.sent ++ (((called deployment.monitor move (system.nodes relayer)).bind
        (confirmPegIn deployment.account)).map fun call => ⟨relayer, call, outside⟩).toList } := by
  refine ⟨kept.sole, ?_, ?_, kept.votes⟩
  · intro other
    by_cases same : other = relayer
    · rw [same]
      simp only [Function.update_self]
      exact (kept.nodes relayer).step heard accepted
    · simp only [Function.update_of_ne same]
      exact kept.nodes other
  · intro sent member
    rcases List.mem_append.mp member with earlier | last
    · exact kept.sent sent earlier
    · rw [Option.mem_toList, Option.map_eq_some_iff] at last
      obtain ⟨call, built, rfl⟩ := last
      obtain ⟨attestation, calls, built⟩ := Option.bind_eq_some_iff.mp built
      exact (kept.nodes relayer).called_backed kept.sole calls built

theorem Kept.transact {deployment : Deployment} {system : System token bridge}
    (kept : Kept deployment system) (transaction : Bridge.Transaction bridge)
    (exact : deployment.honest transaction.message.sender = true →
      ∀ hash said, transaction.call.told hash = some said →
        Backed deployment system.bitcoin hash said) :
    Kept deployment (system.transact transaction) :=
  ⟨kept.sole, kept.nodes, kept.sent, kept.votes.transact transaction exact⟩

theorem step_kept {deployment : Deployment} {now after : System token bridge} {move : Move bridge}
    {output : Unit} (kept : Kept deployment now) (fresh : Fresh deployment now move)
    (accepted : step deployment move now = .ok (after, output)) : Kept deployment after := by
  cases move with
  | paid tx =>
    simp only [step] at accepted
    split at accepted
    · cases accepted
    · cases accepted
      exact kept.paid fresh
  | polled relayer outside move =>
    simp only [step] at accepted
    split at accepted
    · rename_i heard
      cases polled : deployment.monitor.step move (now.nodes relayer) with
      | error reason =>
        rw [polled] at accepted
        cases accepted
      | ok result =>
        rw [polled] at accepted
        cases accepted
        exact kept.polled outside heard polled
    · cases accepted
  | mined index timestamp =>
    simp only [step] at accepted
    split at accepted
    · cases accepted
    · rename_i sent found
      cases accepted
      apply kept.transact
      intro _ hash said told
      obtain ⟨voted, recipient, amount, called, backed⟩ :=
        kept.sent sent (List.mem_of_getElem? found)
      rw [Sent.mined, called] at told
      obtain ⟨rfl, rfl⟩ := told_of_vote told
      exact backed
  | submitted transaction =>
    simp only [step] at accepted
    split at accepted
    · cases accepted
    · rename_i allowed
      cases accepted
      apply kept.transact
      intro honest hash said told
      rw [honest, Bool.true_and] at allowed
      cases called : transaction.call with
      | confirmPegIn _ _ _ =>
        rw [called] at allowed
        exact absurd rfl allowed
      | _ =>
        rw [called] at told
        cases told

/-- A release that nobody has forged pays a deposit: the statement it follows is an honest
relayer's. -/
theorem Votes.genuine_backed {deployment : Deployment} {bitcoin : List Tx}
    {past : List (Bridge.Entry token bridge)} {now : Bridge.State token}
    (kept : Votes deployment bitcoin past now) {release : Bridge.Release}
    (released : release ∈ Bridge.releases past)
    (unforged : forged deployment past release = false) :
    Backed deployment bitcoin release.btcTxHash (release.recipient, release.amount) := by
  have stated := described_mem _ (kept.spoken release released)
  rw [← kept.told.asDescribed release released] at stated
  obtain ⟨entry, member, told⟩ := List.mem_filterMap.mp stated
  apply kept.backed entry member _ _ _ told
  have silent := List.any_eq_false.mp unforged entry member
  rw [told, decide_eq_true rfl, Bool.and_true, Bool.not_eq_true, Bool.not_eq_false'] at silent
  exact silent

/-- What each transaction pays each tracked address, under the transaction's hash. -/
def deposits (deployment : Deployment) (bitcoin : List Tx) : List (Option Bytes32 × Nat) :=
  bitcoin.flatMap fun tx => deployment.monitor.trackedAddresses.map fun tracked =>
    (btcTxHash tx.txid, tx.paid tracked.1 * weiPerSatoshi)

theorem amounts_deposits_eq (deployment : Deployment) (bitcoin : List Tx) :
    amounts (deposits deployment bitcoin) = received deployment bitcoin := by
  unfold amounts deposits received
  induction bitcoin with
  | nil => rfl
  | cons tx rest ih =>
    rw [List.flatMap_cons, List.map_append, List.sum_append, ih, List.map_map, List.map_cons,
      List.sum_cons]
    rfl

theorem Votes.genuine_credits {deployment : Deployment} {bitcoin : List Tx}
    {past : List (Bridge.Entry token bridge)} {now : Bridge.State token}
    (kept : Votes deployment bitcoin past now) :
    Credits (deposits deployment bitcoin)
      ((genuine deployment past).map fun credit => (some credit.1, credit.2)) := by
  have once : ((Bridge.releases past).filter fun release =>
      !forged deployment past release).map Bridge.Release.btcTxHash |>.Nodup :=
    (List.filter_sublist.map Bridge.Release.btcTxHash).nodup kept.told.paidOnce
  constructor
  · intro credit member
    obtain ⟨release, chosen, rfl⟩ := List.mem_map.mp (List.map_map ▸ member)
    obtain ⟨released, notForged⟩ := List.mem_filter.mp chosen
    have unforged : forged deployment past release = false := by simpa using notForged
    obtain ⟨tx, listed, tracked, watched, -, hash, -, amount⟩ :=
      kept.genuine_backed released unforged
    apply List.mem_flatMap.mpr
    refine ⟨tx, listed, List.mem_map.mpr ⟨tracked, watched, ?_⟩⟩
    rw [hash, ← amount]
    rfl
  · apply List.Nodup.of_map Prod.fst
    unfold genuine
    rw [List.map_map, List.map_map]
    have keys := once.map (Option.some_injective Bytes32)
    rw [List.map_map] at keys
    exact keys

/-- Whatever happens in between, a release that is not forged pays one Bitcoin transaction's
deposit on a tracked address, in full, to the account the address is tracked for; and all of
them together pay no more than the tracked addresses have received. -/
theorem releases_backed (deployment : Deployment) (bridge : Address) (message : Message)
    (wrappedBtc : token.Ledger) (admin : Address) (initialRelayers : List Address)
    (threshold : Uint256) (start : Bridge.State token) (events : List Bridge.Event)
    (deployed : Bridge.deploy message wrappedBtc admin initialRelayers threshold =
      .ok (start, events))
    (moves : List (Move bridge))
    (fresh : Meets (Fresh deployment) (history deployment start moves).past) :
    (∀ release ∈ Bridge.releases (history deployment start moves).now.evm.past,
        forged deployment (history deployment start moves).now.evm.past release = false →
        Backed deployment (history deployment start moves).now.bitcoin release.btcTxHash
          (release.recipient, release.amount)) ∧
      amounts (genuine deployment (history deployment start moves).now.evm.past) ≤
        received deployment (history deployment start moves).now.bitcoin := by
  have told : Bridge.Told ([] : List (Bridge.Entry token bridge)) start := Bridge.deployed_told
    (Bridge.deploy_ok message wrappedBtc admin initialRelayers threshold start events deployed)
  have kept := run_of_meets (step deployment) (System.initial start)
    (fun _ now => Kept deployment now) (Fresh deployment) (Kept.start deployment told)
    (fun _ _ _ _ _ held fresh accepted => step_kept held fresh accepted) moves fresh
  refine ⟨fun release released unforged => kept.votes.genuine_backed released unforged, ?_⟩
  rw [← amounts_deposits_eq]
  have credited := kept.votes.genuine_credits.sum_le
  unfold amounts at credited
  rw [List.map_map] at credited
  exact credited

/-- Two honest relayers, and one tracked address. -/
def sampleDeployment : Deployment where
  monitor :=
    { requiredConfirmations := 6
      trackedAddresses := [("bc1q", "0x0000000000000000000000000000000000000005")]
      distinct := by decide }
  account := fun text =>
    if text = "0x0000000000000000000000000000000000000005" then 5#160 else Address.zero
  honest := fun relayer => relayer == 2#160 || relayer == 3#160

def sampleTx : Tx :=
  ⟨"00000000000000000000000000000000000000000000000000000000000000a1", [("bc1q", 100000)]⟩

/-- A relayer's node hears of the deposit, and its monitor comes to it. -/
def sampleRound (relayer : Address) (outside : relayer ≠ 9#160) : List (Move 9#160) :=
  [.polled relayer outside (.arrived sampleTx),
    .polled relayer outside (.confirmed sampleTx.txid 6),
    .polled relayer outside .listed,
    .polled relayer outside (.examined (.raised false))]

theorem outside_1 : (1#160 : Address) ≠ 9#160 := by decide
theorem outside_2 : (2#160 : Address) ≠ 9#160 := by decide
theorem outside_3 : (3#160 : Address) ≠ 9#160 := by decide
theorem outside_4 : (4#160 : Address) ≠ 9#160 := by decide

/-- The first relayer's call comes to the bridge late, and twice; a third relayer's key is
not its monitor's alone. -/
def sampleMoves : List (Move 9#160) :=
  [.submitted ⟨⟨1#160, 0#256⟩, .wrappedBtc (.transfer 9#160 10000000000000000#256), outside_1⟩,
    .paid sampleTx] ++ sampleRound 2#160 outside_2 ++ sampleRound 3#160 outside_3 ++
  [.mined 1 5#256, .submitted ⟨⟨4#160, 6#256⟩, .confirmPegIn 7#256 6#160 8#256, outside_4⟩,
    .submitted ⟨⟨3#160, 6#256⟩, .confirmPegIn 7#256 6#160 8#256, outside_3⟩,
    .mined 0 7#256, .mined 0 8#256]

theorem releases_backed_late :
    ∃ (start : Bridge.State Bridge.MockWbtc.token) (events : List Bridge.Event),
      Bridge.deploy ⟨1#160, 0#256⟩ (Bridge.MockWbtc.create 1#160 (BitVec.ofNat 256 (10 ^ 17))) 1#160
        [2#160, 3#160, 4#160] 2#256 = .ok (start, events) ∧
      genuine sampleDeployment (history sampleDeployment start sampleMoves).now.evm.past =
        [(0xa1#256, 10 ^ 15)] ∧
      amounts (genuine sampleDeployment
          (history sampleDeployment start sampleMoves).now.evm.past) ≤
        received sampleDeployment (history sampleDeployment start sampleMoves).now.bitcoin := by
  have held := @releases_backed Bridge.MockWbtc.token sampleDeployment 9#160 ⟨1#160, 0#256⟩
    (Bridge.MockWbtc.create 1#160 (BitVec.ofNat 256 (10 ^ 17))) 1#160
    [2#160, 3#160, 4#160] 2#256 _ _ rfl sampleMoves (by decide +kernel)
  exact ⟨_, _, rfl, by decide +kernel, held.2⟩

end BigX.Custody.Bridged
