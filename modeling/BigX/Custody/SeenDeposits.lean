import BigX.Custody.Attested

set_option autoImplicit false

/- Which deposits the monitor takes for done. The attestation handles its own failure, and the
loop that called it adds the transaction to the seen ones in any case. -/
namespace BigX.Custody.SeenDeposits

open Run

/-- The monitor moves, or an RPC raises, which ends the polling, and it is started again. -/
inductive PollMove
  | made (move : Move)
  | interrupted

def step (monitor : Monitor) (move : PollMove) (state : State) : Except String (State × Unit) :=
  match move with
  | .made move => monitor.step move state
  | .interrupted => .ok ({ state with round := [], check := none }, ())

abbrev history (monitor : Monitor) (moves : List PollMove) : Trace State PollMove Unit :=
  run (step monitor) .initial moves

/-- The check comes to a deposit that is deep enough. -/
def ComesTo (monitor : Monitor) (state : State) (txid : String) : Prop :=
  (∃ check ∈ state.check, ∃ item ∈ check.pending.head?, item.2 = txid) ∧
    monitor.requiredConfirmations ≤ state.chain.confirmations txid

/-- `confirm_peg_in` is called for the deposit. -/
def Calls (monitor : Monitor) (state : State) (txid : String) : Prop :=
  ComesTo monitor state txid ∧ txid ∉ state.seenTxids

/-- A call for the deposit returned. -/
def Succeeded (monitor : Monitor) (past : List (Entry State PollMove Unit)) (txid : String) :
    Prop :=
  ∃ entry ∈ past, entry.input = .made (.examined .confirmed) ∧ Calls monitor entry.before txid

/-- Only deposits that were attested are seen, and for the others the call is made again. -/
def Retries (monitor : Monitor) (earlier : List (Entry State PollMove Unit))
    (entry : Entry State PollMove Unit) : Prop :=
  (∀ txid ∈ entry.after.seenTxids, Succeeded monitor (earlier ++ [entry]) txid) ∧
    ∀ txid, ComesTo monitor entry.after txid → ¬ Succeeded monitor (earlier ++ [entry]) txid →
      Calls monitor entry.after txid

/-- No call raises. -/
def NoneRaises (monitor : Monitor) (_ : List (Entry State PollMove Unit))
    (entry : Entry State PollMove Unit) : Prop :=
  match entry.input with
  | .made (.examined (.raised _)) => ∀ txid, ¬ Calls monitor entry.before txid
  | _ => True

/-- The seen deposits are those whose call returned. -/
def Kept (monitor : Monitor) (past : List (Entry State PollMove Unit)) (now : State) : Prop :=
  ∀ txid, txid ∈ now.seenTxids ↔ Succeeded monitor past txid

/-- What a step adds to the seen deposits: what it makes the call for. -/
inductive Sees (monitor : Monitor) (now after : State) : PollMove → Prop
  | called (outcome : Outcome) (txid : String) (calls : Calls monitor now txid)
      (only : ∀ other, Calls monitor now other → other = txid)
      (seen : after.seenTxids = txid :: now.seenTxids) :
      Sees monitor now after (.made (.examined outcome))
  | nothing (move : PollMove) (seen : after.seenTxids = now.seenTxids)
      (silent : ∀ outcome, move = .made (.examined outcome) → ∀ txid, ¬ Calls monitor now txid) :
      Sees monitor now after move

theorem pollForDeposits_seen {monitor : Monitor} {now after : State}
    (polled : monitor.pollForDeposits now = .ok after) : after.seenTxids = now.seenTxids := by
  unfold Monitor.pollForDeposits at polled
  split at polled
  · cases polled
  · cases polled
    rfl

theorem examine_sees (monitor : Monitor) (outcome : Outcome) {now : State} {check : Check}
    {txid : String} {amountBtc : Rat} {rest : List (Rat × String)}
    (checking : now.check = some check) (pending : check.pending = (amountBtc, txid) :: rest) :
    Sees monitor now (monitor.examine outcome check txid amountBtc
      { now with check := some { check with pending := rest } }) (.made (.examined outcome)) := by
  have only : ∀ other, Calls monitor now other → other = txid := by
    rintro other ⟨⟨⟨checked, isCheck, item, isItem, rfl⟩, _⟩, _⟩
    cases checking.symm.trans isCheck
    rw [pending] at isItem
    cases isItem
    rfl
  unfold Monitor.examine
  split
  · rename_i seen
    refine .nothing _ rfl ?_
    intro _ _ other calls
    exact calls.2 (only other calls ▸ seen)
  · rename_i unseen
    split
    · rename_i shallow
      refine .nothing _ rfl ?_
      intro _ _ other calls
      have deep := calls.1.2
      rw [only other calls] at deep
      exact absurd shallow (Int.not_lt.mpr deep)
    · rename_i deep
      refine .called outcome txid
        ⟨⟨⟨check, checking, (amountBtc, txid), ?_, rfl⟩, ?_⟩, unseen⟩ only ?_
      · rw [pending]
        rfl
      · exact Int.not_lt.mp deep
      · unfold State.attestPegIn
        split <;> rfl

theorem step_sees {monitor : Monitor} {now after : State} {move : PollMove} {output : Unit}
    (accepted : step monitor move now = .ok (after, output)) : Sees monitor now after move := by
  cases move with
  | interrupted =>
    cases accepted
    exact .nothing _ rfl (by simp)
  | made move =>
    cases move with
    | arrived tx =>
      simp only [step, Monitor.step] at accepted
      split at accepted
      · cases accepted
      · cases accepted
        exact .nothing _ rfl (by simp)
    | confirmed txid confirmations =>
      cases accepted
      exact .nothing _ rfl (by simp)
    | listed => exact .nothing _ (pollForDeposits_seen (listed_ok accepted)) (by simp)
    | examined outcome =>
      obtain ⟨check, amountBtc, txid, rest, checking, pending, rfl⟩ := examined_ok accepted
      exact examine_sees monitor outcome checking pending

theorem succeeded_snoc (monitor : Monitor) (past : List (Entry State PollMove Unit))
    (last : Entry State PollMove Unit) (txid : String) :
    Succeeded monitor (past ++ [last]) txid ↔ Succeeded monitor past txid ∨
      last.input = .made (.examined .confirmed) ∧ Calls monitor last.before txid := by
  simp only [Succeeded, List.mem_append, List.mem_singleton, or_and_right, exists_or,
    exists_eq_left]

/-- A deposit that is not seen is attempted, so another attempt needs no proof of its own. -/
theorem retries_iff (monitor : Monitor) (earlier : List (Entry State PollMove Unit))
    (entry : Entry State PollMove Unit) :
    Retries monitor earlier entry ↔
      ∀ txid ∈ entry.after.seenTxids, Succeeded monitor (earlier ++ [entry]) txid := by
  apply and_iff_left_of_imp
  intro attested txid comes failed
  exact ⟨comes, fun seen => failed (attested txid seen)⟩

/-- A step keeps the seen deposits to those that were attested exactly if its call returns. -/
theorem sees_kept_iff {monitor : Monitor} {past : List (Entry State PollMove Unit)}
    {now after : State} {move : PollMove} {output : Unit} (kept : Kept monitor past now)
    (sees : Sees monitor now after move) :
    (Retries monitor past ⟨now, move, output, after⟩ ↔
      NoneRaises monitor past ⟨now, move, output, after⟩) ∧
      (NoneRaises monitor past ⟨now, move, output, after⟩ →
        Kept monitor (past ++ [⟨now, move, output, after⟩]) after) := by
  rw [retries_iff]
  cases sees with
  | nothing _ seen silent =>
    have still : Kept monitor (past ++ [⟨now, move, output, after⟩]) after := by
      intro txid
      rw [succeeded_snoc, seen, kept txid]
      apply (or_iff_left _).symm
      rintro ⟨returned, calls⟩
      exact silent .confirmed returned txid calls
    refine ⟨iff_of_true (fun txid member => (still txid).mp member) ?_, fun _ => still⟩
    unfold NoneRaises
    dsimp only
    split
    · exact silent _ rfl
    · trivial
  | called outcome txid calls only seen =>
    cases outcome with
    | confirmed =>
      have next : Kept monitor (past ++ [⟨now, .made (.examined .confirmed), output, after⟩])
          after := by
        intro other
        rw [succeeded_snoc, seen, List.mem_cons, kept other, or_comm]
        apply or_congr_right
        constructor
        · rintro rfl
          exact ⟨rfl, calls⟩
        · rintro ⟨_, called⟩
          exact only other called
      exact ⟨iff_of_true (fun other member => (next other).mp member) trivial, fun _ => next⟩
    | raised recorded =>
      have fails : ¬ NoneRaises monitor past
          ⟨now, .made (.examined (.raised recorded)), output, after⟩ :=
        fun none_ => none_ txid calls
      refine ⟨iff_of_false ?_ fails, fun none_ => absurd none_ fails⟩
      intro attested
      rcases (succeeded_snoc monitor past _ txid).mp
        (attested txid (by rw [seen]; exact List.mem_cons_self)) with earlier | ⟨returned, _⟩
      · exact calls.2 ((kept txid).mpr earlier)
      · cases returned

/-- A deposit is seen only if it was attested, and attempted again until then, exactly if no call
of `confirm_peg_in` raises. -/
theorem failed_retried_iff (monitor : Monitor) (moves : List PollMove) :
    Throughout (Retries monitor) (history monitor moves).past ↔
      Throughout (NoneRaises monitor) (history monitor moves).past := by
  apply run_throughout_iff (step monitor) .initial (Kept monitor) (Retries monitor)
    (NoneRaises monitor)
  · intro txid
    exact iff_of_false nofun fun ⟨_, member, _⟩ => nomatch member
  · intro past now move after output kept accepted
    exact (sees_kept_iff kept (step_sees accepted)).1
  · intro past now move after output kept accepted
    exact (sees_kept_iff kept (step_sees accepted)).2

/-- The only deposit is listed, and the call for it raises. -/
def depositListed : List PollMove :=
  [.made (.arrived ⟨"a1", [("bc1q", 100000)]⟩), .made (.confirmed "a1" 6), .made .listed]

def failsOnce : PollMove := .made (.examined (.raised false))

/-- The deposit is seen, and no call for it returned. -/
theorem failed_not_retried :
    ¬ ∀ monitor moves, Throughout (Retries monitor) (history monitor moves).past := by
  intro always
  have whole : (history monitorOfTwo (depositListed ++ [failsOnce])).past =
      (history monitorOfTwo depositListed).past ++ [⟨(history monitorOfTwo depositListed).now,
        failsOnce, (), (history monitorOfTwo (depositListed ++ [failsOnce])).now⟩] := rfl
  have last := always monitorOfTwo (depositListed ++ [failsOnce]) _ _ [] whole
  obtain ⟨entry, member, returned, _⟩ := last.1 "a1" (by decide +kernel)
  rw [← whole] at member
  have offered := (run_inputs_sublist _ _ _).subset (List.mem_map_of_mem member)
  rw [returned] at offered
  simp [depositListed, failsOnce] at offered

end BigX.Custody.SeenDeposits
